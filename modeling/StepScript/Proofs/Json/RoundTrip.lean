import StepScript.Proofs.Json.Lexing

/-!
# Values are read back

**From values to trees.** A value is written as a sequence of lexemes without blanks between them
(`Value.lexemes`). Its text is read as these lexemes (`Value.reads_compact`), and the lexemes make
the tree of the value (`Value.makes_lexemes`), so what is written is read again
(`Value.parse?_compact`).

**Numbers.** This is said of values whose numbers are integers from zero up that fit 64 bits
(`Value.Whole`). A fraction is kept as a decimal, and whether its text is read as that decimal is a
question about rounding that the shape of a value has no part in.

**Open arrays and objects.** Lexemes that make a tree do so inside any array and object that are
open around them (`Progress.Makes`), which is what the induction over values needs.
-/

namespace StepScript.Json

namespace Value

open Lexeme

mutual

/-- The lexemes that a value is written with. -/
def lexemes : Value → List Lexeme
  | null => [.atom .null]
  | bool b => [.atom (.bool b)]
  | number n => [.atom (.number (some n))]
  | string s => [.string (some s)]
  | array items => .openArray :: [.comma].intercalate (itemLexemes items) ++ [.closeArray]
  | object members => .openObject :: [.comma].intercalate (memberLexemes members) ++ [.closeObject]

/-- The lexemes of values, one after another. -/
def itemLexemes : List Value → List (List Lexeme)
  | [] => []
  | v :: rest => lexemes v :: itemLexemes rest

/-- The lexemes of members, one after another. -/
def memberLexemes : List (Text × Value) → List (List Lexeme)
  | [] => []
  | (key, v) :: rest => (.string (some key) :: .colon :: lexemes v) :: memberLexemes rest

end

mutual

/-- The numbers in a value are integers from zero up that fit 64 bits. -/
def Whole : Value → Prop
  | number n => ∃ k < twoTo 64, n = .natural k
  | array items => WholeItems items
  | object members => WholeMembers members
  | _ => True

/-- The numbers in values are such integers. -/
def WholeItems : List Value → Prop
  | [] => True
  | v :: rest => Whole v ∧ WholeItems rest

/-- The numbers in members are such integers. -/
def WholeMembers : List (Text × Value) → Prop
  | [] => True
  | (_, v) :: rest => Whole v ∧ WholeMembers rest

end

/-- A number from zero up is read again. -/
theorem reads_number {n : Nat} (fits : n < twoTo 64) :
    Reads (Text.ofNat n) [.atom (.number (some (.natural n)))] := by
  have digits : ∀ c ∈ Text.ofNat n, c.isDigit = true := fun c mem =>
    Nat.isDigit_of_mem_toDigits (by decide) (by decide) mem
  refine reads_atom (fun c mem => ?_) ?_ Nat.toDigits_ne_nil
  · simp [isBare, Char.isAlphanum, digits c mem]
  · have word (w : Text) (letter : ∃ c ∈ w, c.isDigit = false) : Text.ofNat n ≠ w := by
      obtain ⟨c, mem, other⟩ := letter
      exact fun same => absurd (digits c (same ▸ mem)) (by simp [other])
    rw [atom?, if_neg (word _ ⟨'n', by simp, rfl⟩), if_neg (word _ ⟨'t', by simp, rfl⟩),
      if_neg (word _ ⟨'f', by simp, rfl⟩), Number.read?_ofNat, Option.map_some,
      Number.value?_ofNat fits]

mutual

/-- The text of a value reads as its lexemes. -/
theorem reads_compact : ∀ v : Value, v.Whole → Reads v.compact v.lexemes
  | null, _ => reads_atom (by simp [compact, isBare]) rfl (by simp [compact])
  | bool true, _ => reads_atom (by simp [compact, isBare]) rfl (by simp [compact])
  | bool false, _ => reads_atom (by simp [compact, isBare]) rfl (by simp [compact])
  | number n, whole => by
    obtain ⟨k, fits, rfl⟩ := whole
    exact reads_number fits
  | string s, _ => reads_quote s
  | array items, whole =>
    (reads_intercalate (reads_compactItems items whole)).enclose rfl rfl rfl
  | object members, whole =>
    (reads_intercalate (reads_compactMembers members whole)).enclose rfl rfl rfl

/-- So do the texts of values. -/
theorem reads_compactItems : ∀ items : List Value, WholeItems items →
    List.Forall₂ Reads (compactItems items) (itemLexemes items)
  | [], _ => .nil
  | v :: rest, whole => .cons (reads_compact v whole.1) (reads_compactItems rest whole.2)

/-- So do the texts of members. -/
theorem reads_compactMembers : ∀ members : List (Text × Value), WholeMembers members →
    List.Forall₂ Reads (compactMembers members) (memberLexemes members)
  | [], _ => .nil
  | (key, v) :: rest, whole => by
    have member : Reads (quote key ++ ':' :: compact v)
        (.string (some key) :: .colon :: lexemes v) :=
      (reads_quote key).join (reads_compact v whole.1) rfl rfl
    exact .cons member (reads_compactMembers rest whole.2)

end

end Value

/-! ## Trees from lexemes -/

namespace Progress

/-- Lexemes make a tree, wherever a tree is expected. -/
def Makes (lexemes : List Lexeme) (t : Tree) : Prop :=
  ∀ outer, lexemes.foldlM step? (.expectsTree outer) = some (.complete outer t)

/-- Lexemes make a member: its name, a colon and its tree. -/
def MakesMember (lexemes : List Lexeme) (member : Option Text × Tree) : Prop :=
  ∃ inner, lexemes = .string member.1 :: .colon :: inner ∧ Makes inner member.2

/-- Items with commas between them, up to the end of the array. -/
theorem foldlM_items {parts : List (List Lexeme)} {items : List Tree}
    (each : List.Forall₂ Makes parts items) (some_item : parts ≠ []) (done : List Tree)
    (outer : List Frame) :
    ([Lexeme.comma].intercalate parts ++ [Lexeme.closeArray]).foldlM step?
        (.expectsTree (.array done :: outer)) =
      some (.complete outer (.array (done.reverse ++ items))) := by
  induction each generalizing done with
  | nil => exact absurd rfl some_item
  | @cons part item parts items first others ih =>
    cases others with
    | nil => simp [List.foldlM_append, first _, step?, continue?]
    | cons =>
      rw [List.intercalate_cons_cons, List.append_assoc, List.append_assoc, List.foldlM_append,
        first _]
      -- the comma takes the item into the array
      exact (ih (by simp) (item :: done)).trans (by simp)

/-- After an opening bracket an item is read as it is after a comma. -/
theorem Makes.foldlM_expectsItem {lexemes : List Lexeme} {t : Tree} (made : Makes lexemes t)
    (more : List Lexeme) (outer : List Frame) :
    (lexemes ++ more).foldlM step? (.expectsItem outer) =
      (lexemes ++ more).foldlM step? (.expectsTree (.array [] :: outer)) := by
  cases lexemes with
  | nil => exact absurd (made []) (by simp)
  | cons lexeme rest =>
    cases lexeme with
    | closeArray => exact absurd (made []) (by simp [step?, start?])
    | _ => rfl

/-- The items of an array, up to its end. -/
theorem foldlM_expectsItem {parts : List (List Lexeme)} {items : List Tree}
    (each : List.Forall₂ Makes parts items) (outer : List Frame) :
    ([Lexeme.comma].intercalate parts ++ [Lexeme.closeArray]).foldlM step? (.expectsItem outer) =
      some (.complete outer (.array items)) := by
  cases each with
  | nil => rfl
  | @cons part item parts items first others =>
    have read := foldlM_items (.cons first others) (by simp) [] outer
    cases parts with
    | nil =>
      rw [List.intercalate_singleton] at read ⊢
      rw [first.foldlM_expectsItem, read]
      rfl
    | cons =>
      rw [List.intercalate_cons_cons, List.append_assoc, List.append_assoc] at read ⊢
      rw [first.foldlM_expectsItem, read]
      rfl

/-- Members with commas between them, up to the end of the object. -/
theorem foldlM_members {parts : List (List Lexeme)} {members : List (Option Text × Tree)}
    (each : List.Forall₂ MakesMember parts members) (some_member : parts ≠ [])
    (done : List (Option Text × Tree)) (outer : List Frame) :
    ([Lexeme.comma].intercalate parts ++ [Lexeme.closeObject]).foldlM step?
        (.expectsKey outer done) =
      some (.complete outer (.object (done.reverse ++ members))) := by
  induction each generalizing done with
  | nil => exact absurd rfl some_member
  | @cons part member parts members first others ih =>
    obtain ⟨inner, rfl, made⟩ := first
    cases others with
    | nil =>
      rw [List.intercalate_singleton, List.foldlM_append, List.foldlM_cons]
      simp [made _, step?, continue?]
    | cons =>
      rw [List.intercalate_cons_cons, List.append_assoc, List.append_assoc, List.foldlM_append,
        List.foldlM_cons]
      simp only [step?, Option.bind_some, bind, List.foldlM_cons, made _]
      exact (ih (by simp) (member :: done)).trans (by simp)

/-- The members of an object, up to its end. -/
theorem foldlM_expectsMember {parts : List (List Lexeme)} {members : List (Option Text × Tree)}
    (each : List.Forall₂ MakesMember parts members) (outer : List Frame) :
    ([Lexeme.comma].intercalate parts ++ [Lexeme.closeObject]).foldlM step?
        (.expectsMember outer) = some (.complete outer (.object members)) := by
  cases each with
  | nil => rfl
  | @cons part member parts members first others =>
    have read := foldlM_members (.cons first others) (by simp) [] outer
    obtain ⟨inner, rfl, made⟩ := first
    refine Eq.trans ?_ read
    cases parts <;> rfl

end Progress

namespace Value

open Lexeme Progress

mutual

/-- The lexemes of a value make its tree. -/
theorem makes_lexemes : ∀ v : Value, Makes v.lexemes v.toTree
  | null, _ => rfl
  | bool _, _ => rfl
  | number _, _ => rfl
  | string _, _ => rfl
  | array items, outer => foldlM_expectsItem (makes_items items) outer
  | object members, outer => foldlM_expectsMember (makes_members members) outer

/-- So do those of values. -/
theorem makes_items : ∀ items : List Value,
    List.Forall₂ Makes (itemLexemes items) (toTrees items)
  | [] => .nil
  | v :: rest => .cons (makes_lexemes v) (makes_items rest)

/-- So do those of members. -/
theorem makes_members : ∀ members : List (Text × Value),
    List.Forall₂ MakesMember (memberLexemes members) (toMembers members)
  | [] => .nil
  | (_, v) :: rest => .cons ⟨v.lexemes, rfl, makes_lexemes v⟩ (makes_members rest)

end

/-- **A value that is written is read again.** -/
theorem parse?_compact {v : Value} (whole : v.Whole) : Tree.parse? v.compact = some v.toTree := by
  have lexed : listFrom? .nothing v.compact = some v.lexemes := by
    have read := reads_compact v whole [] (by simp [Ends])
    rwa [List.append_nil, listFrom?, Option.map_some, List.append_nil] at read
  rw [Tree.parse?, lexed, Option.bind_some, makes_lexemes v []]
  rfl

end Value

end StepScript.Json
