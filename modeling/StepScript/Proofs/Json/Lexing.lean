import Mathlib
import StepScript.Json.Value

/-!
# Lexemes are read back

**What is written and what is read.** Data is written character by character, and read by a fold
that completes a lexeme when it sees the character behind it. `Lexeme.Reads` says that a text is
read as certain lexemes whatever follows it, as long as that does not go on with a number or a word
(`Lexeme.Ends`). Texts that are read so can be joined by commas and put between brackets
(`Reads.join`, `Reads.enclose`, `reads_intercalate`), so it is enough to look at numbers, words and
strings by themselves.

**Numbers.** The digits of a number have no superfluous zero in front and are gathered without loss
as long as the number fits (`Number.read?_ofNat`, `Number.value?_ofNat`).

**Strings.** A character is written as it is, as a backslash and a letter, or by its code. In each
case it is read as one piece that stands for the character (`Lexeme.Spells`), and so the whole string
is read again (`Lexeme.reads_quote`).
-/

namespace StepScript.Json

namespace Number

/-- If the number that digits make fits, all of them are gathered. -/
theorem gather_eq (digits : Text) (n : Nat) (fits : Nat.ofDigitChars 10 digits n < twoTo 64) :
    gather n digits = (Nat.ofDigitChars 10 digits n, []) := by
  induction digits generalizing n with
  | nil => rfl
  | cons c digits ih =>
    have next : Nat.ofDigitChars 10 (c :: digits) n =
        Nat.ofDigitChars 10 digits (n * 10 + digitValue c) := by
      rw [Nat.ofDigitChars_cons, digitValue, Nat.mul_comm]
    have grows : n * 10 + digitValue c ≤ Nat.ofDigitChars 10 digits (n * 10 + digitValue c) := by
      rw [Nat.ofDigitChars_eq_ofDigitChars_zero]
      exact (Nat.le_mul_of_pos_left _ (Nat.pow_pos (by decide))).trans (Nat.le_add_right _ _)
    rw [next] at fits ⊢
    rw [gather, if_pos (grows.trans_lt fits), ih _ fits]

/-- The digits of a positive number do not begin with a zero. -/
theorem head?_toDigits {n : Nat} (pos : 0 < n) : (Nat.toDigits 10 n).head? ≠ some '0' := by
  induction n using Nat.base_induction 10 (by decide) with
  | single n small =>
    rw [Nat.toDigits_of_lt_base small]
    interval_cases n <;> decide
  | digit n k small positive ih =>
    rw [← Nat.toDigits_append_toDigits (by decide) positive small, List.head?_append_of_ne_nil _
      Nat.toDigits_ne_nil]
    exact ih positive

/-- The digits of a number are read as digits only. -/
theorem splitDigits_ofNat (n : Nat) : splitDigits (Text.ofNat n) = (Text.ofNat n, []) := by
  have digits : ∀ c ∈ Text.ofNat n, c.isDigit = true := fun c mem =>
    Nat.isDigit_of_mem_toDigits (by decide) (by decide) mem
  rw [splitDigits, List.takeWhile_eq_self_iff.mpr digits, List.dropWhile_eq_nil_iff.mpr digits]

/-- **A number that is written is read again.** -/
theorem read?_ofNat (n : Nat) : read? (Text.ofNat n) = some ⟨false, Text.ofNat n, [], none⟩ := by
  have unsigned : (Text.ofNat n).head? ≠ some '-' := by
    intro sign
    have digit : '-'.isDigit = true :=
      Nat.isDigit_of_mem_toDigits (by decide) (by decide) (List.mem_of_mem_head? sign)
    exact absurd digit (by decide)
  have plain : ¬ (Text.ofNat n = [] ∨ (Text.ofNat n).head? = some '0' ∧ Text.ofNat n ≠ ['0']) := by
    rintro (empty | ⟨zero, more⟩)
    · exact Nat.toDigits_ne_nil empty
    · rcases Nat.eq_zero_or_pos n with rfl | pos
      · exact more rfl
      · exact head?_toDigits pos zero
  unfold read?
  simp only [unsigned, decide_false, if_false, splitDigits_ofNat]
  rw [if_neg plain]
  rfl

/-- It has the value that it had. -/
theorem value?_ofNat {n : Nat} (fits : n < twoTo 64) :
    Written.value? ⟨false, Text.ofNat n, [], none⟩ = some (.natural n) := by
  have gathered : gather 0 (Text.ofNat n) = (n, []) := by
    have all := gather_eq (Text.ofNat n) 0
    rw [Text.ofNat, Nat.ofDigitChars_ten_toDigits] at all
    exact all fits
  simp [Written.value?, gathered, gather]

end Number

namespace Lexeme

/-- What follows a number or a word: nothing, or a character that is no part of it. -/
def Ends (rest : Text) : Prop := ∀ c ∈ rest.head?, isBare c = false

/-- A text reads as lexemes, whatever follows it that does not go on with a number or a word. -/
def Reads (t : Text) (lexemes : List Lexeme) : Prop :=
  ∀ rest, Ends rest → listFrom? .nothing (t ++ rest) = (listFrom? .nothing rest).map (lexemes ++ ·)

variable {t u : Text} {read more : List Lexeme}

/-- Nothing reads as no lexemes. -/
theorem reads_nil : Reads [] [] := fun rest _ => by simp

/-- A sign of punctuation is read by itself. -/
theorem listFrom?_punctuation {c : Char} {lexeme : Lexeme}
    (sign : start? c = some ([lexeme], .nothing)) (rest : Text) :
    listFrom? .nothing (c :: rest) = (listFrom? .nothing rest).map (lexeme :: ·) := by
  rw [listFrom?, step?, sign]
  rfl

/-- It is no part of a number or a word. -/
theorem ends_punctuation {c : Char} (sign : isBare c = false) (rest : Text) : Ends (c :: rest) := by
  intro d mem
  obtain rfl : c = d := Option.some.inj mem
  exact sign

/-- A sign of punctuation between two texts. -/
theorem Reads.join (first : Reads t read) (second : Reads u more) {c : Char} {lexeme : Lexeme}
    (sign : start? c = some ([lexeme], .nothing)) (other : isBare c = false) :
    Reads (t ++ c :: u) (read ++ lexeme :: more) := by
  intro rest ends
  rw [List.append_assoc, List.cons_append, first _ (ends_punctuation other _),
    listFrom?_punctuation sign, second rest ends]
  simp [Option.map_map, Function.comp_def]

/-- Signs of punctuation around a text. -/
theorem Reads.enclose (inner : Reads t read) {c d : Char} {opening closing : Lexeme}
    (first : start? c = some ([opening], .nothing)) (last : start? d = some ([closing], .nothing))
    (other : isBare d = false) : Reads (c :: t ++ [d]) (opening :: read ++ [closing]) := by
  intro rest ends
  rw [List.append_assoc, List.cons_append, listFrom?_punctuation first, List.singleton_append,
    inner _ (ends_punctuation other _), listFrom?_punctuation last]
  simp [Option.map_map, Function.comp_def]

/-- Parts that are read, with commas between them. -/
theorem reads_intercalate {texts : List Text} {parts : List (List Lexeme)}
    (each : List.Forall₂ Reads texts parts) :
    Reads ([','].intercalate texts) ([comma].intercalate parts) := by
  induction each with
  | nil => exact reads_nil
  | @cons t read texts parts first others ih =>
    cases others with
    | nil => simpa using first
    | cons =>
      rw [List.intercalate_cons_cons, List.intercalate_cons_cons, List.append_assoc,
        List.append_assoc]
      exact first.join ih rfl rfl

/-! ### Words and numbers -/

/-- A letter, a digit or a sign begins a number or a word. -/
theorem start?_of_isBare {c : Char} (bare : isBare c = true) :
    start? c = some ([], .bare [c]) := by
  unfold start?
  split
  case h_8 =>
    split_ifs with blank
    · rcases blank with rfl | rfl | rfl | rfl <;> exact absurd bare (by decide)
    · rfl
  all_goals exact absurd bare (by decide)

/-- Such characters go on with a number or a word. -/
theorem listFrom?_bare {run : Text} (bare : ∀ c ∈ run, isBare c = true) (read rest : Text) :
    listFrom? (.bare read) (run ++ rest) = listFrom? (.bare (run.reverse ++ read)) rest := by
  induction run generalizing read with
  | nil => rfl
  | cons c run ih =>
    rw [List.forall_mem_cons] at bare
    rw [List.cons_append, listFrom?, step?, if_pos bare.1]
    simp [ih bare.2]

/-- What ends a number or a word completes it. -/
theorem listFrom?_bare_ends {read rest : Text} {lexeme : Lexeme} (ends : Ends rest)
    (atom : atom? read.reverse = some lexeme) :
    listFrom? (.bare read) rest = (listFrom? .nothing rest).map (lexeme :: ·) := by
  cases rest with
  | nil => simp [listFrom?, atom]
  | cons c rest =>
    have other : isBare c = false := ends c rfl
    rw [listFrom?, step?, if_neg (by simp [other]), atom, listFrom?, step?]
    cases start? c with
    | none => rfl
    | some next => simp [Option.map_map, Function.comp_def]

/-- A number or a word is read as such. -/
theorem reads_atom {run : Text} {lexeme : Lexeme} (bare : ∀ c ∈ run, isBare c = true)
    (atom : atom? run = some lexeme) (some_char : run ≠ []) : Reads run [lexeme] := by
  intro rest ends
  obtain ⟨c, run, rfl⟩ := List.exists_cons_of_ne_nil some_char
  rw [List.forall_mem_cons] at bare
  rw [List.cons_append, listFrom?, step?, start?_of_isBare bare.1]
  simp only [List.nil_append, Option.map_id']
  rw [listFrom?_bare bare.2, listFrom?_bare_ends ends]
  · rfl
  · simpa using atom

/-! ### Strings -/

/-- In a string `part` is read as one piece, which stands for the character `c` wherever it is. -/
def Spells (part : Text) (c : Char) : Prop :=
  ∃ piece : Piece,
    (∀ read rest, listFrom? (.string read) (part ++ rest) =
      listFrom? (.string (piece :: read)) rest) ∧
    ∀ pieces, joinPieces (piece :: pieces) = (joinPieces pieces).map (c :: ·)

/-- A unit that is no half of a surrogate pair stands for its character. -/
theorem joinPieces_unit {code : Nat} (small : code < 0xD800) (pieces : List Piece) :
    joinPieces (.unit code :: pieces) = (joinPieces pieces).map (Char.ofNat code :: ·) := by
  have high : isHighHalf code = false := by simp [isHighHalf]; omega
  have low : isLowHalf code = false := by simp [isLowHalf]; omega
  match pieces with
  | [] => simp [joinPieces, high, low]
  | .char _ :: _ => simp [joinPieces, high, low]
  | .unit _ :: _ => simp [joinPieces, high, low]

/-- A hexadecimal digit is read again. -/
theorem hexValue?_hexDigit {n : Nat} (small : n < 16) : hexValue? (Value.hexDigit n) = some n := by
  interval_cases n <;> decide

/-- A character that needs no escape is written as it is. -/
theorem spells_plain {c : Char} (quote : c ≠ '"') (backslash : c ≠ '\\')
    (control : ¬ c.toNat < 0x20) : Spells [c] c := by
  refine ⟨.char c, fun read rest => ?_, fun pieces => rfl⟩
  rw [List.singleton_append, listFrom?, step?, if_neg quote, if_neg backslash, if_neg control]
  simp

/-- A backslash and a letter stand for a character. -/
theorem spells_escape {c d : Char} (letter : d ≠ 'u') (stands : unescape? d = some c) :
    Spells ['\\', d] c := by
  refine ⟨.char c, fun read rest => ?_, fun pieces => rfl⟩
  simp [listFrom?, step?, letter, stands]

/-- Another control character is written by its code. -/
theorem spells_code {c : Char} (control : c.toNat < 0x20) :
    Spells ['\\', 'u', '0', '0', Value.hexDigit (c.toNat / 16), Value.hexDigit (c.toNat % 16)]
      c := by
  have zero : hexValue? '0' = some 0 := by decide
  have upper : hexValue? (Value.hexDigit (c.toNat / 16)) = some (c.toNat / 16) :=
    hexValue?_hexDigit (by omega)
  have lower : hexValue? (Value.hexDigit (c.toNat % 16)) = some (c.toNat % 16) :=
    hexValue?_hexDigit (by omega)
  have whole : (c.toNat / 16) * 16 + c.toNat % 16 = c.toNat := Nat.div_add_mod' _ _
  refine ⟨.unit c.toNat, fun read rest => ?_, fun pieces => ?_⟩
  · simp [listFrom?, step?, zero, upper, lower, whole]
  · rw [joinPieces_unit (by omega), Char.ofNat_toNat]

/-- Every character of a string is written as what stands for it. -/
theorem spells_escapeChar (c : Char) : Spells (Value.escapeChar c) c := by
  unfold Value.escapeChar
  split_ifs with quote backslash newline return_ tab bell feed control
  · subst quote
    exact spells_escape (by decide) rfl
  · subst backslash
    exact spells_escape (by decide) rfl
  · subst newline
    exact spells_escape (by decide) rfl
  · subst return_
    exact spells_escape (by decide) rfl
  · subst tab
    exact spells_escape (by decide) rfl
  · have same : Char.ofNat 8 = c := by rw [← bell, Char.ofNat_toNat]
    rw [← same]
    exact spells_escape (by decide) rfl
  · have same : Char.ofNat 12 = c := by rw [← feed, Char.ofNat_toNat]
    rw [← same]
    exact spells_escape (by decide) rfl
  · exact spells_code control
  · exact spells_plain quote backslash control

/-- What is written of a text in quotes is read as pieces that make the text. -/
theorem listFrom?_escaped (s : Text) (read : List Piece) (rest : Text) :
    ∃ pieces, joinPieces pieces = some s ∧
      listFrom? (.string read) (s.flatMap Value.escapeChar ++ rest) =
        listFrom? (.string (pieces.reverse ++ read)) rest := by
  induction s generalizing read with
  | nil => exact ⟨[], rfl, rfl⟩
  | cons c s ih =>
    obtain ⟨piece, lexed, joined⟩ := spells_escapeChar c
    obtain ⟨pieces, whole, more⟩ := ih (piece :: read)
    refine ⟨piece :: pieces, by rw [joined, whole, Option.map_some], ?_⟩
    rw [List.flatMap_cons, List.append_assoc, lexed, more]
    simp

/-- **A string is read again**, whatever follows it. -/
theorem reads_quote (s : Text) : Reads (Value.quote s) [string (some s)] := by
  intro rest _
  obtain ⟨pieces, whole, lexed⟩ := listFrom?_escaped s [] ('"' :: rest)
  rw [Value.quote, List.cons_append, List.cons_append, List.append_assoc, List.singleton_append,
    listFrom?, step?]
  simp only [start?, List.nil_append, Option.map_id']
  rw [lexed, List.append_nil, listFrom?, step?, if_pos rfl, List.reverse_reverse, whole]

end Lexeme

end StepScript.Json
