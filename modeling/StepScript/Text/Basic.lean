import StepScript.Character.Blank

/-!
# Texts: lists of characters, their pieces and their lines

**Why lists.** Every rule of this library is a rule about characters in order, so a text is a list
of characters, and the functions on texts are recursions on the list. The outermost layer turns
strings into texts and back.

**Pieces and lines.** `Text.pieces` cuts a text at the characters that satisfy a predicate and
keeps empty pieces, so nothing but the separators is lost. The lines of a document and the words
of a keyword phrase are both read off it: a line ends with a line feed, or with a carriage return
and a line feed (`Text.lines`); a phrase word is a piece between blank characters (`Text.words`).
-/

namespace StepScript

/-- A text, as the list of its characters. -/
abbrev Text := List Char

namespace Text

/-! ## Pieces -/

/-- Puts a character in front of the first piece of a list. -/
def consHead (c : Char) : List Text → List Text
  | [] => [[c]]
  | piece :: pieces => (c :: piece) :: pieces

/-- The pieces between the characters that satisfy `p`, empty ones included. There is always at
least one. -/
def pieces (p : Char → Bool) : Text → List Text
  | [] => [[]]
  | c :: rest => if p c then [] :: pieces p rest else consHead c (pieces p rest)

/-- With a character in front there is a first piece. -/
theorem consHead_ne_nil (c : Char) (ps : List Text) : consHead c ps ≠ [] := by
  cases ps <;> simp [consHead]

/-- A text has at least one piece. -/
theorem pieces_ne_nil (p : Char → Bool) (t : Text) : pieces p t ≠ [] := by
  cases t with
  | nil => simp [pieces]
  | cons c rest =>
    unfold pieces
    split
    · simp
    · exact consHead_ne_nil _ _

/-- A piece holds no separator. -/
theorem not_sep_of_mem_pieces {p : Char → Bool} {t piece : Text} (h : piece ∈ pieces p t) :
    ∀ c ∈ piece, p c = false := by
  induction t generalizing piece with
  | nil => simp_all [pieces]
  | cons c t ih =>
    rw [pieces] at h
    split at h
    · rcases List.mem_cons.mp h with rfl | later
      · simp
      · exact ih later
    · rename_i not_sep
      cases found : pieces p t with
      | nil => exact absurd found (pieces_ne_nil p t)
      | cons head others =>
        rw [found, consHead] at h
        rcases List.mem_cons.mp h with rfl | later
        · rw [List.forall_mem_cons]
          exact ⟨by simpa using not_sep, ih (found ▸ List.mem_cons_self)⟩
        · exact ih (found ▸ List.mem_cons_of_mem _ later)

/-- The words of a text: its non-empty pieces between blank characters. -/
def words (t : Text) : List Text :=
  (pieces isBlank t).filter (· ≠ [])

/-- The words joined by single spaces. -/
def unwords (ws : List Text) : Text := [' '].intercalate ws

/-! ## Lines -/

/-- The text without the carriage return that precedes its line feed, if there is one. -/
def dropReturn (line : Text) : Text :=
  if line.getLast? = some '\r' then line.dropLast else line

/-- The lines that end with a line feed lose their carriage return; what follows the last line
feed is a line only if it is not empty, and keeps its characters. -/
def linesOfPieces : List Text → List Text
  | [] => []
  | [last] => if last = [] then [] else [last]
  | line :: lines => dropReturn line :: linesOfPieces lines

/-- The lines of a document, without their line endings. -/
def lines (t : Text) : List Text := linesOfPieces (pieces (· == '\n') t)

/-- The text without the trailing characters that satisfy `p`. -/
def dropTrailing (p : Char → Bool) (t : Text) : Text := (t.reverse.dropWhile p).reverse

/-! ## Searching -/

/-- Whether `needle` occurs in the text. -/
def occursIn (needle : Text) : Text → Bool
  | [] => needle.isEmpty
  | c :: rest => needle.isPrefixOf (c :: rest) || occursIn needle rest

/-- A text occurs in another one if it is a part of it. -/
theorem occursIn_iff {needle t : Text} : needle.occursIn t = true ↔ needle <:+: t := by
  induction t with
  | nil => simp [occursIn]
  | cons c t ih => rw [occursIn, Bool.or_eq_true, List.isPrefixOf_iff_prefix, ih, List.infix_cons_iff]

/-- The decimal digits of a number. -/
def ofNat (n : Nat) : Text := Nat.toDigits 10 n

end Text

end StepScript
