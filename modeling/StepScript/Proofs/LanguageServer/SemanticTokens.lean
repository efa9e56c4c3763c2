import Mathlib
import StepScript.LanguageServer.SemanticTokens
import StepScript.Proofs.Grammar.Coverage

/-!
# The numbers that colour a document tell where its tokens are

**Reading the numbers.** The protocol says how a reader finds the marks again: each group of five
numbers is counted from the mark before it (`decodeFrom?`). What has to come out is said without
marks (`spanMarks`): of each line, the spans of its coloured tokens, which are byte offsets, with the
place and the length counted in sixteen-bit units of that line.

**How it is proved.** The marks of a line are those of its spans, since the units before a token are
those of the tokens before it (`marksInLine_eq`). Marks are in order, each one ending before the next
one begins (`Mark.Before`). In that order every difference that is sent is one of natural numbers
(`differencesFrom?_eq`), and adding the differences up again gives the marks back
(`decodeFrom?_differencesFrom`).

**Colours.** A kind of token with a colour has a type and modifiers of the legend
(`lt_of_colour?_eq_some`), the modifier for what is invalid is for the two kinds of invalid tokens
(`testBit_invalid_iff`), and no two kinds have one colour (`eq_of_colour?_eq_some`).
-/

namespace StepScript

/-! ## Units -/

namespace Text

/-- Units add up. -/
theorem unitLength_append (s t : Text) : unitLength (s ++ t) = unitLength s + unitLength t := by
  induction s with
  | nil => simp [unitLength]
  | cons c s ih => simp only [List.cons_append, unitLength, ih, Nat.add_assoc]

/-- A text that is not empty takes at least one unit. -/
theorem unitLength_pos {t : Text} (h : t ≠ []) : 0 < unitLength t := by
  cases t with
  | nil => exact absurd rfl h
  | cons c t =>
    have one : 0 < unitSize c := by
      unfold unitSize
      split <;> simp
    rw [unitLength]
    omega

end Text

namespace LanguageServer

/-! ## Reading the numbers -/

/-- The marks that numbers stand for, behind a mark that starts at the given place; none when a
group of five is not complete. -/
def decodeFrom? (line start : Nat) : List Nat → Option (List Mark)
  | [] => some []
  | lines :: offset :: length :: type :: modifiers :: rest =>
    let line := line + lines
    let start := if 0 < lines then offset else start + offset
    (decodeFrom? line start rest).map (⟨line, start, length, type, modifiers⟩ :: ·)
  | _ => none

/-- The marks that numbers stand for. -/
def decode? (numbers : List Nat) : Option (List Mark) := decodeFrom? 0 0 numbers

/-- The mark of a span of a line, if its token is coloured. -/
def spanMark? (number : Nat) (line : Text) (span : Nat × Nat × Token) : Option Mark :=
  (colour? span.2.2.kind).map fun colour =>
    let before := line.takeBytes span.1
    let covered := (line.takeBytes span.2.1).dropBytes span.1
    ⟨number, before.unitLength, covered.unitLength, colour.1, colour.2⟩

/-- The marks of the spans of a document whose lines have been read. -/
def spanMarks (document : Text) (read : List LineTokens) : List Mark :=
  (document.lines.zip read).zipIdx.flatMap fun l =>
    (Token.spans l.1.2.tokens).filterMap (spanMark? l.2 l.1.1)

/-- A mark relative to one that starts at the given place, if all subtractions succeed. -/
def Mark.since? (m : Mark) (line start : Nat) : Option Difference := do
  let lines ← checkedSub m.line line
  let start ← if lines = 0 then checkedSub m.start start else some m.start
  return ⟨lines, start, m.length, m.type, m.modifiers⟩

/-- Marks relative to each other, if all subtractions succeed. -/
def differencesFrom? (line start : Nat) : List Mark → Option (List Difference)
  | [] => some []
  | m :: rest => do
    let first ← m.since? line start
    let others ← differencesFrom? m.line m.start rest
    return first :: others

/-! ## Marks in order -/

/-- A mark that ends before another one begins. -/
def Mark.Before (a b : Mark) : Prop :=
  a.line < b.line ∨ (a.line = b.line ∧ a.start + a.length ≤ b.start)

/-- A mark that does not start before a place. -/
def Mark.NotBefore (m : Mark) (line start : Nat) : Prop :=
  line ≤ m.line ∧ (m.line = line → start ≤ m.start)

variable {m : Mark} {line start number : Nat} {ms : List Mark}

/-- A mark is not before one that ends before it begins. -/
theorem Mark.Before.notBefore {other : Mark} (before : m.Before other) :
    other.NotBefore m.line m.start := by
  rcases before with earlier | ⟨same, apart⟩
  · exact ⟨earlier.le, fun same => absurd same earlier.ne'⟩
  · exact ⟨same.le, fun _ => (Nat.le_add_right _ _).trans apart⟩

/-- A mark behind a place is sent by differences of natural numbers. -/
theorem Mark.since?_eq (notBefore : m.NotBefore line start) :
    m.since? line start = some (m.since line start) := by
  obtain ⟨line_le, start_le⟩ := notBefore
  rw [since?, since, checkedSub, if_pos line_le]
  by_cases same : m.line = line
  · simp [same, checkedSub, start_le same]
  · have later : m.line - line ≠ 0 := by omega
    simp [same, later]

/-- **Marks in order are sent by differences of natural numbers.** -/
theorem differencesFrom?_eq (behind : ∀ m ∈ ms, m.NotBefore line start)
    (ordered : ms.Pairwise Mark.Before) :
    differencesFrom? line start ms = some (differencesFrom line start ms) := by
  induction ms generalizing line start with
  | nil => rfl
  | cons m ms ih =>
    rw [List.forall_mem_cons] at behind
    rw [List.pairwise_cons] at ordered
    have others := ih (fun other mem => (ordered.1 other mem).notBefore) ordered.2
    rw [differencesFrom?, Mark.since?_eq behind.1, others]
    rfl

/-- The numbers of a mark are read as that mark. -/
theorem decodeFrom?_numbers (notBefore : m.NotBefore line start) (rest : List Nat) :
    decodeFrom? line start ((m.since line start).numbers ++ rest) =
      (decodeFrom? m.line m.start rest).map (m :: ·) := by
  obtain ⟨line_le, start_le⟩ := notBefore
  have same_line : line + (m.since line start).lines = m.line := Nat.add_sub_cancel' line_le
  have same_start : (if 0 < (m.since line start).lines then (m.since line start).start
      else start + (m.since line start).start) = m.start := by
    rw [Mark.since]
    by_cases same : m.line = line
    · have le := start_le same
      simp only [same, Nat.sub_self, lt_irrefl, if_true, if_false]
      omega
    · have later : 0 < m.line - line := by omega
      rw [if_pos later]
      exact if_neg same
  simp only [Difference.numbers, List.cons_append, List.nil_append, decodeFrom?, same_line,
    same_start]
  rfl

/-- **The differences of marks in order give the marks back.** -/
theorem decodeFrom?_differencesFrom (behind : ∀ m ∈ ms, m.NotBefore line start)
    (ordered : ms.Pairwise Mark.Before) :
    decodeFrom? line start ((differencesFrom line start ms).flatMap Difference.numbers) =
      some ms := by
  induction ms generalizing line start with
  | nil => rfl
  | cons m ms ih =>
    rw [List.forall_mem_cons] at behind
    rw [List.pairwise_cons] at ordered
    have others := ih (fun other mem => (ordered.1 other mem).notBefore) ordered.2
    rw [differencesFrom, List.flatMap_cons, decodeFrom?_numbers behind.1, others]
    rfl

/-! ## The marks of a line -/

variable {tokens : List Token} {lines : List LineTokens}

/-- The marks of a line are those of its spans. -/
theorem marksInLine_eq (number : Nat) (before : Text) (tokens : List Token) :
    marksInLine number before.unitLength tokens =
      (Token.spansFrom before.byteLength tokens).filterMap
        (spanMark? number (before ++ tokens.flatMap Token.text)) := by
  induction tokens generalizing before with
  | nil => rfl
  | cons token rest ih =>
    have later := ih (before ++ token.text)
    rw [Text.unitLength_append, Text.byteLength_append, List.append_assoc] at later
    have up_to : Text.takeBytes (before.byteLength + token.text.byteLength)
        (before ++ (token.text ++ rest.flatMap Token.text)) = before ++ token.text := by
      rw [← Text.byteLength_append, ← List.append_assoc, Text.takeBytes_append]
    rw [marksInLine, Token.spansFrom, List.flatMap_cons, List.filterMap_cons, later, spanMark?]
    dsimp only
    rw [up_to, Text.takeBytes_append, Text.dropBytes_append]
    cases colour? token.kind <;> rfl

/-- A mark of a line stands where the tokens of the line are. -/
theorem of_mem_marksInLine (mem : m ∈ marksInLine number start tokens) :
    m.line = number ∧ start ≤ m.start ∧
      m.start + m.length ≤ start + Text.unitLength (tokens.flatMap Token.text) := by
  induction tokens generalizing start with
  | nil => cases mem
  | cons token rest ih =>
    rw [List.flatMap_cons, Text.unitLength_append]
    have later : m ∈ marksInLine number (start + token.text.unitLength) rest → _ := ih
    rw [marksInLine] at mem
    split at mem
    · rcases List.mem_cons.mp mem with rfl | mem
      · exact ⟨rfl, le_rfl, by dsimp only; omega⟩
      · obtain ⟨same, le, within⟩ := later mem
        exact ⟨same, by omega, by omega⟩
    · obtain ⟨same, le, within⟩ := later mem
      exact ⟨same, by omega, by omega⟩

/-- A mark has the length and the colour of a token. -/
theorem exists_token_of_mem_marksInLine (mem : m ∈ marksInLine number start tokens) :
    ∃ token ∈ tokens, m.length = token.text.unitLength ∧
      colour? token.kind = some (m.type, m.modifiers) := by
  induction tokens generalizing start with
  | nil => cases mem
  | cons token rest ih =>
    have later : m ∈ marksInLine number (start + token.text.unitLength) rest → _ := ih
    rw [marksInLine] at mem
    split at mem
    · rename_i coloured
      rcases List.mem_cons.mp mem with rfl | mem
      · exact ⟨token, List.mem_cons_self, rfl, coloured⟩
      · obtain ⟨other, other_mem, same⟩ := later mem
        exact ⟨other, List.mem_cons_of_mem _ other_mem, same⟩
    · obtain ⟨other, other_mem, same⟩ := later mem
      exact ⟨other, List.mem_cons_of_mem _ other_mem, same⟩

/-- The marks of a line are in order. -/
theorem pairwise_marksInLine (number start : Nat) (tokens : List Token) :
    (marksInLine number start tokens).Pairwise Mark.Before := by
  induction tokens generalizing start with
  | nil => exact .nil
  | cons token rest ih =>
    rw [marksInLine]
    split
    · rw [List.pairwise_cons]
      refine ⟨fun other mem => ?_, ih _⟩
      obtain ⟨same, le, -⟩ := of_mem_marksInLine mem
      exact .inr ⟨same.symm, le⟩
    · exact ih _

/-! ## The marks of a document -/

/-- The marks of lines are those of their spans. -/
theorem marksFrom_eq (number : Nat) (lines : List LineTokens) :
    marksFrom number lines = (((lines.map LineTokens.text).zip lines).zipIdx number).flatMap
      fun l => (Token.spans l.1.2.tokens).filterMap (spanMark? l.2 l.1.1) := by
  induction lines generalizing number with
  | nil => rfl
  | cons first rest ih =>
    have here := marksInLine_eq number [] first.tokens
    rw [marksFrom, ih, List.map_cons, List.zip_cons_cons, List.zipIdx_cons, List.flatMap_cons]
    exact congrArg (· ++ _) here

/-- A mark of lines is one of its own line. -/
theorem of_mem_marksFrom (mem : m ∈ marksFrom number lines) :
    number ≤ m.line ∧ ∃ l, lines[m.line - number]? = some l ∧
      m ∈ marksInLine m.line 0 l.tokens := by
  induction lines generalizing number with
  | nil => cases mem
  | cons first rest ih =>
    rw [marksFrom, List.mem_append] at mem
    rcases mem with here | later
    · obtain ⟨rfl, -⟩ := of_mem_marksInLine here
      refine ⟨le_rfl, first, ?_, here⟩
      rw [Nat.sub_self, List.getElem?_cons_zero]
    · obtain ⟨le, l, found, mem⟩ := ih later
      have behind : m.line - number = m.line - (number + 1) + 1 := by omega
      refine ⟨by omega, l, ?_, mem⟩
      rw [behind, List.getElem?_cons_succ, found]

/-- The marks of lines are in order. -/
theorem pairwise_marksFrom (number : Nat) (lines : List LineTokens) :
    (marksFrom number lines).Pairwise Mark.Before := by
  induction lines generalizing number with
  | nil => exact .nil
  | cons first rest ih =>
    rw [marksFrom, List.pairwise_append]
    refine ⟨pairwise_marksInLine number 0 first.tokens, ih _, fun m here other later => ?_⟩
    obtain ⟨line_eq, -⟩ := of_mem_marksInLine here
    obtain ⟨le, -⟩ := of_mem_marksFrom later
    exact .inl (by omega)

/-- Only white space and plain text are not coloured. -/
theorem colour?_eq_none_iff (kind : TokenKind) :
    colour? kind = none ↔ kind = .white ∨ kind = .text := by
  cases kind <;> simp [colour?]

/-- Every colour is in the legend. -/
theorem lt_of_colour?_eq_some {kind : TokenKind} {type modifiers : Nat}
    (h : colour? kind = some (type, modifiers)) :
    type < tokenTypes.length ∧ modifiers < 2 ^ tokenModifiers.length := by
  cases kind <;> cases h <;> decide

/-- The bit for what is invalid is set for the two kinds of invalid tokens, and for no others. -/
theorem testBit_invalid_iff {kind : TokenKind} {type modifiers : Nat}
    (h : colour? kind = some (type, modifiers)) :
    modifiers.testBit (tokenModifiers.idxOf "invalid") = true ↔
      kind = .stringInvalid ∨ kind = .stringEscapeInvalid := by
  cases kind <;> cases h <;> decide

/-- Two kinds of tokens never have the same colour. -/
theorem eq_of_colour?_eq_some {kind other : TokenKind} {colour : Nat × Nat}
    (h : colour? kind = some colour) (same : colour? other = some colour) : kind = other := by
  cases kind <;> cases h <;> cases other <;> first | rfl | exact absurd same (by decide)

section Document

variable (g : Grammar) (document : Text)

/-- The lines that are read are those of the document. -/
theorem map_text_tokenize : (g.tokenize document).map LineTokens.text = document.lines :=
  g.vocabulary.text_tokenizeLines _ _

/-- Each mark of a document has units, lies within its line and has a colour of the legend. -/
theorem of_mem_marks (mem : m ∈ marks (g.tokenize document)) :
    0 < m.length ∧
      (∃ line, document.lines[m.line]? = some line ∧ m.start + m.length ≤ line.unitLength) ∧
      m.type < tokenTypes.length ∧ m.modifiers < 2 ^ tokenModifiers.length := by
  obtain ⟨-, l, found, mem⟩ := of_mem_marksFrom mem
  rw [Nat.sub_zero] at found
  obtain ⟨-, -, within⟩ := of_mem_marksInLine mem
  obtain ⟨token, token_mem, length, coloured⟩ := exists_token_of_mem_marksInLine mem
  have nonempty := g.vocabulary.nonempty_tokenizeLines _ _ l (List.mem_of_getElem? found)
  refine ⟨length ▸ Text.unitLength_pos (nonempty token token_mem), ⟨l.text, ?_, ?_⟩,
    lt_of_colour?_eq_some coloured⟩
  · rw [← map_text_tokenize g, List.getElem?_map, found]
    rfl
  · rwa [Nat.zero_add] at within

/-- **The numbers that colour a document tell where its tokens are.** No subtraction in making them
goes below zero. Read as the protocol says, they give in order the marks of the spans of all tokens
that are neither white space nor plain text. The marks have units, end before the next one on their
line begins, and lie within their line. Their type and their modifiers are in the legend, where the bit
for what is invalid is set exactly for the tokens that are, and the two together tell the kind. -/
theorem decode?_semanticTokens :
    let read := g.tokenize document
    differencesFrom? 0 0 (marks read) = some (differences (marks read)) ∧
      decode? (semanticTokens read) = some (spanMarks document read) ∧
      (spanMarks document read).Pairwise Mark.Before ∧
      (∀ m ∈ spanMarks document read, 0 < m.length ∧
        (∃ line, document.lines[m.line]? = some line ∧ m.start + m.length ≤ line.unitLength) ∧
        m.type < tokenTypes.length ∧ m.modifiers < 2 ^ tokenModifiers.length) ∧
      (∀ kind, colour? kind = none ↔ kind = .white ∨ kind = .text) ∧
      (∀ kind type modifiers, colour? kind = some (type, modifiers) →
        (modifiers.testBit (tokenModifiers.idxOf "invalid") = true ↔
          kind = .stringInvalid ∨ kind = .stringEscapeInvalid)) ∧
      ∀ kind other colour, colour? kind = some colour → colour? other = some colour →
        kind = other := by
  intro read
  have span_marks : marks read = spanMarks document read := by
    rw [marks, marksFrom_eq, map_text_tokenize, spanMarks]
  have ordered : (marks read).Pairwise Mark.Before := pairwise_marksFrom 0 read
  have behind : ∀ m ∈ marks read, m.NotBefore 0 0 := fun m _ =>
    ⟨Nat.zero_le _, fun _ => Nat.zero_le _⟩
  rw [← span_marks]
  exact ⟨differencesFrom?_eq behind ordered, decodeFrom?_differencesFrom behind ordered, ordered,
    fun m mem => of_mem_marks g document mem, colour?_eq_none_iff,
    fun _ _ _ => testBit_invalid_iff, fun _ _ _ => eq_of_colour?_eq_some⟩

/-- Every difference is that of some mark. -/
theorem exists_mark_of_mem_differencesFrom {d : Difference}
    (mem : d ∈ differencesFrom line start ms) : ∃ m ∈ ms, ∃ line start, m.since line start = d := by
  induction ms generalizing line start with
  | nil => cases mem
  | cons m ms ih =>
    rcases List.mem_cons.mp mem with rfl | later
    · exact ⟨m, List.mem_cons_self, line, start, rfl⟩
    · obtain ⟨other, other_mem, same⟩ := ih later
      exact ⟨other, List.mem_cons_of_mem _ other_mem, same⟩

/-- **The numbers are small.** None of them is as great as a bound for the number of lines, for the
units of each line and for the legend; numbers of 32 bits are enough for every document that has
fewer lines than that and no longer ones. -/
theorem lt_of_mem_semanticTokens {bound : Nat} (legend : tokenTypes.length ≤ bound)
    (short : document.lines.length ≤ bound)
    (narrow : ∀ line ∈ document.lines, line.unitLength < bound) :
    ∀ n ∈ semanticTokens (g.tokenize document), n < bound := by
  intro n mem
  obtain ⟨d, d_mem, n_mem⟩ := List.mem_flatMap.mp mem
  obtain ⟨m, m_mem, line, start, rfl⟩ := exists_mark_of_mem_differencesFrom d_mem
  obtain ⟨-, ⟨text, found, within⟩, type_lt, modifiers_lt⟩ := of_mem_marks g document m_mem
  have line_lt : m.line < bound := (List.getElem?_eq_some_iff.mp found).1.trans_le short
  have units_lt := narrow text (List.mem_of_getElem? found)
  have start_le : (m.since line start).start ≤ m.start := by
    rw [Mark.since]
    dsimp only
    split <;> omega
  have modifiers_lt : m.modifiers < tokenTypes.length := modifiers_lt.trans_le (by decide)
  simp only [Difference.numbers, List.mem_cons, List.not_mem_nil, or_false] at n_mem
  rcases n_mem with rfl | rfl | rfl | rfl | rfl
  · exact (Nat.sub_le _ _).trans_lt line_lt
  · omega
  · change m.length < bound
    omega
  · exact type_lt.trans_le legend
  · exact modifiers_lt.trans_le legend

end Document

end LanguageServer

end StepScript
