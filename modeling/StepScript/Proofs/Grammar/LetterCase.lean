import Mathlib
import StepScript.Proofs.Grammar.Independence
import StepScript.Proofs.Grammar.Resuming
import StepScript.Proofs.Text.LetterCase

/-!
# Tokens do not depend on letter case

**Two readings.** Two lines that differ in the case of the letters A to Z only have the same tokens.
What is proved is a law of one line: reading it with its capitals made small takes the same steps
(`Vocabulary.matchAt_small`), because each rule only measures runs of characters of a class, compares
with marks, or looks up the lower case of words; the letters that numbers may hold come in both cases.
So the pieces are the pieces of the line with small letters (`Vocabulary.scan_small`), and their
outlines are equal.

**The exception.** Inside a literal a backslash makes the letters behind it part of an escape, and
escapes are read in one case: `\n` is an escape and `\N` is none. Lines with a backslash are therefore
left out.
-/

namespace StepScript

namespace Scan

variable (t : Text)

/-! ## Measures of a text with small letters -/

/-- The blanks at the start are as many, and they are blanks still. -/
theorem blanks_small : blanks (t.map Char.toLower) = (blanks t).map Char.toLower :=
  Text.takeWhile_small isBlank_toLower t

/-- The blanks in front are the same ones. -/
theorem afterBlanks_small :
    afterBlanks (t.map Char.toLower) = (afterBlanks t).map Char.toLower :=
  Text.dropWhile_small isBlank_toLower t

/-- The leading word is the same one but for case. -/
theorem leadingWord_small :
    leadingWord (t.map Char.toLower) = (leadingWord t).map Char.toLower := by
  rw [leadingWord, afterBlanks_small]
  exact Text.takeWhile_small isAlphabetic_toLower _

/-- The leading word takes as many characters. -/
@[simp] theorem leadingWordLength_small :
    leadingWordLength (t.map Char.toLower) = leadingWordLength t := by
  simp [leadingWordLength, leadingWord_small, blanks_small]

/-- The words at the start end at the same places. -/
theorem leadingWordsFrom_small (start limit : Nat) (t : Text) :
    leadingWordsFrom start limit (t.map Char.toLower) =
      (leadingWordsFrom start limit t).map fun w => (w.1.map Char.toLower, w.2) := by
  induction limit generalizing start t with
  | zero => rfl
  | succ limit ih =>
    rw [leadingWordsFrom, leadingWordsFrom, leadingWordLength_small, leadingWord_small,
      ← List.map_drop]
    split
    · rfl
    · rw [ih, List.map_cons]

/-- **A heading** is one in both cases. -/
theorem heading?_small : heading? (t.map Char.toLower) =
    (heading? t).map fun h => (h.1.map Char.toLower, h.2) := by
  unfold heading?
  rw [leadingWordLength_small, leadingWord_small]
  dsimp only
  rw [← List.map_drop, afterBlanks_small, blanks_small, List.length_map]
  split
  · rfl
  · cases found : afterBlanks (t.drop (leadingWordLength t)) with
    | nil => rfl
    | cons c after =>
      have sign : c.toLower = ':' ↔ c = ':' := toLower_eq_iff c (by decide)
      by_cases colon : c = ':'
      · simp [colon]
      · have colon' : c.toLower ≠ ':' := mt sign.mp colon
        simp [colon, colon']

/-- A mark of a number is one in both cases if that holds of the letters among the marks. -/
theorem markLength_small (marks : List Char) (both : ∀ i < 26,
    (Char.ofNat (0x41 + i)).toLower ∈ marks ↔ Char.ofNat (0x41 + i) ∈ marks) :
    markLength marks (t.map Char.toLower) = markLength marks t := by
  cases t with
  | nil => rfl
  | cons c t =>
    have same := toLower_keeps (fun c => decide (c ∈ marks))
      (fun i small => decide_eq_decide.mpr (both i small)) c
    simp [markLength, decide_eq_decide.mp same]

/-- There are as many digits in front. -/
@[simp] theorem digitsLength_small : digitsLength (t.map Char.toLower) = digitsLength t := by
  rw [digitsLength, Text.takeWhile_small isDecimalDigit_toLower, List.length_map]
  rfl

/-- The mantissa of a number is as long. -/
@[simp] theorem mantissaLength_small : mantissaLength (t.map Char.toLower) = mantissaLength t := by
  unfold mantissaLength
  rw [digitsLength_small]
  dsimp only
  rw [← List.map_drop]
  cases t.drop (digitsLength t) with
  | nil => rfl
  | cons c after =>
    have sign : c.toLower = '.' ↔ c = '.' := toLower_eq_iff c (by decide)
    by_cases point : c = '.'
    · simp [point]
    · have point' : c.toLower ≠ '.' := mt sign.mp point
      simp [point, point']

/-- The exponent of a number is as long, since its mark may be of either case. -/
@[simp] theorem exponentLength_small : exponentLength (t.map Char.toLower) = exponentLength t := by
  unfold exponentLength
  rw [markLength_small t ['e', 'E'] (by decide)]
  dsimp only
  simp only [← List.map_drop, markLength_small _ ['-', '+'] (by decide), digitsLength_small]

/-- **A number** is as long in both cases: its marks may be written in both. -/
@[simp] theorem numberLength_small : numberLength (t.map Char.toLower) = numberLength t := by
  unfold numberLength
  rw [markLength_small t ['-', '+'] (by decide)]
  dsimp only
  rw [← List.map_drop, mantissaLength_small]
  simp only [← List.map_drop, exponentLength_small,
    markLength_small _ ['j', 'J'] (by decide),
    markLength_small _ ['l', 'L'] (by decide)]

/-! ## Literals -/

/-- A delimiter that closes a literal is no letter. -/
theorem closing_not_letter (d : Delimiter) : d.closing.isAlpha = false := by
  cases d <;> rfl

variable (d : Delimiter)

/-- **A literal** runs out in both cases, also where a backslash stands: the look-ahead tells its
partner from a line feed only. -/
theorem runsOut_small (t : Text) :
    runsOut d.closing (t.map Char.toLower) = runsOut d.closing t := by
  induction t using runsOut.induct with
  | case1 => rfl
  | case2 => rfl
  | case3 c rest ih =>
    have pair : ('\\' :: c :: rest).map Char.toLower = '\\' :: c.toLower :: rest.map Char.toLower :=
      rfl
    rw [pair, runsOut, runsOut, ih]
    simp [toLower_eq_iff]
  | case4 c rest not_last not_pair ih =>
    have here : c ≠ '\\' := by
      rintro rfl
      cases rest with
      | nil => exact not_last rfl rfl
      | cons partner more => exact not_pair partner more rfl rfl
    have here' : c.toLower ≠ '\\' := mt (toLower_eq_iff c (by decide)).mp here
    rw [List.map_cons, runsOut_cons _ here', runsOut_cons _ here, ih]
    simp [toLower_eq_iff c (closing_not_letter d)]

/-- The plain characters in it are as many. -/
theorem plainLength_small (t : Text) :
    plainLength d.closing (t.map Char.toLower) = plainLength d.closing t := by
  have same : ∀ c : Char, (c.toLower ≠ d.closing && c.toLower ≠ '\\') =
      (c ≠ d.closing && c ≠ '\\') := fun c => by
    simp [toLower_eq_iff c (closing_not_letter d), toLower_eq_iff c (x := '\\') (by decide)]
  rw [plainLength, Text.takeWhile_small same, List.length_map]
  rfl

/-! ## The rules -/

variable (atStart : Bool) (c : Char) (rest : Text)

/-- All that is left is as long. -/
@[simp] theorem through_small (kind : TokenKind) :
    Match.through (rest.map Char.toLower) kind = .through rest kind := by
  simp [Match.through]

/-- A literal that opens runs out on its line in both cases or in neither. -/
theorem openingMatch_small :
    openingMatch d (rest.map Char.toLower) = openingMatch d rest := by
  rw [openingMatch, runsOut_small, through_small]
  rfl

/-- The rules for the start of a line take the same, since the signs they look for are no letters.
-/
theorem lineMatch?_small :
    lineMatch? c.toLower (rest.map Char.toLower) = lineMatch? c rest := by
  have comment : (c.toLower = '#' ∨ (c.toLower = '/' ∧ (rest.map Char.toLower).head? = some '/')) ↔
      (c = '#' ∨ (c = '/' ∧ rest.head? = some '/')) := by
    simp [toLower_eq_iff]
  unfold lineMatch?
  rw [← List.map_cons, afterBlanks_small, blanks_small, List.length_map]
  simp only [comment, through_small]
  cases afterBlanks (c :: rest) with
  | nil => rfl
  | cons b after =>
    have star : b.toLower = '*' ↔ b = '*' := toLower_eq_iff b (by decide)
    have bar : b.toLower = '|' ↔ b = '|' := toLower_eq_iff b (by decide)
    by_cases isStar : b = '*'
    · simp [isStar]
    · by_cases isBar : b = '|'
      · simp [isBar]
      · have notStar := mt star.mp isStar
        have notBar := mt bar.mp isBar
        simp [isStar, isBar, notStar, notBar]

/-- The rules that the root mode and the rows have in common take the same. -/
theorem sharedMatch?_small :
    sharedMatch? atStart c.toLower (rest.map Char.toLower) = sharedMatch? atStart c rest := by
  have whites : ((c.toLower :: rest.map Char.toLower).takeWhile isSpace).length =
      ((c :: rest).takeWhile isSpace).length := by
    rw [← List.map_cons, Text.takeWhile_small isSpace_toLower, List.length_map]
  have number : numberLength (c.toLower :: rest.map Char.toLower) = numberLength (c :: rest) :=
    numberLength_small (c :: rest)
  have opening : (openingMatch · (rest.map Char.toLower)) = (openingMatch · rest) :=
    funext fun d => openingMatch_small d rest
  unfold sharedMatch?
  rw [lineMatch?_small, whites, number, ofOpening?_toLower, opening, through_small]
  simp only [toLower_eq_iff c (x := '@') (by decide)]

/-- The rules in a row of parameters take the same. -/
theorem paramsMatch_small :
    paramsMatch atStart c.toLower (rest.map Char.toLower) = paramsMatch atStart c rest := by
  rw [paramsMatch, sharedMatch?_small]
  rfl

/-- The rules after a keyword take the same. -/
theorem operatorMatch_small :
    operatorMatch atStart c.toLower (rest.map Char.toLower) = operatorMatch atStart c rest := by
  rw [operatorMatch, ← List.map_cons, leadingWordLength_small, paramsMatch_small]
  rfl

/-- Inside a literal letters are plain characters, and only an escape tells them apart. -/
theorem literalMatch_small {c : Char} (plain : c ≠ '\\') :
    literalMatch d c.toLower (rest.map Char.toLower) = literalMatch d c rest := by
  have plain' : c.toLower ≠ '\\' := mt (toLower_eq_iff c (by decide)).mp plain
  unfold literalMatch
  simp only [toLower_eq_iff c (closing_not_letter d), plain, plain', plainLength_small,
    if_false]

end Scan

namespace Vocabulary

open Scan

variable (v : Vocabulary)

/-! ## The rules that read the vocabulary -/

/-- Keyword phrases are looked up in lower case, also where that depends on the neighbours of a
letter. -/
theorem matchKeyword?_small (words : List Text) :
    v.matchKeyword? (words.map fun w => w.map Char.toLower) = v.matchKeyword? words := by
  have lowered : (words.map fun w => w.map Char.toLower).map Text.lower = words.map Text.lower := by
    rw [List.map_map]
    exact List.map_congr_left fun w _ => Text.lower_small w
  rw [matchKeyword?, lowered]
  rfl

/-- A word is a keyword of one word or not, in either case. -/
theorem isSingleKeyword_small (word : Text) :
    v.isSingleKeyword (word.map Char.toLower) = v.isSingleKeyword word := by
  rw [isSingleKeyword, Text.lower_small]
  rfl

/-- The leading keyword is the same one, since words are compared in lower case. -/
theorem leadingKeyword?_small (line : Text) :
    v.leadingKeyword? (line.map Char.toLower) = v.leadingKeyword? line := by
  have words := leadingWordsFrom_small 0 v.longestPhrase line
  have count : ((leadingWords v.longestPhrase line).map fun w => (w.1.map Char.toLower, w.2)).map
      Prod.fst = ((leadingWords v.longestPhrase line).map Prod.fst).map fun w =>
        w.map Char.toLower := by
    rw [List.map_map, List.map_map]
    rfl
  unfold leadingKeyword?
  rw [leadingWords, words, ← leadingWords]
  dsimp only
  rw [count, matchKeyword?_small]
  simp only [List.getElem?_map, Option.map_map]
  rfl

/-- The rules for the start of a line in root mode take the same. -/
theorem startMatch?_small (line : Text) :
    v.startMatch? (line.map Char.toLower) = v.startMatch? line := by
  unfold startMatch?
  rw [heading?_small, leadingKeyword?_small, leadingWordLength_small]
  cases heading? line with
  | none => rfl
  | some h => simp only [Option.map_some, isSingleKeyword_small]

variable (atStart : Bool) (c : Char) (rest : Text)

/-- The rules of the root mode take the same. -/
theorem rootMatch_small :
    v.rootMatch atStart c.toLower (rest.map Char.toLower) = v.rootMatch atStart c rest := by
  rw [rootMatch, ← List.map_cons, startMatch?_small, sharedMatch?_small,
    through_small]
  rfl

/-- **Every rule takes as many characters in both cases, and as the same.** Only inside a literal
there is an exception, which is the escape. -/
theorem matchAt_small {c : Char} (mode : Mode) (plain : c ≠ '\\') :
    v.matchAt mode atStart c.toLower (rest.map Char.toLower) = v.matchAt mode atStart c rest := by
  match mode with
  | .root => exact v.rootMatch_small atStart c rest
  | .row .operator => exact operatorMatch_small atStart c rest
  | .row .params => exact paramsMatch_small atStart c rest
  | .literal d => exact literalMatch_small d rest plain

end Vocabulary

/-! ## Tokens -/

namespace Token

/-- The token with the capital letters A to Z made small. -/
def small (token : Token) : Token := { token with text := token.text.map Char.toLower }

/-- A token keeps its kind. -/
@[simp] theorem kind_small (token : Token) : token.small.kind = token.kind := rfl

/-- Left-over text is joined in both cases. -/
theorem attach_small (token : Token) (others : List Token) :
    attach token.small (others.map small) = (attach token others).map small := by
  cases others with
  | nil => rfl
  | cons next rest =>
    rw [List.map_cons, attach, attach, kind_small, kind_small]
    split
    · simp [small]
    · rfl

/-- The same neighbours are joined. -/
theorem joinText_small (tokens : List Token) :
    joinText (tokens.map small) = (joinText tokens).map small := by
  induction tokens with
  | nil => rfl
  | cons token rest ih =>
    change attach token.small (joinText (rest.map small)) = (attach token (joinText rest)).map small
    rw [ih, attach_small]

/-- What an editor colours of tokens: where each starts and ends, its kind and its mode. -/
def outline (tokens : List Token) : List (Nat × Nat × TokenKind × Mode) :=
  (spans tokens).map fun s => (s.1, s.2.1, s.2.2.kind, s.2.2.mode)

/-- The tokens are at the same places, since a letter has as many bytes in either case. -/
theorem spansFrom_small (start : Nat) (tokens : List Token) :
    spansFrom start (tokens.map small) =
      (spansFrom start tokens).map fun s => (s.1, s.2.1, s.2.2.small) := by
  induction tokens generalizing start with
  | nil => rfl
  | cons token rest ih =>
    have length : token.small.text.byteLength = token.text.byteLength :=
      Text.byteLength_small token.text
    rw [List.map_cons, spansFrom, spansFrom, length, ih]
    rfl

/-- The outline of the tokens is the same. -/
theorem outline_small (tokens : List Token) : outline (tokens.map small) = outline tokens := by
  rw [outline, spans, spansFrom_small, List.map_map]
  rfl

end Token

namespace Vocabulary

variable (v : Vocabulary)

/-- The pieces of a text with small letters are those of the text, with small letters. -/
theorem scan_small (s : LineState) (atStart : Bool) (t : Text) :
    '\\' ∉ t → v.scan s atStart (t.map Char.toLower) =
      ((v.scan s atStart t).1.map Token.small, (v.scan s atStart t).2) := by
  induction s, atStart, t using scan.induct v with
  | case1 s atStart =>
    intro _
    simp [scan]
  | case2 s atStart c rest found next ih =>
    intro plain
    have here : v.matchAt s.mode atStart c.toLower (rest.map Char.toLower) = found :=
      v.matchAt_small atStart rest s.mode (Ne.symm (List.ne_of_not_mem_cons plain))
    have later := ih fun mark => plain (List.mem_of_mem_drop mark)
    have token : found.token s ((c :: rest).map Char.toLower) = (found.token s (c :: rest)).small := by
      simp [Match.token, Token.small, List.map_take]
    have line : c.toLower :: rest.map Char.toLower = (c :: rest).map Char.toLower := rfl
    rw [List.map_cons, scan_cons here, scan_cons rfl, line, ← List.map_drop, later, token]
    rfl

/-- The tokens of a line and the state behind it do not depend on whether letters are capital. -/
theorem tokenizeLine_small {line : Text} (plain : '\\' ∉ line) (state : LineState) :
    Token.outline (v.tokenizeLine (line.map Char.toLower) state).tokens =
        Token.outline (v.tokenizeLine line state).tokens ∧
      (v.tokenizeLine (line.map Char.toLower) state).state = (v.tokenizeLine line state).state := by
  have read := v.scan_small state.nextLine true line plain
  constructor
  · rw [tokenizeLine, read, Token.joinText_small, Token.outline_small]
    rfl
  · rw [tokenizeLine, read]
    rfl

/-- **Letter case does not matter.** Two lines without a backslash that differ in the case of the
letters A to Z only have the same tokens at the same offsets, in the same modes, and end in the same
state, whatever state they start in. -/
theorem letter_case_ignored (state : LineState) {line line' : Text}
    (same : Text.SameButCase line line') (plain : '\\' ∉ line) :
    Token.outline (v.tokenizeLine line state).tokens =
        Token.outline (v.tokenizeLine line' state).tokens ∧
      (v.tokenizeLine line state).state = (v.tokenizeLine line' state).state := by
  have plain' : '\\' ∉ line' := by
    rwa [← Text.mem_small_iff (by decide), ← same, Text.mem_small_iff (by decide)]
  obtain ⟨outline, state_eq⟩ := v.tokenizeLine_small plain state
  obtain ⟨outline', state_eq'⟩ := v.tokenizeLine_small plain' state
  rw [← outline, ← state_eq, ← outline', ← state_eq', same]
  exact ⟨rfl, rfl⟩

/-- A keyword phrase, numbers with an exponent and a long mark, and literals, in two cases. -/
theorem letter_case_ignored_keyword :
    let v : Vocabulary := .withKeywords .empty ["press the key".toList, "press".toList]
    let line := " Press THE key 1e5 2L \"Enter\" <Shift".toList
    let line' := " pRESS the KEY 1E5 2l \"eNTER\" <sHIFT".toList
    Text.SameButCase line line' ∧ '\\' ∉ line ∧
      Token.outline (v.tokenizeLine line .initial).tokens =
          Token.outline (v.tokenizeLine line' .initial).tokens ∧
        (v.tokenizeLine line .initial).state = (v.tokenizeLine line' .initial).state := by
  intro v line line'
  have same : Text.SameButCase line line' := by decide
  have plain : '\\' ∉ line := by decide
  exact ⟨same, plain, v.letter_case_ignored .initial same plain⟩

end Vocabulary

end StepScript
