import Mathlib
import StepScript.Context
import StepScript.Proofs.Markdown.CodeSpan
import StepScript.Report

/-!
# Reading a report of tokens

**Items.** A report of tokens has one item for each token: a line with the style of the token as one
code span, and its text as another one. A reader cuts the report into lines, and takes each line that
begins with the mark of an item for one (`Markdown.readItems`). Texts without line ends do not disturb
the lines of the report, so the items that are read are those that were written, in the order of the
tokens (`Report.readItems_tokens`).

**Spans.** The style of a token never needs a wide fence, so the span of the style is always read as it
was written, and it depends on the span of the text alone whether the item is read back
(`Report.readItem?_itemBody_iff`).
-/

namespace StepScript

namespace Markdown

/-! ## The reader of items -/

/-- Whether a character ends a line. -/
def isLineEnd (c : Char) : Bool := c == '\n' || c == '\r'

/-- What stands behind the mark of an item. -/
def itemBody? : Text → Option Text
  | '-' :: ' ' :: body => some body
  | _ => none

/-- The contents of two code spans, if the item is these two with a blank between them. -/
def readItem? (body : Text) : Option (Text × Text) :=
  match readSpan? body with
  | some (style, ' ' :: behind) =>
    match readSpan? behind with
    | some (text, []) => some (style, text)
    | _ => none
  | _ => none

/-- What is read in each item. -/
def readItems (md : Text) : List (Option (Text × Text)) :=
  ((Text.pieces isLineEnd md).filterMap itemBody?).map readItem?

/-! ## Characters that end no line -/

variable {t : Text}

/-- The text is on one line. -/
def OneLine (t : Text) : Prop := ∀ c ∈ t, isLineEnd c = false

/-- Whether a text is on one line can be computed. -/
instance (t : Text) : Decidable (OneLine t) := List.decidableBAll _ t

/-- Two texts on one line are on one line. -/
theorem OneLine.append {s : Text} (first : OneLine s) (second : OneLine t) : OneLine (s ++ t) :=
  List.forall_mem_append.mpr ⟨first, second⟩

/-- A number is on one line. -/
theorem oneLine_ofNat (n : Nat) : OneLine (Text.ofNat n) := by
  intro c mem
  have digit : c.isDigit = true := Nat.isDigit_of_mem_toDigits (by decide) (by decide) mem
  have other : ∀ d : Char, d.isDigit = false → (c == d) = false := by
    intro d not_digit
    refine beq_eq_false_iff_ne.mpr ?_
    rintro rfl
    rw [digit] at not_digit
    cases not_digit
  rw [isLineEnd, other '\n' (by decide), other '\r' (by decide)]
  rfl

/-- Backticks are on one line. -/
theorem oneLine_ticks (n : Nat) : OneLine (ticks n) := by
  intro c mem
  rw [List.eq_of_mem_replicate mem]
  rfl

/-- A span is on one line if its text is. -/
theorem OneLine.codeSpan (h : OneLine t) : OneLine (codeSpan t) := by
  have blank : OneLine [' '] := by decide
  have oneLine_body : OneLine (body t) := by
    rw [body]
    split_ifs
    · exact blank.append (h.append blank)
    · exact h
  rw [codeSpan_eq]
  exact (oneLine_ticks _).append (oneLine_body.append (oneLine_ticks _))

end Markdown

open Markdown

namespace TokenKind

/-- The name of a style is read back, and it is on one line. -/
theorem style_decided (kind : TokenKind) :
    Held kind.style.toList ∧ OneLine kind.style.toList := by
  cases kind <;> decide

/-- It has no backticks, so its span is the one that any text gets. -/
theorem plainSpan_style (kind : TokenKind) :
    plainSpan kind.style.toList = codeSpan kind.style.toList := by
  cases kind <;> rfl

end TokenKind

namespace Report

variable {lines : List LineTokens}

/-! ## The report as lines -/

/-- The item of a token, without its mark. -/
def itemBody (token : Token) : Text :=
  plainSpan token.kind.style.toList ++ ' ' :: codeSpan token.text

/-- The lines of the report about a line. -/
def linesOf (line : LineTokens × Nat) : List Text :=
  [heading ("Line ".toList ++ Text.ofNat line.2), []] ++
    if line.1.tokens = [] then [emphasis "(empty)".toList, []]
    else line.1.tokens.map (fun token => "- ".toList ++ itemBody token) ++ [[]]

/-- A block is a line and a blank line. -/
theorem block_eq (t : Text) : block t = [t, []].flatMap (· ++ ['\n']) := by
  show t ++ ['\n', '\n'] = t ++ ['\n'] ++ ([] ++ ['\n'] ++ [])
  simp

/-- The text of a script line is made of lines that are ended. -/
theorem lineText_eq (line : LineTokens × Nat) :
    lineText line = (linesOf line).flatMap (· ++ ['\n']) := by
  have items : (line.1.tokens.map fun token => "- ".toList ++ itemBody token).flatMap
      (· ++ ['\n']) = line.1.tokens.flatMap tokenItem := List.flatMap_map ..
  rw [lineText, linesOf, List.flatMap_append, ← block_eq]
  split_ifs
  · rw [← block_eq]
  · rw [List.flatMap_append, items]
    rfl

/-- Its items are those of the tokens. -/
theorem filterMap_linesOf (line : LineTokens × Nat) :
    (linesOf line).filterMap itemBody? = line.1.tokens.map itemBody := by
  have items : (line.1.tokens.map fun token => "- ".toList ++ itemBody token).filterMap itemBody? =
      line.1.tokens.map itemBody := by
    rw [List.filterMap_map, ← List.filterMap_eq_map]
    rfl
  have others : [heading ("Line ".toList ++ Text.ofNat line.2), []].filterMap itemBody? = [] := rfl
  rw [linesOf, List.filterMap_append, others, List.nil_append]
  split_ifs with empty
  · rw [empty]
    rfl
  · rw [List.filterMap_append, items]
    exact List.append_nil _

/-- The item of a token is on one line if the token is. -/
theorem oneLine_itemBody {token : Token} (h : OneLine token.text) : OneLine (itemBody token) := by
  rw [itemBody, token.kind.plainSpan_style]
  have blank : OneLine [' '] := by decide
  exact token.kind.style_decided.2.codeSpan.append (blank.append h.codeSpan)

/-- Each of these lines is a single one if the tokens are on one line. -/
theorem oneLine_of_mem_linesOf {line : LineTokens × Nat} {t : Text}
    (single : ∀ token ∈ line.1.tokens, OneLine token.text) (mem : t ∈ linesOf line) :
    OneLine t := by
  have empty : OneLine [] := by decide
  rcases List.mem_append.mp mem with top | rest
  · rcases List.mem_pair.mp top with rfl | rfl
    · exact OneLine.append (by decide) (OneLine.append (by decide) (oneLine_ofNat _))
    · exact empty
  · split_ifs at rest
    · rcases List.mem_pair.mp rest with rfl | rfl
      · decide
      · exact empty
    · rcases List.mem_append.mp rest with item | last
      · obtain ⟨token, token_mem, rfl⟩ := List.mem_map.mp item
        exact OneLine.append (by decide) (oneLine_itemBody (single token token_mem))
      · rw [List.mem_singleton.mp last]
        exact empty

/-- **The items that are read are those that were written.** -/
theorem readItems_tokens
    (single : ∀ token ∈ lines.flatMap LineTokens.tokens, OneLine token.text) :
    readItems (tokens lines).toMarkdown =
      (lines.flatMap LineTokens.tokens).map fun token => readItem? (itemBody token) := by
  have written : (tokens lines).toMarkdown =
      ((lines.zipIdx 1).flatMap linesOf).flatMap (· ++ ['\n']) ++ [] := by
    rw [List.append_nil, List.flatMap_assoc]
    exact List.flatMap_congr fun line _ => lineText_eq line
  have plain : ∀ t ∈ (lines.zipIdx 1).flatMap linesOf, OneLine t := by
    intro t mem
    obtain ⟨line, line_mem, t_mem⟩ := List.mem_flatMap.mp mem
    refine oneLine_of_mem_linesOf (fun token token_mem => single token ?_) t_mem
    exact List.mem_flatMap.mpr ⟨line.1, List.fst_mem_of_mem_zipIdx line_mem, token_mem⟩
  have cut : Text.pieces isLineEnd (((lines.zipIdx 1).flatMap linesOf).flatMap (· ++ ['\n']) ++ []) =
      (lines.zipIdx 1).flatMap linesOf ++ [[]] := Text.pieces_ended rfl plain (by simp)
  have bodies : ((lines.zipIdx 1).flatMap linesOf).filterMap itemBody? =
      (lines.flatMap LineTokens.tokens).map itemBody := by
    calc ((lines.zipIdx 1).flatMap linesOf).filterMap itemBody?
        = (lines.zipIdx 1).flatMap fun line => (linesOf line).filterMap itemBody? :=
          List.filterMap_flatMap
      _ = (lines.zipIdx 1).flatMap fun line => line.1.tokens.map itemBody :=
          List.flatMap_congr fun line _ => filterMap_linesOf line
      _ = ((lines.zipIdx 1).map Prod.fst).flatMap fun line => line.tokens.map itemBody :=
          (List.flatMap_map Prod.fst (fun line : LineTokens => line.tokens.map itemBody) _).symm
      _ = (lines.flatMap LineTokens.tokens).map itemBody := by
          rw [List.zipIdx_map_fst, List.map_flatMap]
  rw [readItems, written, cut, List.filterMap_append, bodies, List.map_append, List.map_map]
  exact List.append_nil _

/-- **An item is read back exactly if its text is.** -/
theorem readItem?_itemBody_iff (token : Token) :
    readItem? (itemBody token) = some (token.kind.style.toList, token.text) ↔ Held token.text := by
  have blank : (' ' :: codeSpan token.text).head? ≠ some backtick := fun same =>
    blank_ne_backtick (Option.some.inj same)
  have style_read : readSpan? (itemBody token) =
      some (token.kind.style.toList, ' ' :: codeSpan token.text) := by
    rw [itemBody, token.kind.plainSpan_style]
    exact (readSpan?_codeSpan_iff blank).mpr token.kind.style_decided.1
  have text_read : readSpan? (codeSpan token.text ++ []) = some (token.text, []) ↔ Held token.text :=
    readSpan?_codeSpan_iff (by simp)
  rw [List.append_nil] at text_read
  rw [← text_read, readItem?, style_read]
  show (match readSpan? (codeSpan token.text) with
    | some (text, []) => some (token.kind.style.toList, text)
    | _ => none) = _ ↔ _
  rcases readSpan? (codeSpan token.text) with - | ⟨text, - | ⟨c, behind⟩⟩
  · simp
  · simp
  · simp

/-- **Which texts come back from a report of tokens.** Whatever the tokens are, if their texts have no
line ends, a reader finds one item for each token, in order. The span of a text is a part without
backticks at its ends between two fences. The fence differs in length from every run of backticks in
the text exactly if the text has no run of exactly two; and the style and the text of the token are
read back exactly if, besides, the text is not empty, has no character with the number zero, and has no
blanks at both ends unless it has a backtick or is blank throughout. -/
theorem code_spans_hold_iff (lines : List LineTokens)
    (single : ∀ token ∈ lines.flatMap LineTokens.tokens, OneLine token.text) :
    let written := lines.flatMap LineTokens.tokens
    let read := readItems (tokens lines).toMarkdown
    read.length = written.length ∧
      ∀ (i : Nat) (token : Token), written[i]? = some token →
        (token.text ≠ [] → ∃ n raw, Fenced n raw (codeSpan token.text) ∧
          ((∀ m, Text.HasRun backtick m token.text → m ≠ n) ↔
            ¬ Text.HasRun backtick 2 token.text)) ∧
        (read[i]? = some (some (token.kind.style.toList, token.text)) ↔ Held token.text) := by
  intro written read
  have read_eq : read = written.map fun token => readItem? (itemBody token) := readItems_tokens single
  refine ⟨by rw [read_eq, List.length_map], fun i token at_i => ⟨fun nonempty => ?_, ?_⟩⟩
  · refine ⟨fence token.text, body token.text, fenced_codeSpan nonempty, ?_⟩
    rw [← hasRun_fence_iff]
    exact ⟨fun differs run => differs _ run rfl, fun none m run same => none (same ▸ run)⟩
  · rw [read_eq, List.getElem?_map, at_i, Option.map_some, Option.some.injEq]
    exact readItem?_itemBody_iff token

/-- A script with three tags, whose texts have a run of one backtick, of two and of three. -/
def tagged : List LineTokens :=
  (Context.ofKeywords ["given".toList]).tokenize "@a`b\n@a``b\n@a```b".toList

/-- The tokens are three annotations with one, two and three backticks. -/
theorem flatMap_tagged : tagged.flatMap LineTokens.tokens =
    ["@a`b".toList, "@a``b".toList, "@a```b".toList].map (Token.mk · .tag .root) := by
  decide +kernel

/-- Only the text with a run of two does not come back. -/
theorem code_spans_hold_iff_tagged :
    let read := readItems (tokens tagged).toMarkdown
    (∀ token ∈ tagged.flatMap LineTokens.tokens, OneLine token.text) ∧
      read.length = 3 ∧
      read[0]? = some (some ("annotation".toList, "@a`b".toList)) ∧
      read[1]? ≠ some (some ("annotation".toList, "@a``b".toList)) ∧
      read[2]? = some (some ("annotation".toList, "@a```b".toList)) := by
  intro read
  have single : ∀ token ∈ tagged.flatMap LineTokens.tokens, OneLine token.text := by
    rw [flatMap_tagged]
    decide +kernel
  obtain ⟨length, items⟩ := code_spans_hold_iff tagged single
  rw [flatMap_tagged] at length items
  have one := (items 0 _ rfl).2
  have two := (items 1 _ rfl).2
  have three := (items 2 _ rfl).2
  exact ⟨single, length, one.mpr (by decide +kernel), mt two.mp (by decide +kernel),
    three.mpr (by decide +kernel)⟩

/-- **A run of two backticks closes the span of its text.** The first script has one token, a tag with
a run as long as the fence around it, and no item that is two code spans is read. In the second one
blanks at both ends of a text without backticks are lost: the literal is read as the letter in it. -/
theorem pair_closes_span :
    let c := Context.ofKeywords ["given".toList]
    let paired := c.tokenize "@a``b".toList
    let padded := c.tokenize "\" a \"".toList
    (paired.flatMap LineTokens.tokens).map Token.text = ["@a``b".toList] ∧
      OneLine "@a``b".toList ∧
      Fenced 2 " @a``b ".toList (codeSpan "@a``b".toList) ∧
      Text.HasRun backtick 2 "@a``b".toList ∧
      readItems (tokens paired).toMarkdown = [none] ∧
      (padded.flatMap LineTokens.tokens).map Token.text =
        ["\"".toList, " a ".toList, "\"".toList] ∧
      readItems (tokens padded).toMarkdown =
        ["\"".toList, "a".toList, "\"".toList].map fun t => some ("string".toList, t) := by
  refine ⟨by decide +kernel, by decide +kernel, ?_, by decide +kernel, by decide +kernel,
    by decide +kernel, by decide +kernel⟩
  constructor <;> decide +kernel

end Report

end StepScript
