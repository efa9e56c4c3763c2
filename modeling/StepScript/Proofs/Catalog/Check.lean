import Mathlib
import StepScript.Catalog
import StepScript.Proofs.Grammar.Layers
import StepScript.Proofs.Grammar.LineStart

/-!
# What the check reports, seen by the tokenizer

**Two readers of a line.** The check takes each line of a document alone and looks for a keyword
among its words. The tokenizer comes to the line with what the lines before it left open, and tries
a heading before it looks for a keyword. So a line that the check reports need not begin with a
keyword token.

**What carries over.** If keywords have letters only, the tokenizer finds a keyword at the start of
a reported line, too (`Vocabulary.exists_leadingKeyword?`). It is the first token unless a literal is
open at the start of the line (`Scan.isString_literalMatch`) or the line reads as a heading
(`Vocabulary.startMatch?_of_heading`). So a reported line begins with a keyword token exactly
if neither is the case (`Catalog.first_token_of_problem`), and both occur
(`Catalog.reported_without_keyword`).
-/

namespace StepScript

/-! ## The problems of a document -/

/-- A problem is that of the line with its number. -/
theorem Catalog.exists_line_of_mem_check {c : Catalog} {v : Vocabulary} {document : Text}
    {p : Problem} (mem : p ∈ c.check document v) : 1 ≤ p.line ∧
      ∃ line, document.lines[p.line - 1]? = some line ∧ c.isUnknown v line = true := by
  obtain ⟨⟨line, number⟩, reported, rfl⟩ := List.mem_map.mp mem
  obtain ⟨numbered, unknown⟩ := List.mem_filter.mp reported
  obtain ⟨first, -, same⟩ := List.mem_zipIdx numbered
  dsimp only at same ⊢
  refine ⟨first, line, ?_, unknown⟩
  rw [same, List.getElem?_eq_getElem]

/-! ## The first token of a line -/

/-- Joining runs of text does not change what the first token is. -/
theorem Token.head?_joinText (token : Token) (others : List Token) :
    ∃ first, (joinText (token :: others)).head? = some first ∧ first.kind = token.kind := by
  unfold joinText
  rw [List.foldr_cons]
  cases others.foldr attach [] with
  | nil => exact ⟨token, rfl, rfl⟩
  | cons next rest =>
    by_cases joined : token.kind = .text ∧ next.kind = .text
    · exact ⟨_, congrArg List.head? (if_pos joined), rfl⟩
    · exact ⟨_, congrArg List.head? (if_neg joined), rfl⟩

namespace Scan

/-- Inside a literal there are only the tokens of literals. -/
theorem isString_literalMatch (d : Delimiter) (c : Char) (rest : Text) :
    (literalMatch d c rest).kind.isString = true := by
  unfold literalMatch
  split_ifs <;> rfl

end Scan

namespace Vocabulary

variable {v : Vocabulary} {line : Text}

/-- The first token of a line is that of the first match. -/
theorem head?_tokenizeLine (v : Vocabulary) (state : LineState) (c : Char) (rest : Text) :
    ∃ first, (v.tokenizeLine (c :: rest) state).tokens.head? = some first ∧
      first.kind = (v.matchAt state.nextLine.mode true c rest).kind := by
  unfold tokenizeLine
  rw [scan]
  exact Token.head?_joinText _ _

/-- A literal is still open after lines. -/
def LeavesLiteral (v : Vocabulary) (lines : List Text) : Prop :=
  ∃ d, (v.stateAfter .initial lines).nextLine.mode = .literal d

/-- Between two lines a literal is open, or nothing is. -/
theorem mode_of_not_leavesLiteral {lines : List Text} (h : ¬v.LeavesLiteral lines) :
    (v.stateAfter .initial lines).nextLine.mode = .root := by
  obtain ⟨row, inside, state⟩ := v.stateAfter_layers lines
  rw [LeavesLiteral, state] at h
  rw [state]
  cases inside with
  | none => simp
  | some d => simp at h

/-- **What the first token of a line with a keyword is.** That of the keyword, unless a literal is
open or the line reads as a heading. -/
theorem kind_first_iff {lines : List Text} {c : Char} {rest : Text} {stop count : Nat}
    (found : v.leadingKeyword? (c :: rest) = some (stop, count)) :
    (v.matchAt (v.stateAfter .initial lines).nextLine.mode true c rest).kind = .keyword ↔
      ¬v.LeavesLiteral lines ∧ Scan.heading? (c :: rest) = none := by
  by_cases inside : v.LeavesLiteral lines
  · refine iff_of_false ?_ (fun h => h.1 inside)
    obtain ⟨d, mode⟩ := inside
    rw [mode]
    intro keyword
    have := Scan.isString_literalMatch d c rest
    rw [show (Scan.literalMatch d c rest).kind = .keyword from keyword] at this
    cases this
  · rw [mode_of_not_leavesLiteral inside]
    cases heading : Scan.heading? (c :: rest) with
    | none =>
      obtain ⟨_, start⟩ := startMatch?_of_leadingKeyword? heading found
      rw [rootMatch_of_startMatch? start]
      exact iff_of_true rfl ⟨inside, rfl⟩
    | some h =>
      obtain ⟨_, start⟩ := startMatch?_of_heading heading
      rw [rootMatch_of_startMatch? start]
      refine iff_of_false ?_ (by simp)
      by_cases single : v.isSingleKeyword h.1 = true <;> simp [single]

end Vocabulary

namespace Catalog

open Vocabulary

/-- **A reported line begins with a keyword token, unless a literal is open or it is a heading.**
The keywords are any whose words have letters only, and so are the catalog and the document. The
number of the problem is that of a line, and the tokens of this line among those of the document
begin with a keyword token exactly if the lines before it leave no literal open and it does not read
as a heading. -/
theorem first_token_of_problem (v : Vocabulary) (phrases : List Text)
    (letters : (v.withKeywords phrases).AlphabeticKeywords) (c : Catalog) (document : Text)
    (p : Problem) (mem : p ∈ c.check document (v.withKeywords phrases)) :
    ∃ (line : Text) (read : LineTokens) (first : Token),
      1 ≤ p.line ∧ document.lines[p.line - 1]? = some line ∧
      ((v.withKeywords phrases).tokenize document)[p.line - 1]? = some read ∧
      read.tokens.head? = some first ∧
      (first.kind = .keyword ↔
        ¬(v.withKeywords phrases).LeavesLiteral (document.lines.take (p.line - 1)) ∧
          Scan.heading? line = none) := by
  obtain ⟨numbered, line, here, unknown⟩ := exists_line_of_mem_check mem
  unfold isUnknown at unknown
  dsimp only at unknown
  cases matched : (v.withKeywords phrases).matchKeyword? (Phrase.words line) with
  | none =>
    rw [matched] at unknown
    cases unknown
  | some count =>
    obtain ⟨stop, n, found⟩ := exists_leadingKeyword? phrases letters matched
    cases line with
    | nil =>
      have within : count ≤ 0 := (mem_of_matchKeyword?_eq_some matched).2
      have := pos_of_matchKeyword?_eq_some phrases matched
      omega
    | cons char rest =>
      have read := (v.withKeywords phrases).getElem?_tokenizeLines .initial document.lines
        (p.line - 1)
      rw [here] at read
      obtain ⟨first, head, kind⟩ := (v.withKeywords phrases).head?_tokenizeLine
        ((v.withKeywords phrases).stateAfter .initial (document.lines.take (p.line - 1))) char rest
      refine ⟨_, _, first, numbered, here, read, head, ?_⟩
      rw [kind]
      exact kind_first_iff found

/-- A vocabulary with one keyword. -/
def oneKeyword : Vocabulary := Vocabulary.empty.withKeywords ["given".toList]

/-- The table has one phrase of one word. -/
theorem oneKeyword_eq : oneKeyword = ⟨[["given".toList]], .empty, .empty, []⟩ := by
  have gathered : ["given".toList].foldl addPhrase [] = [["given".toList]] := by decide +kernel
  rw [oneKeyword, withKeywords, keywordTable_of_pairwise gathered (by decide)]
  rfl

/-- A plain step that no catalog knows is reported, and its line begins with a keyword token. -/
theorem first_token_of_problem_plainStep :
    oneKeyword.AlphabeticKeywords ∧
      ⟨1, "Unknown step".toList⟩ ∈ empty.check "  given x".toList oneKeyword ∧
      ((oneKeyword.tokenize "  given x".toList)[0]?.bind (·.tokens.head?)).map Token.kind =
        some .keyword := by
  have letters : oneKeyword.AlphabeticKeywords := by
    rw [oneKeyword_eq]
    decide +kernel
  have reported : ⟨1, "Unknown step".toList⟩ ∈ empty.check "  given x".toList oneKeyword := by
    rw [oneKeyword_eq]
    decide +kernel
  refine ⟨letters, reported, ?_⟩
  obtain ⟨line, read, first, -, here, tokens, head, kind⟩ := first_token_of_problem
    Vocabulary.empty ["given".toList] letters empty "  given x".toList _ reported
  have line_eq : line = "  given x".toList := Option.some.inj (here.symm.trans (by decide +kernel))
  have outside : ¬oneKeyword.LeavesLiteral [] := by
    rintro ⟨d, mode⟩
    cases mode
  rw [show (oneKeyword.tokenize "  given x".toList)[0]? = some read from tokens, Option.bind_some,
    head, Option.map_some, kind.mpr ⟨outside, by rw [line_eq]; decide +kernel⟩]

/-- **Reported lines that do not begin with a keyword token.** A heading with a blank before its
colon is reported although it is a heading, and a line is reported although a literal of the line
before it is still open. -/
theorem reported_without_keyword :
    oneKeyword.AlphabeticKeywords ∧
      empty.check "Given : x".toList oneKeyword = [⟨1, "Unknown step".toList⟩] ∧
      (oneKeyword.tokenize "Given : x".toList).map (fun read => read.tokens.head?.map Token.kind) =
        [some .heading] ∧
      empty.check "given \"a\\\ngiven x".toList oneKeyword =
        [⟨1, "Unknown step".toList⟩, ⟨2, "Unknown step".toList⟩] ∧
      (oneKeyword.tokenize "given \"a\\\ngiven x".toList).map
          (fun read => read.tokens.head?.map Token.kind) = [some .keyword, some .string] := by
  rw [oneKeyword_eq]
  decide +kernel

end Catalog

end StepScript
