import Mathlib
import StepScript.Proofs.Grammar.Coverage
import StepScript.Proofs.Vocabulary.LongestPhrase

/-!
# What a line starts with

**The first token.** In root mode the first rule that applies at the start of a line makes its first
token, and that token is joined with nothing, since it is never left-over text
(`Vocabulary.firstToken?_eq`). A heading comes before a keyword, and a keyword before everything else
(`Vocabulary.startMatch?_of_heading`, `Vocabulary.startMatch?_of_leadingKeyword?`); no other rule
makes a keyword token (`Vocabulary.exists_leadingKeyword?_of_rule`).

**The longest phrase.** So a keyword token ends where the longest phrase that the line speaks ends,
and whether a heading is a section depends on the one-word phrases. `Vocabulary.longest_phrase_wins`
puts this together with what counts as the longest phrase.
-/

namespace StepScript

namespace Token

/-- The first span is that of the first token, from byte 0. -/
theorem head?_spans (tokens : List Token) :
    (spans tokens).head? = tokens.head?.map fun t => (0, t.text.byteLength, t) := by
  cases tokens with
  | nil => rfl
  | cons token rest => simp [spans, spansFrom]

end Token

namespace Vocabulary

open Scan

/-- The bytes at which the first token of a line starts and ends, and its kind. -/
def firstToken? (v : Vocabulary) (line : Text) (state : LineState) :
    Option (Nat × Nat × TokenKind) :=
  (Token.spans (v.tokenizeLine line state).tokens).head?.map fun s => (s.1, s.2.1, s.2.2.kind)

variable {v : Vocabulary} {line word text : Text} {state : LineState} {c : Char} {rest : Text}
  {stop n : Nat}

/-! ## The rules for the start of a line -/

/-- A leading keyword takes at least one character. -/
theorem pos_of_leadingKeyword?_eq_some (found : v.leadingKeyword? line = some (stop, n)) :
    0 < stop := by
  obtain ⟨-, word, last⟩ := leadingKeyword?_eq_some_iff.mp found
  exact (Phrase.of_mem_leadingWordsFrom (List.mem_of_getElem? last)).2.2

/-- A heading comes first. -/
theorem startMatch?_of_heading (found : heading? line = some (word, stop)) :
    ∃ positive, v.startMatch? line =
      some ⟨stop, if v.isSingleKeyword word then .heading else .identifier, .stay, positive⟩ := by
  have positive : 0 < stop := by
    obtain ⟨_, -, rfl, gap, space, rfl, -⟩ := heading?_eq_some_iff.mp found
    simp
  unfold startMatch?
  rw [found]
  exact ⟨positive, Match.ofLength?_eq_some.mpr ⟨positive, rfl⟩⟩

/-- A keyword that is not part of a heading comes next. -/
theorem startMatch?_of_leadingKeyword? (no_heading : heading? line = none)
    (found : v.leadingKeyword? line = some (stop, n)) :
    ∃ positive, v.startMatch? line =
      some ⟨stop, .keyword, .enter (.row .operator), positive⟩ := by
  have positive := pos_of_leadingKeyword?_eq_some found
  unfold startMatch?
  rw [no_heading, found]
  exact ⟨positive, Match.ofLength?_eq_some.mpr ⟨positive, rfl⟩⟩

/-- At the start of a line a match for a heading or a keyword comes first. -/
theorem rootMatch_of_startMatch? {m : Match} (h : v.startMatch? (c :: rest) = some m) :
    v.matchAt .root true c rest = m := by
  change v.rootMatch true c rest = m
  rw [rootMatch, if_pos rfl, h]
  rfl

/-- Where there is neither a blank nor a letter, no word begins. -/
theorem leadingWordLength_of_no_word (solid : isBlank c = false) (other : isAlphabetic c = false)
    (rest : Text) : leadingWordLength (c :: rest) = 0 := by
  simp [leadingWordLength, leadingWord, afterBlanks, solid, other]

/-- There nothing begins that begins a line. -/
theorem startMatch?_of_no_word (solid : isBlank c = false) (other : isAlphabetic c = false)
    (v : Vocabulary) (rest : Text) : v.startMatch? (c :: rest) = none := by
  have no_word := leadingWordLength_of_no_word solid other rest
  have heading : heading? (c :: rest) = none := by simp [heading?, no_word]
  have keyword : v.leadingKeyword? (c :: rest) = none := by
    rw [Option.eq_none_iff_forall_ne_some]
    rintro ⟨stop, n⟩ found
    obtain ⟨-, word, last⟩ := leadingKeyword?_eq_some_iff.mp found
    have none_there : leadingWords v.longestPhrase (c :: rest) = [] := by
      cases h : v.longestPhrase <;> simp [leadingWords, leadingWordsFrom, no_word]
    simp [none_there] at last
  simp [startMatch?, heading, keyword, no_word, Match.ofLength?]

/-- **Where no word begins**, the shared rules apply in every mode but that of a literal. -/
theorem matchAt_of_no_word (solid : isBlank c = false) (other : isAlphabetic c = false)
    (v : Vocabulary) {mode : Mode} (outside : ∀ d, mode ≠ .literal d) {atStart : Bool} {m : Match}
    (shared : sharedMatch? atStart c rest = some m) : v.matchAt mode atStart c rest = m := by
  have no_start := startMatch?_of_no_word solid other v rest
  have no_word := leadingWordLength_of_no_word solid other rest
  have params : paramsMatch atStart c rest = m := by simp [paramsMatch, shared]
  match mode with
  | .root => cases atStart <;> simp [matchAt, rootMatch, shared, no_start]
  | .row .operator => simp [matchAt, operatorMatch, no_word, params, Match.ofLength?]
  | .row .params => exact params
  | .literal d => exact absurd rfl (outside d)

/-- In root mode nothing is left over. -/
theorem kind_ne_text_of_rule {m : Match} {atStart : Bool} (rule : Rule v atStart c rest .root m) :
    m.kind ≠ .text := by
  cases rule with
  | heading =>
    dsimp only
    split <;> simp
  | keyword | word => simp
  | emphasis => simp [Match.through]
  | shared outside rule => exact rule.kind_ne_text

/-- The shared rules make no keyword. -/
theorem kind_ne_keyword_of_sharedRule {m : Match} {atStart : Bool}
    (rule : SharedRule atStart c rest m) : m.kind ≠ .keyword := by
  cases rule <;> simp [Match.through, Match.one]

/-- Only a keyword at the start of the line makes a keyword token. -/
theorem exists_leadingKeyword?_of_rule {m : Match} {mode : Mode} {atStart : Bool}
    (rule : Rule v atStart c rest mode m) (keyword : m.kind = .keyword) :
    ∃ stop n, v.leadingKeyword? (c :: rest) = some (stop, n) := by
  cases rule with
  | keyword start found => exact ⟨_, _, found⟩
  | heading =>
    dsimp only at keyword
    split at keyword <;> cases keyword
  | shared outside rule => exact absurd keyword (kind_ne_keyword_of_sharedRule rule)
  | word | emphasis | identifier | text | close | escape | escapeInvalid | plain => cases keyword

/-! ## The first token -/

section Root

variable (root : state.nextLine.mode = .root)

include root

/-- **In root mode the first token is that of the first match.** -/
theorem firstToken?_eq (v : Vocabulary) (c : Char) (rest : Text) :
    v.firstToken? (c :: rest) state =
      some (0, Text.byteLength ((c :: rest).take (v.matchAt .root true c rest).length),
        (v.matchAt .root true c rest).kind) := by
  have other : (v.matchAt .root true c rest).kind ≠ .text :=
    kind_ne_text_of_rule (rule_matchAt v true c rest .root)
  rw [firstToken?, Token.head?_spans, tokenizeLine, scan, root]
  dsimp only
  rw [Token.joinText_cons_of_ne_text other]
  rfl

/-- A line that begins with a heading has it for its first token. -/
theorem firstToken?_of_heading (v : Vocabulary) (heading : IsHeading word text)
    (begins : text <+: line) : v.firstToken? line state =
      some (0, text.byteLength, if v.isSingleKeyword word then .heading else .identifier) := by
  have found : heading? line = some (word, text.length) :=
    heading?_eq_some_iff.mpr ⟨text, begins, rfl, heading⟩
  obtain ⟨positive, first⟩ := v.startMatch?_of_heading found
  have taken : line.take text.length = text := (List.prefix_iff_eq_take.mp begins).symm
  cases line with
  | nil =>
    rw [List.prefix_nil.mp begins] at positive
    cases positive
  | cons c rest => rw [firstToken?_eq root, rootMatch_of_startMatch? first, taken]

/-- A line that begins with a keyword, and with no heading, has it for its first token. -/
theorem firstToken?_of_leadingKeyword? (no_heading : heading? line = none)
    (found : v.leadingKeyword? line = some (stop, n)) :
    v.firstToken? line state = some (0, Text.byteLength (line.take stop), .keyword) := by
  obtain ⟨positive, first⟩ := startMatch?_of_leadingKeyword? no_heading found
  cases line with
  | nil =>
    have within := length_le_of_leadingKeyword? found
    rw [List.length_nil] at within
    omega
  | cons c rest => rw [firstToken?_eq root, rootMatch_of_startMatch? first]

/-- A line whose first token is a keyword begins with one. -/
theorem exists_leadingKeyword?_of_firstToken? {start : Nat}
    (first : v.firstToken? line state = some (start, stop, .keyword)) :
    ∃ stop n, v.leadingKeyword? line = some (stop, n) := by
  cases line with
  | nil =>
    rw [firstToken?, tokenizeLine, scan] at first
    cases first
  | cons c rest =>
    rw [firstToken?_eq root, Option.some.injEq, Prod.mk.injEq, Prod.mk.injEq] at first
    exact exists_leadingKeyword?_of_rule (rule_matchAt v true c rest .root) first.2.2

end Root

/-! ## The longest phrase -/

/-- The word is by itself one of the phrases, in any letter case. -/
def IsOneWordPhrase (phrases : List Text) (word : Text) : Prop :=
  ∃ phrase ∈ phrases, (Text.words phrase).map Text.lower = [word.lower]

/-- A word is by itself a keyword if it is a one-word phrase. -/
theorem isSingleKeyword_iff (v : Vocabulary) (phrases : List Text) (word : Text) :
    (v.withKeywords phrases).isSingleKeyword word = true ↔ IsOneWordPhrase phrases word := by
  rw [isSingleKeyword, List.contains_iff_mem, mem_keywords_withKeywords_iff, and_iff_left (by simp)]
  rfl

/-- **The longest phrase wins.** Words begin with a keyword of `n` words exactly if the longest phrase
with which they begin has `n`. A line has a leading keyword of `n` words exactly if the longest phrase
that it speaks has `n`, and the keyword ends where the n-th of its first words ends. In root mode, a
line that begins with a heading has it for its first token: a section if its word is by itself one of
the phrases, and an identifier otherwise. Any other line begins with a keyword token exactly if it
has a leading keyword, and the token ends where the keyword does. -/
theorem longest_phrase_wins (v : Vocabulary) (phrases : List Text) :
    (∀ words n, (v.withKeywords phrases).matchKeyword? words = some n ↔
      IsLongest phrases (Fits words) n) ∧
    (∀ line stop n, (v.withKeywords phrases).leadingKeyword? line = some (stop, n) ↔
      IsLongest phrases (Speaks line) n ∧
        ∃ found word, FirstWords 0 line found ∧ found.length = n ∧
          found.getLast? = some (word, stop)) ∧
    ∀ (state : LineState) (line : Text), state.nextLine.mode = .root →
      (∀ word text, IsHeading word text → text <+: line →
        (IsOneWordPhrase phrases word →
          (v.withKeywords phrases).firstToken? line state =
            some (0, text.byteLength, .heading)) ∧
        (¬ IsOneWordPhrase phrases word →
          (v.withKeywords phrases).firstToken? line state =
            some (0, text.byteLength, .identifier))) ∧
      ((∀ word text, IsHeading word text → ¬ text <+: line) →
        ((∃ start stop, (v.withKeywords phrases).firstToken? line state =
            some (start, stop, .keyword)) ↔
          ∃ stop n, (v.withKeywords phrases).leadingKeyword? line = some (stop, n)) ∧
        ∀ stop n, (v.withKeywords phrases).leadingKeyword? line = some (stop, n) →
          (v.withKeywords phrases).firstToken? line state =
            some (0, Text.byteLength (line.take stop), .keyword)) := by
  refine ⟨fun words n => v.matchKeyword?_eq_some_iff_longest,
    fun line stop n => v.leadingKeyword?_eq_some_iff_longest, fun state line root => ⟨?_, ?_⟩⟩
  · intro word text heading begins
    rw [← v.isSingleKeyword_iff phrases, firstToken?_of_heading root _ heading begins]
    exact ⟨fun single => by rw [if_pos single], fun several => by rw [if_neg several]⟩
  · intro other
    have no_heading : heading? line = none := by
      rw [Option.eq_none_iff_forall_ne_some]
      rintro ⟨word, stop⟩ found
      obtain ⟨text, begins, -, heading⟩ := heading?_eq_some_iff.mp found
      exact other word text heading begins
    refine ⟨⟨?_, ?_⟩, fun stop n found => firstToken?_of_leadingKeyword? root no_heading found⟩
    · rintro ⟨start, stop, first⟩
      exact exists_leadingKeyword?_of_firstToken? root first
    · rintro ⟨stop, n, found⟩
      exact ⟨_, _, firstToken?_of_leadingKeyword? root no_heading found⟩

/-- Phrases of which one begins another; one is given twice, and one is blank. -/
def nestedPhrases : List Text :=
  ["AND THEN I".toList, "and then".toList, " ".toList, "And".toList, "And\tthen".toList]

/-- The table of these phrases has the longest one first. -/
theorem withKeywords_nestedPhrases : empty.withKeywords nestedPhrases =
    ⟨[["and".toList, "then".toList, "i".toList], ["and".toList, "then".toList], ["and".toList]],
      .empty, .empty, []⟩ := by
  have gathered : nestedPhrases.foldl addPhrase [] =
      [["and".toList, "then".toList, "i".toList], ["and".toList, "then".toList],
        ["and".toList]] := by decide +kernel
  rw [withKeywords, keywordTable_of_pairwise gathered (by decide +kernel)]
  rfl

/-- The longest one wins in a line that begins with three of them, and the shortest one makes a
section. -/
theorem longest_phrase_wins_nestedPhrases :
    LineState.initial.nextLine.mode = .root ∧
      (∀ word text, IsHeading word text → ¬ text <+: "  and\tTHEN i2".toList) ∧
      (empty.withKeywords nestedPhrases).leadingKeyword? "  and\tTHEN i2".toList = some (12, 3) ∧
      IsLongest nestedPhrases (Speaks "  and\tTHEN i2".toList) 3 ∧
      (empty.withKeywords nestedPhrases).firstToken? "  and\tTHEN i2".toList .initial =
        some (0, 12, .keyword) ∧
      IsHeading "AND".toList "AND :".toList ∧ "AND :".toList <+: "AND : then".toList ∧
      IsOneWordPhrase nestedPhrases "AND".toList ∧
      (empty.withKeywords nestedPhrases).firstToken? "AND : then".toList .initial =
        some (0, 5, .heading) := by
  obtain ⟨-, leading, tokens⟩ := longest_phrase_wins empty nestedPhrases
  have root : LineState.initial.nextLine.mode = .root := rfl
  have other : ∀ word text, IsHeading word text → ¬ text <+: "  and\tTHEN i2".toList := by
    intro word text heading begins
    have found : heading? "  and\tTHEN i2".toList = some (word, text.length) :=
      heading?_eq_some_iff.mpr ⟨text, begins, rfl, heading⟩
    rw [show heading? "  and\tTHEN i2".toList = none by decide +kernel] at found
    cases found
  have found : (empty.withKeywords nestedPhrases).leadingKeyword? "  and\tTHEN i2".toList =
      some (12, 3) := by
    rw [withKeywords_nestedPhrases]
    decide +kernel
  have heading : IsHeading "AND".toList "AND :".toList :=
    ⟨[], " ".toList, rfl, fun c mem => (List.not_mem_nil mem).elim,
      List.all_eq_true.mp (by decide +kernel), by decide +kernel,
      List.all_eq_true.mp (by decide +kernel)⟩
  have begins : "AND :".toList <+: "AND : then".toList := by decide +kernel
  have single : IsOneWordPhrase nestedPhrases "AND".toList :=
    ⟨"And".toList, by decide +kernel, by decide +kernel⟩
  exact ⟨root, other, found, ((leading _ _ _).mp found).1,
    ((tokens .initial _ root).2 other).2 12 3 found, heading, begins, single,
    ((tokens .initial _ root).1 _ _ heading begins).1 single⟩

end Vocabulary

end StepScript
