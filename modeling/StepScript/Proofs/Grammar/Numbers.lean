import Mathlib
import StepScript.Proofs.Grammar.LineStart
import StepScript.Proofs.Grammar.Resuming
import StepScript.Proofs.Scan.Number

/-!
# Which tokens are numbers

**Where numbers are looked for.** A number begins with a sign, a digit or a point, and none of these is
blank, is a letter, or begins anything else that the tokenizer knows (`Scan.solid_of_number`). So the
rule for numbers applies wherever a token outside literals starts and the rest of the line begins with a
number (`Vocabulary.matchAt_number`), and no other rule makes a number token (`Rule.of_number`).

**What it takes.** The rule takes the longest number with which the rest of the line begins, as a reader
of the pattern that tries one way after the other would. What that leaves over, such as a point, a sign
or an exponent mark without digits, is read on its own (`Vocabulary.numbers_longest`).
-/

namespace StepScript

open Scan

variable {v : Vocabulary} {atStart : Bool} {c : Char} {rest : Text} {mode : Mode} {m : Match}

/-- A number begins with a sign, a digit or a point, and there begins neither a word nor a line that is
taken as a whole. -/
theorem Scan.solid_of_number (positive : 0 < numberLength (c :: rest)) :
    isBlank c = false ∧ isAlphabetic c = false ∧ c ∉ ['@', '*', '|', '#', '/'] := by
  by_cases digit : isDecimalDigit c = true
  · refine ⟨isBlank_of_not_isMark (isMark_of_isDecimalDigit digit),
      isAlphabetic_of_isDecimalDigit digit, fun mem => ?_⟩
    have apart := disjoint_digits_union [] ['@', '*', '|', '#', '/'] (by decide)
    exact Set.disjoint_left.mp apart (.inl digit) mem
  · have marks : ∀ d ∈ ['-', '+', '.'],
        isBlank d = false ∧ isAlphabetic d = false ∧ d ∉ ['@', '*', '|', '#', '/'] := by
      simp only [List.forall_mem_cons]
      exact ⟨by decide, by decide, by decide, by simp⟩
    refine marks c ?_
    by_contra other
    simp only [List.mem_cons, List.not_mem_nil, or_false, not_or] at other
    have none_there := numberLength_eq_zero (by simp [other]) (by simpa using digit) other.2.2 rest
    omega

/-- Only the rule for numbers makes a number token, outside literals. -/
theorem Rule.of_number (rule : Rule v atStart c rest mode m) (number : m.kind = .number) :
    (∀ d, mode ≠ .literal d) ∧
      ∃ positive, m = ⟨numberLength (c :: rest), .number, .stay, positive⟩ := by
  cases rule with
  | shared outside rule =>
    cases rule with
    | number positive => exact ⟨outside, positive, rfl⟩
    | _ => cases number
  | heading =>
    dsimp only at number
    split at number <;> cases number
  | _ => cases number

namespace Vocabulary

/-- **Where a number begins**, outside literals, the rule for numbers applies. -/
theorem matchAt_number (v : Vocabulary) (outside : ∀ d, mode ≠ .literal d) (atStart : Bool)
    (positive : 0 < numberLength (c :: rest)) : v.matchAt mode atStart c rest =
      ⟨numberLength (c :: rest), .number, .stay, positive⟩ := by
  obtain ⟨solid, other, plain⟩ := solid_of_number positive
  refine matchAt_of_no_word solid other v outside ?_
  rw [sharedMatch?_of_plain solid plain, Match.ofLength?, dif_pos positive]
  rfl

/-- What is left of the line behind the cut are the characters of the tokens there. -/
theorem Resumes.text_eq {start here : LineState} {atHere : Bool} {line : Text} {token : Token}
    {before after : List Token}
    (r : v.Resumes start atStart line before (token :: after) here atHere rest) :
    (token :: after).flatMap Token.text = rest := by
  rw [← r.tokens_eq, Token.text_joinText, text_scan]

/-- **Numbers are read by longest match.** The length that the rule for numbers takes from a text is that
of the first way to find the pattern of numbers; it takes something exactly if the text begins with a
number, and then the longest, in which no point, sign or exponent mark is without the digits that it
asks for. In a line that follows any others, a token is a number exactly if it starts outside literals
and what is left of the line there begins with a number, and then it is the longest. -/
theorem numbers_longest (v : Vocabulary) {state : LineState} (reachable : state.Reachable)
    (line : Text) :
    (∀ t : Text,
      numberPattern.first? t = (if numberLength t = 0 then none else some (numberLength t)) ∧
      (0 < numberLength t ↔ ∃ s, s <+: t ∧ IsNumber s) ∧
      (0 < numberLength t → IsLongestNumber t (t.take (numberLength t)) ∧
        AllCompleted (t.take (numberLength t)))) ∧
    ∀ before token after, (v.tokenizeLine line state).tokens = before ++ token :: after →
      let left := (token :: after).flatMap Token.text
      (token.kind = .number ↔ (∀ d, Token.modeAfter state.nextLine.mode before ≠ .literal d) ∧
        ∃ s, s <+: left ∧ IsNumber s) ∧
      (token.kind = .number → IsLongestNumber left token.text ∧ AllCompleted token.text) := by
  constructor
  · intro t
    refine ⟨first?_numberPattern t, numberLength_pos_iff, fun positive => ?_⟩
    have longest := isLongestNumber_take positive
    exact ⟨longest, longest.number.allCompleted⟩
  · intro before token after split left
    obtain ⟨here, atHere, rest, r⟩ := exists_resumes reachable.layered_nextLine before split
    have left_eq : left = rest := r.text_eq
    rw [left_eq, ← r.mode_eq]
    cases rest with
    | nil => exact absurd rfl r.rest_ne_nil
    | cons c rest =>
      obtain ⟨kind, -, made⟩ := r.first
      have rule := rule_matchAt v atHere c rest here.mode
      constructor
      · constructor
        · intro number
          obtain ⟨outside, positive, -⟩ := rule.of_number (kind.symm.trans number)
          exact ⟨outside, numberLength_pos_iff.mp positive⟩
        · rintro ⟨outside, begins⟩
          have positive := numberLength_pos_iff.mpr begins
          rw [kind, v.matchAt_number outside atHere positive]
      · intro number
        obtain ⟨-, positive, found⟩ := rule.of_number (kind.symm.trans number)
        have taken : token.text = (c :: rest).take (numberLength (c :: rest)) := by
          rw [(made (by rw [found]; simp)).1, found]
          rfl
        have longest := isLongestNumber_take positive
        rw [taken]
        exact ⟨longest, longest.number.allCompleted⟩

/-- The exponent mark without digits and the point at the end are not part of the numbers in front of
them. -/
theorem numbers_longest_unfinished :
    LineState.initial.Reachable ∧
      (empty.tokenizeLine "|-3.5e+ 12.".toList .initial).tokens =
        [⟨"|".toList, .operator, .row .params⟩] ++ ⟨"-3.5".toList, .number, .row .params⟩ ::
          [⟨"e+".toList, .text, .row .params⟩, ⟨" ".toList, .white, .row .params⟩,
            ⟨"12".toList, .number, .row .params⟩, ⟨".".toList, .text, .row .params⟩] ∧
      IsLongestNumber "-3.5e+ 12.".toList "-3.5".toList ∧
      IsLongestNumber "12.".toList "12".toList := by
  have split : (empty.tokenizeLine "|-3.5e+ 12.".toList .initial).tokens =
      [⟨"|".toList, .operator, .row .params⟩] ++ ⟨"-3.5".toList, .number, .row .params⟩ ::
        [⟨"e+".toList, .text, .row .params⟩, ⟨" ".toList, .white, .row .params⟩,
          ⟨"12".toList, .number, .row .params⟩, ⟨".".toList, .text, .row .params⟩] := by
    decide +kernel
  have later : (empty.tokenizeLine "|-3.5e+ 12.".toList .initial).tokens =
      [⟨"|".toList, .operator, .row .params⟩, ⟨"-3.5".toList, .number, .row .params⟩,
        ⟨"e+".toList, .text, .row .params⟩, ⟨" ".toList, .white, .row .params⟩] ++
        ⟨"12".toList, .number, .row .params⟩ :: [⟨".".toList, .text, .row .params⟩] := split
  obtain ⟨-, numbers⟩ := empty.numbers_longest .initial "|-3.5e+ 12.".toList
  exact ⟨.initial, split, ((numbers _ _ _ split).2 rfl).1, ((numbers _ _ _ later).2 rfl).1⟩

end Vocabulary

end StepScript
