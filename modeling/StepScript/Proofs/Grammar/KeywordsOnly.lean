import Mathlib
import StepScript.Grammar

/-!
# What depends on the keywords only

Of a vocabulary, the rules of the grammar and the keys of steps look at the keywords only. Elements,
variables and the syntax message may be exchanged, and a script has the same tokens
(`Vocabulary.tokenize_congr`) and a phrase the same key (`Vocabulary.stepKey_congr`).
-/

namespace StepScript.Vocabulary

variable {v w : Vocabulary}

/-- The words that form a keyword depend on the keywords only. -/
theorem matchKeyword?_congr (same : w.keywords = v.keywords) :
    w.matchKeyword? = v.matchKeyword? := by
  funext words
  rw [matchKeyword?, same]
  rfl

/-- A key depends on the keywords only. -/
theorem stepKey_congr (same : w.keywords = v.keywords) : w.stepKey = v.stepKey := by
  funext words
  rw [stepKey, keywordLength, matchKeyword?_congr same]
  rfl

/-- What a rule matches depends on the keywords only. -/
theorem matchAt_congr (same : w.keywords = v.keywords) : w.matchAt = v.matchAt := by
  cases v
  cases w
  cases same
  rfl

/-- What is read of a line depends on the keywords only. -/
theorem scan_congr (same : w.keywords = v.keywords) (state : LineState) (atStart : Bool)
    (rest : Text) : w.scan state atStart rest = v.scan state atStart rest := by
  induction state, atStart, rest using scan.induct v with
  | case1 state atStart => rw [scan, scan]
  | case2 state atStart c rest found next ih =>
    rw [scan, scan, matchAt_congr same, ih]

/-- The tokens of lines depend on the keywords only. -/
theorem tokenizeLines_congr (same : w.keywords = v.keywords) (state : LineState)
    (lines : List Text) : w.tokenizeLines state lines = v.tokenizeLines state lines := by
  induction lines generalizing state with
  | nil => rfl
  | cons line lines ih =>
    have first : w.tokenizeLine line state = v.tokenizeLine line state := by
      rw [tokenizeLine, scan_congr same]
      rfl
    rw [tokenizeLines, tokenizeLines, first, ih]

/-- **The tokens of a script depend on the keywords only.** -/
theorem tokenize_congr (same : w.keywords = v.keywords) : w.tokenize = v.tokenize := by
  funext document
  exact tokenizeLines_congr same .initial document.lines

end StepScript.Vocabulary
