import Mathlib
import StepScript.Proofs.Grammar.Coverage

/-!
# Which stacks of modes occur

**Layers.** The state of the tokenizer is a stack of modes, and nothing in its type says which
stacks occur. Those that do have at most three layers: the root mode, at most one row in it, and at
most one literal on top (`LineState.layers`). A row is entered in the root mode at the start of a
line only, a literal only outside literals, and only a literal is left within a line.

**The invariant.** `LineState.Layered` says that a state has this form, and, at the start of a line,
that the row is covered by an open literal or absent: the rules for the start of a line would
otherwise put a second row on the first. A rule keeps it (`layered_apply`), the end of a line
restores its second half (`layered_nextLine`), and so it holds after any lines
(`stateAfter_layers`).

`Vocabulary.scan_preserves` is the induction over a line that this and later files use.
-/

namespace StepScript

namespace LineState

/-! ## Stacks of at most three modes -/

/-- The state with the given row and the given literal open in the root mode. -/
def layers (row : Option Row) (inside : Option Delimiter) : LineState :=
  ⟨(inside.map Mode.literal).toList ++ ((row.map Mode.row).toList ++ [.root])⟩

variable (row : Option Row) (d : Delimiter)

/-- Without a row and a literal there is the root mode only. -/
@[simp] theorem layers_none_none : layers none none = initial := rfl

/-- In a literal the rules are those of the literal. -/
@[simp] theorem mode_layers_literal : (layers row (some d)).mode = .literal d := rfl

/-- In a row outside literals the rules are those of the row. -/
@[simp] theorem mode_layers_row (r : Row) : (layers (some r) none).mode = .row r := rfl

/-- A document starts in the root mode. -/
@[simp] theorem mode_initial : initial.mode = .root := rfl

/-- A row begins in the root mode. -/
@[simp] theorem enter_row_initial (r : Row) : initial.enter (.row r) = layers (some r) none := rfl

/-- A literal begins in whatever mode is around it. -/
@[simp] theorem enter_literal_layers :
    (layers row none).enter (.literal d) = layers row (some d) := rfl

/-- Where a literal ends, the mode around it is in effect again. -/
@[simp] theorem leave_layers_literal : (layers row (some d)).leave = layers row none := by
  cases row <;> rfl

/-- A literal that is open at the end of a line is open in the next one, and so is what is around
it. -/
@[simp] theorem nextLine_layers_literal :
    (layers row (some d)).nextLine = layers row (some d) := by
  cases row <;> rfl

/-- A row ends with its line. -/
@[simp] theorem nextLine_layers_none : (layers row none).nextLine = initial := by
  cases row <;> rfl

/-- The layers, outermost first. -/
theorem stack_layers (inside : Option Delimiter) : (layers row inside).stack =
    .root :: ((row.map Mode.row).toList ++ (inside.map Mode.literal).toList) := by
  cases row <;> cases inside <;> rfl

/-- Outside literals at most a row is open. -/
theorem mode_layers_none_ne_literal : (layers row none).mode ≠ .literal d := by
  cases row <;> simp

/-! ## The invariant -/

/-- A state of at most three layers. At the start of a line a row is open only below a literal. -/
def Layered (s : LineState) (atStart : Bool) : Prop :=
  ∃ row inside, s = layers row inside ∧ (atStart = true → row = none ∨ inside ≠ none)

/-- The initial state has one layer. -/
theorem layered_initial : initial.Layered true := ⟨none, none, rfl, fun _ => .inl rfl⟩

/-- At the end of a line the row that is not covered by a literal is closed. -/
theorem layered_nextLine {s : LineState} {atStart : Bool} (h : s.Layered atStart) :
    s.nextLine.Layered true := by
  obtain ⟨row, _ | d, rfl, -⟩ := h
  · rw [nextLine_layers_none]
    exact layered_initial
  · rw [nextLine_layers_literal]
    exact ⟨row, some d, rfl, fun _ => .inr (by simp)⟩

variable {row} {v : Vocabulary} {atStart : Bool} {c : Char} {rest : Text} {m : Match}

/-- Outside literals a rule stays, enters a row from the root mode at the start of a line, or
enters a literal. -/
theorem effect_outside (rule : Rule v atStart c rest (layers row none).mode m)
    (start : atStart = true → row = none) :
    m.effect = .stay ∨ (row = none ∧ ∃ r, m.effect = .enter (.row r)) ∨
      ∃ d, m.effect = .enter (.literal d) := by
  generalize mode_eq : (layers row none).mode = mode at rule
  cases rule with
  | heading | word | emphasis | identifier | text => exact .inl rfl
  | keyword at_start => exact .inr (.inl ⟨start at_start, .operator, rfl⟩)
  | shared outside rule =>
    rcases rule.effect_cases with stay | ⟨at_start, params⟩ | literal
    · exact .inl stay
    · exact .inr (.inl ⟨start at_start, .params, params⟩)
    · exact .inr (.inr literal)
  | close d | escape d | escapeInvalid d | plain d =>
    exact absurd mode_eq (mode_layers_none_ne_literal row d)

/-- **A rule keeps the layers.** -/
theorem layered_apply {s : LineState} (layered : s.Layered atStart)
    (rule : Rule v atStart c rest s.mode m) : (s.apply m.effect).Layered false := by
  obtain ⟨row, _ | d, rfl, start⟩ := layered
  · have start : atStart = true → row = none := fun h => (start h).resolve_right (by simp)
    rcases effect_outside rule start with stay | ⟨rfl, r, enter⟩ | ⟨d, enter⟩
    · exact ⟨row, none, by rw [stay]; rfl, by simp⟩
    · exact ⟨some r, none, by rw [enter]; rfl, by simp⟩
    · exact ⟨row, some d, by rw [enter]; rfl, by simp⟩
  · rcases rule.effect_inside with stay | leave
    · exact ⟨row, some d, by rw [stay]; rfl, by simp⟩
    · exact ⟨row, none, by rw [leave]; exact leave_layers_literal row d, by simp⟩

end LineState

/-! ## Whole lines -/

namespace Vocabulary

variable (v : Vocabulary)

/-- **Induction over a line.** What every rule keeps, from the state and the rest of the line before
it to those after it, is kept to the end of the line. -/
theorem scan_preserves {P : LineState → Bool → Text → Prop}
    (step : ∀ state atStart c rest m, Rule v atStart c rest state.mode m →
      P state atStart (c :: rest) → P (state.apply m.effect) false ((c :: rest).drop m.length))
    {state : LineState} {atStart : Bool} {line : Text} (start : P state atStart line) :
    ∃ atEnd, P (v.scan state atStart line).2 atEnd [] := by
  fun_induction scan with
  | case1 state atStart => exact ⟨atStart, start⟩
  | case2 state atStart c rest found next token after ih =>
    exact ih (step state atStart c rest found (rule_matchAt v atStart c rest state.mode) start)

/-- A line keeps the layers. -/
theorem layered_tokenizeLine {state : LineState} {atStart : Bool} (line : Text)
    (layered : state.Layered atStart) : ∃ atEnd, (v.tokenizeLine line state).state.Layered atEnd :=
  v.scan_preserves (P := fun state atStart _ => state.Layered atStart)
    (fun _ _ _ _ _ rule layered => LineState.layered_apply layered rule)
    (LineState.layered_nextLine layered)

/-- The state after lines that end with a given one. -/
theorem stateAfter_append_singleton (state : LineState) (lines : List Text) (line : Text) :
    v.stateAfter state (lines ++ [line]) =
      (v.tokenizeLine line (v.stateAfter state lines)).state := by
  rw [stateAfter, List.foldl_append]
  rfl

/-- **After any lines the state has at most three layers.** -/
theorem stateAfter_layers (lines : List Text) :
    ∃ row inside, v.stateAfter .initial lines = .layers row inside := by
  have layered : ∃ atEnd, (v.stateAfter .initial lines).Layered atEnd := by
    induction lines using List.reverseRecOn with
    | nil => exact ⟨true, LineState.layered_initial⟩
    | append_singleton lines line ih =>
      rw [stateAfter_append_singleton]
      exact v.layered_tokenizeLine line ih.choose_spec
  obtain ⟨-, row, inside, state_eq, -⟩ := layered
  exact ⟨row, inside, state_eq⟩

/-- The tokens of a line among others are those of the line after the lines before it. -/
theorem getElem?_tokenizeLines (state : LineState) (lines : List Text) (i : Nat) :
    (v.tokenizeLines state lines)[i]? =
      lines[i]?.map fun line => v.tokenizeLine line (v.stateAfter state (lines.take i)) := by
  induction lines generalizing state i with
  | nil => rfl
  | cons line lines ih =>
    rw [tokenizeLines]
    cases i with
    | zero => rfl
    | succ i => exact ih _ i

end Vocabulary

end StepScript
