import Mathlib
import StepScript.Proofs.Editor.InPlace

/-!
# What holds after any calls of an editor

**Calls.** An editor is called to carry out an action, to put lines into a class, or to hand over
its events (`Editor.Call`). An action works in place, so one that is refused leaves behind whatever
it has made of the editor by then (`Editor.leftBy`). What each call keeps holds after any number of
them (`Editor.after_invariant`).

**Derived state.** The tokens and the problems of an editor are kept beside the document and the
tables, and not derived when they are asked for. They are current (`Editor.Current`) if deriving
them again would change nothing. A call that changes the document or the tables derives them anew
as its last step but for the events, and the others leave all four alone; so they are current after
any calls, accepted or refused (`Editor.after_derived`).
-/

namespace StepScript.Editor

variable {e left : Editor}

/-! ## Calls -/

/-- What an editor is called to do. -/
inductive Call where
  | act (action : Action)
  /-- Lines are put into a class. -/
  | highlight (style : Text) (lines : List Nat)
  /-- The events are taken. -/
  | drain
  deriving DecidableEq, Repr

/-- The editor that a call leaves behind. -/
def call (e : Editor) : Call → Editor
  | .act action => e.leftBy action
  | .highlight style lines => e.withMarkers (e.markers.highlight style lines)
  | .drain => e.drain.2

/-- The editor after calls. -/
def after (e : Editor) (calls : List Call) : Editor := calls.foldl call e

/-- What each call keeps holds after any calls. -/
theorem after_invariant {P : Editor → Prop} (step : ∀ e c, P e → P (call e c)) (start : P e)
    (calls : List Call) : P (e.after calls) := by
  induction calls generalizing e with
  | nil => exact start
  | cons c calls ih => exact ih (step e c start)

/-- What every action keeps that is carried out is kept whatever an action leaves behind. -/
theorem leftBy_of_perform {P : Editor → Prop} (start : P e) {action : Action}
    (performs : ∀ left, e.perform action = .ok left → P left) : P (e.leftBy action) := by
  rw [leftBy_eq]
  cases performed : e.perform action with
  | error refusal => exact start
  | ok left => exact performs left performed

/-! ## Derived state -/

/-- Deriving the tokens and the problems again would change nothing. -/
def Current (e : Editor) : Prop := e.refresh = e

/-- They are current when they have just been derived. -/
theorem current_refresh : e.refresh.Current := rfl

namespace Current

/-- The tokens are then those of the content. -/
theorem tokens_eq (h : e.Current) : e.tokens = e.context.tokenize e.content :=
  (congrArg Editor.tokens h).symm

/-- And the problems are those of the content. -/
theorem problems_eq (h : e.Current) : e.problems = e.context.check e.content :=
  (congrArg Editor.problems h).symm

/-- They stay so while the document and the tables stay, and they themselves do. -/
theorem of_same (h : e.Current) (context : left.context = e.context)
    (document : left.document = e.document) (tokens : left.tokens = e.tokens)
    (problems : left.problems = e.problems) : left.Current := by
  have tokens_left : left.context.tokenize left.document.text = left.tokens := by
    rw [context, document, tokens, h.tokens_eq]
    rfl
  have problems_left : left.context.check left.document.text = left.problems := by
    rw [context, document, problems, h.problems_eq]
    rfl
  unfold Current refresh
  rw [tokens_left, problems_left]

/-- Other markers do not matter. -/
theorem withMarkers (h : e.Current) (markers : Markers) : (e.withMarkers markers).Current :=
  h.of_same rfl rfl rfl rfl

/-- An event does not matter. -/
theorem fire (h : e.Current) (event : Event) : (e.fire event).Current := h.of_same rfl rfl rfl rfl

/-- A report does not matter. -/
theorem report (h : e.Current) (list : Option (List Breakpoint)) : (e.report list).Current := by
  cases list with
  | none => exact h
  | some list => exact h.fire _

end Current

/-- An edit derives them anew, before it announces itself and reports breakpoints. -/
theorem current_edit (e : Editor) (change : Edit) : (e.edit change).Current := by
  unfold edit reportDrift
  exact ((current_refresh.fire .contentDidChange).withMarkers _).report _

/-- A change of the tables derives them anew. -/
theorem current_withContext {context : Except Failure Context}
    (performed : (do return e.withContext (← context)) = .ok left) : left.Current := by
  obtain ⟨c, -, changed⟩ := Failure.bind_eq_ok performed
  cases changed
  exact current_refresh

/-- A payload for the markers does not matter. -/
theorem Current.attach {α : Type} {x : Except Failure α} {change : α → Markers} (h : e.Current)
    (performed : (do return e.withMarkers (change (← x))) = .ok left) : left.Current := by
  obtain ⟨a, -, changed⟩ := Failure.bind_eq_ok performed
  cases changed
  exact h.withMarkers _

/-- A command does not matter. -/
theorem Current.execute (h : e.Current) (command : Command) : (e.execute command).Current := by
  cases command with
  | toggleBreakpoint => exact h.withMarkers _
  | _ => exact h.fire _

/-- **Every action** that is carried out leaves them current. -/
theorem Current.perform (h : e.Current) {action : Action}
    (performed : e.perform action = .ok left) : left.Current := by
  cases action with
  | setContent text => cases performed; exact current_edit _ _
  | edit change => cases performed; exact current_edit e change
  | setKeywords payload => exact current_withContext performed
  | setElements payload clear => exact current_withContext performed
  | setVariables payload clear => exact current_withContext performed
  | setStepList payload clear => exact current_withContext performed
  | setSyntaxMessage message => cases performed; exact current_refresh
  | setErrorLinks payload => exact h.attach performed
  | decorate payload => exact h.attach performed
  | highlight style payload => exact h.attach performed
  | flush => cases performed; exact (h.withMarkers _).report _
  | setCursor line => cases performed; exact h.of_same rfl rfl rfl rfl
  | execute command => cases performed; exact h.execute command
  | toggle line => cases performed; exact h.withMarkers _
  | hover line => cases performed; exact h.withMarkers _
  | showError line data text => cases performed; exact h.withMarkers _
  | showCode line data text => cases performed; exact h.withMarkers _
  | clearErrors => cases performed; exact h.withMarkers _
  | clear => cases performed; exact h.withMarkers _

/-- Every call leaves them current. -/
theorem Current.call (h : e.Current) (c : Call) : (e.call c).Current := by
  cases c with
  | act action => exact leftBy_of_perform h fun _ performed => h.perform performed
  | highlight style lines => exact h.withMarkers _
  | drain => exact h.of_same rfl rfl rfl rfl

/-- **Derived state is never stale.** After any calls of a new editor, accepted or refused, its
tokens are those that its grammar finds in its text, and its problems are those that its catalog
finds there under its vocabulary. -/
theorem after_derived (context : Context) (calls : List Call) :
    ((ofContext context).after calls).tokens =
        ((ofContext context).after calls).context.grammar.tokenize
          ((ofContext context).after calls).content ∧
      ((ofContext context).after calls).problems =
        ((ofContext context).after calls).context.catalog.check
          ((ofContext context).after calls).content
          ((ofContext context).after calls).context.vocabulary := by
  have current : ((ofContext context).after calls).Current :=
    after_invariant (fun _ c h => h.call c) current_refresh calls
  generalize (ofContext context).after calls = last at current ⊢
  exact ⟨congrArg Editor.tokens current.symm, congrArg Editor.problems current.symm⟩

end StepScript.Editor
