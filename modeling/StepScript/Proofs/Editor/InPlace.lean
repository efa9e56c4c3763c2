import Mathlib
import StepScript.Bridge.Request
import StepScript.Proofs.Context.InPlace

/-!
# Refused requests change nothing

**In place and at once.** An editor carries out what is asked of it in place, step by step. What it
comes to has also been said at once, by functions that give another context or editor, or a refusal.
There is one lemma for each call that sets tables (`Context.InPlace.realizes_setKeywords` and its
kin), which reads its payload before it writes anything, and from these one for all actions
(`Editor.InPlace.realizes_perform`) and one for requests (`Editor.outcome_dispatch`).

**All or nothing.** So whatever is refused, an argument, a payload or a method, is refused before
the editor is changed, and the editor that is left behind is the one that was asked.
-/

namespace StepScript

open Program

namespace Editor

namespace InPlace

/-! ## Actions -/

/-- A change of the tables, after which tokens and problems are derived anew. -/
theorem realizes_configure {change : Program Context Failure Unit}
    {f : Context → Except Failure Context} (h : change.Realizes f) :
    (configure change).Realizes fun e => do return e.withContext (← f e.context) := by
  intro e
  let set (e : Editor) (c : Context) : Editor := { e with context := c }
  have focused : (change.onPart context set).Realizes fun e => (f e.context).map (set e) :=
    h.onPart fun _ => rfl
  show _ = atOnce e (do return e.withContext (← f e.context))
  rw [configure, focused.then_modify refresh e]
  beta_reduce
  cases f e.context <;> rfl

/-- A payload that replaces something attached to lines. -/
theorem realizes_attach {α : Type} (subject : Subject) (decoder : Json.Decoder α) (payload : Text)
    (change : Markers → α → Markers) :
    (attach subject decoder payload change).Realizes fun e => do
      return e.withMarkers (change e.markers (← readPayload subject decoder payload)) :=
  Realizes.read _ fun _ _ => rfl

/-- **Every action is carried out in place as it is at once**, and not at all if it is refused. -/
theorem realizes_perform (action : Action) :
    (InPlace.perform action).Realizes (·.perform action) := by
  cases action with
  | setKeywords payload =>
    exact realizes_configure (Context.InPlace.realizes_setKeywords payload)
  | setElements payload clear =>
    exact realizes_configure (Context.InPlace.realizes_setElements payload clear)
  | setVariables payload clear =>
    exact realizes_configure (Context.InPlace.realizes_setVariables payload clear)
  | setStepList payload clear =>
    exact realizes_configure (Context.InPlace.realizes_setStepList payload clear)
  | setSyntaxMessage message =>
    exact realizes_configure (Context.InPlace.realizes_setSyntaxMessage message)
  | setErrorLinks payload => exact realizes_attach _ _ payload _
  | decorate payload => exact realizes_attach _ _ payload _
  | highlight style payload => exact realizes_attach _ _ payload (·.highlight style ·)
  | _ => exact Realizes.of_modify _

end InPlace

/-- What an action leaves behind: the editor after it, or the editor as it was. -/
theorem leftBy_eq (e : Editor) (action : Action) :
    e.leftBy action = (e.perform action).toOption.getD e := by
  rw [leftBy, InPlace.realizes_perform action e]
  beta_reduce
  cases e.perform action <;> rfl

/-! ## Requests -/

/-- What a request asks for is carried out. -/
theorem serve_eq (e : Editor) (r : Request) :
    e.serve r =
      match r.operation with
      | .ok operation => e.carryOut operation
      | .error refusal => .error refusal := by
  rw [serve]
  cases r.operation <;> rfl

/-- **A request is served in place as it is at once**, and not at all if it is refused. -/
theorem outcome_dispatch (e : Editor) (r : Request) :
    (dispatch r).outcome e =
      match e.serve r with
      | .ok (answer, changed) => (.ok answer, changed)
      | .error refusal => (.error refusal, e) := by
  rw [dispatch, outcome_bind, serve_eq]
  cases r.operation with
  | error refusal => rfl
  | ok operation =>
    cases operation with
    | query query => rfl
    | action action =>
      show (do ExceptT.adapt Refusal.payload (InPlace.perform action); return none :
        Program Editor Refusal (Option Json.Value)).outcome e = _
      rw [outcome_bind, outcome_adapt, InPlace.realizes_perform action e]
      simp only [carryOut]
      cases e.perform action <;> rfl

end Editor

end StepScript
