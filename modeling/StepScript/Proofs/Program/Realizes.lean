import Mathlib
import StepScript.Program

/-!
# All or nothing

**What is compared.** A program changes a state in place. A function on states says at once what
comes of it: another state, or a refusal. The program realizes the function if it ends in the state
that the function gives, and if what the function refuses leaves the state as it was
(`Program.Realizes`).

**Why a program realizes one.** It may be refused only before it changes anything. So there is a
lemma for what is read first (`Realizes.read`), one for a change that cannot be refused
(`Realizes.of_modify`) and one for such a change after others (`Realizes.then_modify`), and one for
programs on a part of the state (`Realizes.onPart`). There is none for what may be refused after a
change, because such a program realizes no function.
-/

namespace StepScript.Program

variable {σ τ ε δ α β : Type}

/-- A program that goes on with the result of another, if there is one. -/
theorem outcome_bind (p : Program σ ε α) (rest : α → Program σ ε β) (s : σ) :
    (p >>= rest).outcome s =
      match p.outcome s with
      | (.ok a, left) => (rest a).outcome left
      | (.error refusal, left) => (.error refusal, left) := by
  show (ExceptT.bindCont rest (p.outcome s).1 : StateM σ (Except ε β)) (p.outcome s).2 = _
  rcases p.outcome s with ⟨_ | _, _⟩ <;> rfl

/-- Giving another reason for a refusal changes nothing else. -/
theorem outcome_adapt (reason : ε → δ) (p : Program σ ε α) (s : σ) :
    outcome (ExceptT.adapt reason p) s = ((p.outcome s).1.mapError reason, (p.outcome s).2) := rfl

/-- What a program comes to that ends in the state given, or is refused and changes nothing. -/
def atOnce (s : σ) : Except ε σ → Except ε Unit × σ
  | .ok changed => (.ok (), changed)
  | .error refusal => (.error refusal, s)

/-- The program does in place what `f` does at once, and nothing if `f` refuses. -/
def Realizes (p : Program σ ε Unit) (f : σ → Except ε σ) : Prop :=
  ∀ s, p.outcome s = atOnce s (f s)

namespace Realizes

variable {p : Program σ ε Unit} {f : σ → Except ε σ}

/-- A change that cannot be refused. -/
theorem of_modify (g : σ → σ) : Realizes (modify g : Program σ ε Unit) fun s => .ok (g s) :=
  fun _ => rfl

/-- **Reading first.** What is read may be refused, as nothing has been changed by then. -/
theorem read (x : Except ε α) {rest : α → Program σ ε Unit} {g : α → σ → Except ε σ}
    (h : ∀ a, (rest a).Realizes (g a)) : Realizes (liftM x >>= rest) fun s => x >>= (g · s) := by
  intro s
  cases x with
  | error refusal => rfl
  | ok a => exact h a s

/-- A change that cannot be refused may follow. -/
theorem then_modify (h : p.Realizes f) (g : σ → σ) :
    Realizes (do p; modify g) fun s => (f s).map g := by
  intro s
  show _ = atOnce s ((f s).map g)
  rw [outcome_bind, h s]
  cases f s <;> rfl

/-- A program on a part of the state, if putting the part back changes nothing. -/
theorem onPart {part : σ → τ} {set : σ → τ → σ} (same : ∀ s, set s (part s) = s)
    {p : Program τ ε Unit} {f : τ → Except ε τ} (h : p.Realizes f) :
    (p.onPart part set).Realizes fun s => (f (part s)).map (set s) := by
  intro s
  show ((p.outcome (part s)).1, set s (p.outcome (part s)).2) = atOnce s ((f (part s)).map (set s))
  rw [h (part s)]
  cases f (part s) with
  | ok changed => rfl
  | error refusal => exact congrArg (Prod.mk _) (same s)

end Realizes

end StepScript.Program
