/-!
# Programs: changes made in place

A program works on a state step by step and may be refused at any step. It does not take back what
it has done: when it is refused, the state is what the steps before have made of it
(`Program.outcome`). Whoever wants a refusal to change nothing has to read all that may be refused
before the first change.
-/

namespace StepScript

/-- A program on a state of type `σ`. A refusal keeps the changes that were made before it. -/
abbrev Program (σ ε : Type) := ExceptT ε (StateM σ)

namespace Program

variable {σ τ ε α : Type}

/-- The result of a program and the state that it leaves behind. -/
def outcome (p : Program σ ε α) (s : σ) : Except ε α × σ := p.run.run s

/-- Runs a program on a part of a state, which `set` puts back. -/
def onPart (part : σ → τ) (set : σ → τ → σ) (p : Program τ ε α) : Program σ ε α :=
  ExceptT.mk fun s =>
    let (result, left) := p.outcome (part s)
    (result, set s left)

end Program

end StepScript
