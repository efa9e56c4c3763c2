import Mathlib
import StepScript.Context

/-!
# Calls: how a context comes to its tables

**Reading and applying.** A call brings a payload. Whether the payload is accepted, and what it then
changes, can be read off the payload alone (`Context.Call.read`); what the change makes of a context
is a function that cannot fail (`Context.apply`). Every call is the one after the other
(`Context.answer_eq`), so a refusal comes before anything is changed.

**Runs.** In a run of calls a refused call changes nothing (`Context.run`). A run is therefore
decided by its accepted changes, in order (`Context.run_eq_foldl_apply`).

**Openings.** A context starts with its built-in keywords only, or from settings. Settings are
payloads too: the context that they describe is the one after their calls, if all of these are
accepted, and there is none otherwise (`Context.ofSettings_eq_ok_iff`).
-/

namespace StepScript

namespace Context

/-- A call that sets tables of a context. -/
inductive Call where
  | setKeywords (payload : Text)
  | setElements (payload : Text) (clear : Bool)
  | setVariables (payload : Text) (clear : Bool)
  | setStepList (payload : Text) (clear : Bool)
  | setSyntaxMessage (message : Text)
  deriving DecidableEq, Repr

/-- What an accepted call changes. -/
inductive Change where
  | keywords (phrases : List Text)
  | elementTable (pairs : List (Text × Text)) (clear : Bool)
  | variableTable (pairs : List (Text × Text)) (clear : Bool)
  | steps (entries : List StepEntry) (clear : Bool)
  | syntaxMessage (message : Text)
  deriving DecidableEq, Repr

/-- The change that a call asks for, or why its payload is refused. -/
def Call.read : Call → Except Failure Change
  | .setKeywords payload =>
    (readPayload .keywords (Json.Decoder.list Json.Decoder.string) payload).map .keywords
  | .setElements payload clear =>
    (readPayload .elementTable tableDecoder payload).map (.elementTable · clear)
  | .setVariables payload clear =>
    (readPayload .variableTable tableDecoder payload).map (.variableTable · clear)
  | .setStepList payload clear =>
    (readPayload .stepList (Json.Decoder.list StepEntry.decoder) payload).map (.steps · clear)
  | .setSyntaxMessage message => .ok (.syntaxMessage message)

/-- The change of a call that is accepted. -/
def Call.change? (call : Call) : Option Change := call.read.toOption

/-- What a context answers to a call. -/
def answer (c : Context) : Call → Except Failure Context
  | .setKeywords payload => c.setKeywords payload
  | .setElements payload clear => c.setElements payload clear
  | .setVariables payload clear => c.setVariables payload clear
  | .setStepList payload clear => c.setStepList payload clear
  | .setSyntaxMessage message => .ok (c.setSyntaxMessage message)

/-- The context after a change. -/
def apply (c : Context) : Change → Context
  | .keywords phrases =>
    publish { c with hostKeywords := phrases }
      (c.vocabulary.withKeywords (phrases ++ c.builtinKeywords))
  | .elementTable pairs clear => c.publish (c.vocabulary.withElements pairs clear)
  | .variableTable pairs clear => c.publish (c.vocabulary.withVariables pairs clear)
  | .steps entries clear =>
    { c with
      catalog := (c.catalog.extend entries clear c.vocabulary).relabelAll c.vocabulary }
  | .syntaxMessage message => c.setSyntaxMessage message

/-- The context after a call. One that is refused changes nothing. -/
def after (c : Context) (call : Call) : Context :=
  match c.answer call with
  | .ok changed => changed
  | .error _ => c

/-- The context after calls in order. -/
def run (c : Context) (calls : List Call) : Context := calls.foldl after c

variable {c d : Context} {call : Call}

/-! ## Runs -/

/-- **A call is read first and then applied.** -/
theorem answer_eq (c : Context) (call : Call) : c.answer call = call.read.map c.apply := by
  cases call with
  | setKeywords payload =>
    change c.setKeywords payload = _
    rw [setKeywords, Call.read]
    cases readPayload .keywords (Json.Decoder.list Json.Decoder.string) payload <;> rfl
  | setElements payload clear =>
    change c.setElements payload clear = _
    rw [setElements, Call.read]
    cases readPayload .elementTable tableDecoder payload <;> rfl
  | setVariables payload clear =>
    change c.setVariables payload clear = _
    rw [setVariables, Call.read]
    cases readPayload .variableTable tableDecoder payload <;> rfl
  | setStepList payload clear =>
    change c.setStepList payload clear = _
    rw [setStepList, Call.read]
    cases readPayload .stepList (Json.Decoder.list StepEntry.decoder) payload <;> rfl
  | setSyntaxMessage message => rfl

/-- A call whose payload is accepted has its answer. -/
theorem answer_of_read_eq_ok {change : Change} (read : call.read = .ok change) :
    c.answer call = .ok (c.apply change) := by
  rw [answer_eq, read]
  rfl

/-- A call makes its change, if it is accepted. -/
theorem after_eq (c : Context) (call : Call) :
    c.after call = call.change?.toList.foldl apply c := by
  rw [after, answer_eq, Call.change?]
  cases call.read <;> rfl

/-- **Only the accepted changes count.** -/
theorem run_eq_foldl_apply (c : Context) (calls : List Call) :
    c.run calls = (calls.filterMap Call.change?).foldl apply c := by
  induction calls generalizing c with
  | nil => rfl
  | cons call calls ih =>
    rw [run, List.foldl_cons, ← run, ih, after_eq, List.filterMap_cons]
    cases call.change? <;> rfl

/-- Calls one after the other. -/
theorem run_append (c : Context) (before calls : List Call) :
    c.run (before ++ calls) = (c.run before).run calls := List.foldl_append

/-! ## Openings -/

end Context

/-- The calls that settings ask for, in order. Their tables replace what was there before. -/
def Settings.calls (s : Settings) : List Context.Call :=
  let tables : List (Option Context.Call) := [
    s.keywords.map fun v => .setKeywords v.compact,
    s.elementTable.map fun v => .setElements v.compact true,
    s.variableTable.map fun v => .setVariables v.compact true,
    s.syntaxMessage.map .setSyntaxMessage,
    s.steps.map fun v => .setStepList v.compact true]
  tables.flatMap Option.toList

namespace Context

variable {c d : Context} {call : Call}

/-- Calls of which none may be refused lead to the end of their run, if all are accepted. -/
theorem foldlM_answer_eq_ok_iff (calls : List Call) :
    calls.foldlM answer c = .ok d ↔
      (∀ call ∈ calls, call.change?.isSome) ∧ d = c.run calls := by
  induction calls generalizing c with
  | nil =>
    change Except.ok c = .ok d ↔ _ ∧ d = c
    rw [Except.ok.injEq, eq_comm]
    simp
  | cons call calls ih =>
    rw [List.foldlM_cons, answer_eq, List.forall_mem_cons, run, List.foldl_cons, ← run, after_eq]
    cases read : call.read with
    | error refusal =>
      change Except.error refusal = .ok d ↔ _
      simp [Call.change?, read, Except.toOption]
    | ok change =>
      change calls.foldlM answer (c.apply change) = .ok d ↔ _
      rw [ih]
      simp [Call.change?, read, Except.toOption]

/-- A payload of settings is a call, if it is there. -/
theorem applyPayload_eq_foldlM (c : Context) (payload : Option Json.Value) (call : Text → Call) :
    c.applyPayload payload (fun c t => c.answer (call t)) =
      ((payload.map fun v => call v.compact).toList).foldlM answer c := by
  cases payload with
  | none => rfl
  | some v =>
    rw [applyPayload, Option.map_some, Option.toList_some, List.foldlM_cons]
    cases c.answer (call v.compact) <;> rfl

/-- **The context of settings.** It exists if every payload of the settings is accepted, and it is
the one after their calls. -/
theorem ofSettings_eq_ok_iff {s : Settings} :
    ofSettings s = .ok c ↔
      (∀ call ∈ s.calls, call.change?.isSome) ∧ c = (ofKeywords s.builtinKeywords).run s.calls := by
  have all : ofSettings s = s.calls.foldlM answer (ofKeywords s.builtinKeywords) := by
    have message : ∀ c : Context,
        ((s.syntaxMessage.map Call.setSyntaxMessage).toList).foldlM answer c =
          .ok (s.syntaxMessage.elim c c.setSyntaxMessage) := by
      intro c
      cases s.syntaxMessage <;> rfl
    simp only [Settings.calls, List.flatMap_cons, List.flatMap_nil, List.append_nil,
      List.foldlM_append, message]
    rw [← applyPayload_eq_foldlM _ s.keywords .setKeywords]
    simp only [← applyPayload_eq_foldlM _ _ (Call.setElements · true),
      ← applyPayload_eq_foldlM _ _ (Call.setVariables · true),
      ← applyPayload_eq_foldlM _ _ (Call.setStepList · true)]
    rw [ofSettings]
    cases s.syntaxMessage <;> rfl
  rw [all, foldlM_answer_eq_ok_iff]

/-- How a context begins: with its built-in keywords and nothing else, or from settings, whose
payloads are its first calls. -/
inductive Opens : Context → List Text → List Call → Prop where
  | new (builtin : List Text) : Opens (ofKeywords builtin) builtin []
  | configured {s : Settings} {c : Context} (opened : ofSettings s = .ok c) :
    Opens c s.builtinKeywords s.calls

/-- A context that some calls lead to from a beginning. -/
def Reachable (c : Context) : Prop :=
  ∃ start builtin opening calls, Opens start builtin opening ∧ c = start.run calls

/-- However a context begins, it is as if its first calls had been made one by one. -/
theorem Opens.run_eq {start : Context} {builtin : List Text} {opening : List Call}
    (opens : start.Opens builtin opening) (calls : List Call) :
    start.run calls = (ofKeywords builtin).run (opening ++ calls) := by
  cases opens with
  | new => rfl
  | configured opened => rw [(ofSettings_eq_ok_iff.mp opened).2, run_append]

/-- Calls lead from a reachable context to a reachable one. -/
theorem Reachable.run (reachable : c.Reachable) (calls : List Call) : (c.run calls).Reachable := by
  obtain ⟨start, builtin, opening, before, opens, rfl⟩ := reachable
  exact ⟨start, builtin, opening, before ++ calls, opens, (run_append start before calls).symm⟩

end Context

end StepScript
