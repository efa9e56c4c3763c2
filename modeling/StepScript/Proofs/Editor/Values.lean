import Mathlib
import StepScript.Proofs.Catalog.Loading
import StepScript.Proofs.Context.Lookup
import StepScript.Proofs.Editor.Runs
import StepScript.Proofs.Grammar.KeywordsOnly

/-!
# Values do not change what matches

**What a value is for.** Elements, variables and the syntax message are what a host shows: a value
stands for a placeholder in a label, and the message stands beside an unknown line. Which line names
which step, how a script is read and which lines are unknown does not depend on them.

**Why that needs an invariant.** Setting values derives all steps anew and stores them under the
keys that they have now. Nothing is merged or lost, because in every context that can be reached the
steps are stored under the keys of the present keywords (`Context.Sound`) and values leave the
keywords alone. So under each key there is the same step, with other labels
(`Catalog.DerivedUnder.find?_relabelAll`). The editor then derives tokens and problems anew, and
these come out as they were because they were current (`Editor.Current`).

**Calls.** An editor changes its tables by the calls of a context (`Action.tables?`), so its context
stays one that can be reached (`Editor.reachable_after`).
-/

namespace StepScript

/-- What a step is, whatever its placeholders stand for: its key, and what it has of its entry. -/
def Step.identity (s : Step) := (s.key, s.given)

namespace Action

/-- The action sets values for placeholders, or the message for unknown steps. -/
def SetsValues : Action → Prop
  | .setElements _ _ | .setVariables _ _ | .setSyntaxMessage _ => True
  | _ => False

/-- The call that an action makes on the tables. -/
def tables? : Action → Option Context.Call
  | .setKeywords payload => some (.setKeywords payload)
  | .setElements payload drop => some (.setElements payload drop)
  | .setVariables payload drop => some (.setVariables payload drop)
  | .setStepList payload drop => some (.setStepList payload drop)
  | .setSyntaxMessage message => some (.setSyntaxMessage message)
  | _ => none

end Action

/-! ## Catalogs -/

namespace Catalog

variable {c d : Catalog} {v w : Vocabulary}

/-- The unknown lines of a document depend on the keywords and the keys only. -/
theorem lines_check_congr (keywords : w.keywords = v.keywords)
    (keys : ∀ key, d.contains key = c.contains key) (document : Text) :
    (d.check document w).map Problem.line = (c.check document v).map Problem.line := by
  have unknown : d.isUnknown w = c.isUnknown v := by
    funext line
    rw [isUnknown, Vocabulary.matchKeyword?_congr keywords, Vocabulary.stepKey_congr keywords]
    simp only [keys]
    rfl
  rw [check, check, List.map_map, List.map_map, unknown]
  rfl

end Catalog

/-! ## Contexts -/

namespace Context

/-- Two contexts in which the same matches. Their keywords agree, and so do the keys of their steps
and the steps themselves, but for what is shown of placeholders. -/
structure SameMatching (c d : Context) : Prop where
  keywords : d.vocabulary.keywords = c.vocabulary.keywords
  /-- Scripts are read by the same keywords. -/
  grammar : d.grammar.vocabulary.keywords = c.grammar.vocabulary.keywords
  builtinKeywords : d.builtinKeywords = c.builtinKeywords
  hostKeywords : d.hostKeywords = c.hostKeywords
  /-- The same keys lead to a step. -/
  keys : ∀ key, d.catalog.contains key = c.catalog.contains key
  /-- Under a key there is the same step. -/
  steps : ∀ key, (d.catalog.find? key).map Step.identity = (c.catalog.find? key).map Step.identity
  loaded : d.catalog.loaded = c.catalog.loaded

variable {c d : Context}

namespace SameMatching

/-- A script has the same tokens. -/
theorem tokenize (same : c.SameMatching d) (document : Text) :
    d.tokenize document = c.tokenize document :=
  congrFun (Vocabulary.tokenize_congr same.grammar) document

/-- A script has the same unknown lines. -/
theorem check (same : c.SameMatching d) (document : Text) :
    (d.check document).map Problem.line = (c.check document).map Problem.line :=
  Catalog.lines_check_congr same.keywords same.keys document

/-- A line names the same step. -/
theorem stepForLine? (same : c.SameMatching d) (line : Text) :
    (d.stepForLine? line).map Step.identity = (c.stepForLine? line).map Step.identity := by
  rw [Context.stepForLine?, Context.stepForLine?, Catalog.stepForLine?, Catalog.stepForLine?,
    Vocabulary.stepKey_congr same.keywords]
  split
  · rfl
  · exact same.steps _

end SameMatching

/-- **Values leave the catalog matching as it does.** Deriving it anew under a vocabulary with the
same keywords stores every step under the key that it has. -/
theorem Reachable.sameMatching_publish (reachable : c.Reachable) {w : Vocabulary}
    (keywords : w.keywords = c.vocabulary.keywords) : c.SameMatching (c.publish w) := by
  obtain ⟨builtin, history, sound⟩ := reachable.exists_sound
  have keys : w.stepKey = c.vocabulary.stepKey := Vocabulary.stepKey_congr keywords
  have found : ∀ key, (c.publish w).catalog.find? key = (c.catalog.find? key).map (·.relabel w) :=
    sound.catalog.find?_relabelAll sound.numbered keys
  refine ⟨keywords, ?_, rfl, rfl, fun key => ?_, fun key => ?_, rfl⟩
  · rw [sound.grammar]
    exact keywords
  · rw [Catalog.contains, Catalog.contains, Table.contains_eq, Table.contains_eq]
    change ((c.publish w).catalog.find? key).isSome = (c.catalog.find? key).isSome
    rw [found, Option.isSome_map]
  · rw [found, Option.map_map]
    cases at_key : c.catalog.find? key with
    | none => rfl
    | some s =>
      have derived : s.relabel c.vocabulary = s := (sound.catalog key s at_key).2
      have same : (s.relabel w).identity = (s.relabel c.vocabulary).identity := by
        rw [Step.identity, Step.key_relabel, keys]
        rfl
      rw [derived] at same
      exact congrArg some same

/-- So it is when the vocabulary comes from a payload that is accepted. -/
theorem Reachable.sameMatching_of_set {α : Type} {x : Except Failure α} {w : α → Vocabulary}
    (reachable : c.Reachable) (set : (do return c.publish (w (← x))) = .ok d)
    (keywords : ∀ a, (w a).keywords = c.vocabulary.keywords) : c.SameMatching d := by
  obtain ⟨a, -, changed⟩ := Failure.bind_eq_ok set
  cases changed
  exact reachable.sameMatching_publish (keywords a)

/-- The message for unknown steps is no part of what matches. -/
theorem Reachable.sameMatching_setSyntaxMessage (reachable : c.Reachable) (message : Text) :
    c.SameMatching (c.setSyntaxMessage message) := by
  obtain ⟨builtin, history, sound⟩ := reachable.exists_sound
  refine ⟨rfl, ?_, rfl, rfl, fun _ => rfl, fun _ => rfl, rfl⟩
  rw [sound.grammar]
  rfl

end Context

/-! ## Editors -/

namespace Editor

/-- Two editors in which the same matches, and which agree in everything else. They may differ in
the values of placeholders, in the labels, keywords and insert texts of steps, and in messages. -/
structure SameMatching (e left : Editor) : Prop where
  context : e.context.SameMatching left.context
  tokens : left.tokens = e.tokens
  /-- The same lines are unknown. -/
  problems : left.problems.map Problem.line = e.problems.map Problem.line
  document : left.document = e.document
  cursor : left.cursor = e.cursor
  /-- Breakpoints with their states and whether a report of them is pending, highlights, panels. -/
  markers : left.markers = e.markers
  outbox : left.outbox = e.outbox

variable {e left : Editor} {action : Action}

/-- A report does not touch the tables. -/
theorem context_report (list : Option (List Breakpoint)) :
    (e.report list).context = e.context := by
  cases list <;> rfl

/-- An edit does not touch the tables. -/
theorem context_edit (e : Editor) (change : Edit) : (e.edit change).context = e.context := by
  unfold edit reportDrift
  exact context_report _

/-- A change of the tables is what they answer to a call. -/
theorem context_of_set (e : Editor) (call : Context.Call)
    (performed : (do return e.withContext (← e.context.answer call)) = .ok left) :
    left.context = e.context.run [call] := by
  obtain ⟨c, answered, changed⟩ := Failure.bind_eq_ok performed
  cases changed
  change c = e.context.after call
  rw [Context.after, answered]

/-- A payload for the markers does not touch the tables. -/
theorem context_of_attach {α : Type} {x : Except Failure α} {change : α → Markers}
    (performed : (do return e.withMarkers (change (← x))) = .ok left) :
    left.context = e.context := by
  obtain ⟨a, -, changed⟩ := Failure.bind_eq_ok performed
  cases changed
  rfl

/-- What an action does to the tables is one of their calls, or nothing. -/
theorem context_perform (performed : e.perform action = .ok left) :
    left.context = e.context.run action.tables?.toList := by
  cases action with
  | setKeywords payload => exact context_of_set e (.setKeywords payload) performed
  | setElements payload clear => exact context_of_set e (.setElements payload clear) performed
  | setVariables payload clear => exact context_of_set e (.setVariables payload clear) performed
  | setStepList payload clear => exact context_of_set e (.setStepList payload clear) performed
  | setSyntaxMessage message => cases performed; rfl
  | setErrorLinks payload => exact context_of_attach performed
  | decorate payload => exact context_of_attach performed
  | highlight style payload => exact context_of_attach performed
  | setContent text => cases performed; exact context_edit _ _
  | edit change => cases performed; exact context_edit e change
  | flush => cases performed; exact context_report _
  | execute command => cases performed; cases command <;> rfl
  | _ => cases performed; rfl

/-- The context of an editor can be reached, whatever the calls. -/
theorem reachable_after {context : Context} (reachable : context.Reachable) (calls : List Call) :
    ((ofContext context).after calls).context.Reachable := by
  refine after_invariant (P := fun e => e.context.Reachable) (fun e c reachable => ?_) reachable
    calls
  cases c with
  | act action =>
    refine leftBy_of_perform (P := fun e => e.context.Reachable) reachable fun left performed => ?_
    rw [context_perform performed]
    exact reachable.run _
  | highlight style lines => exact reachable
  | drain => exact reachable

/-- An editor with tables in which the same matches reads its document as before. -/
theorem Current.sameMatching_withContext (current : e.Current) {c : Context}
    (same : e.context.SameMatching c) : e.SameMatching (e.withContext c) := by
  refine ⟨same, ?_, ?_, rfl, rfl, rfl, rfl⟩
  · rw [current.tokens_eq]
    exact same.tokenize _
  · rw [current.problems_eq]
    exact same.check _

/-- So it does when the tables come from a payload that is accepted. -/
theorem Current.sameMatching_of_set (current : e.Current) {x : Except Failure Context}
    (same : ∀ c, x = .ok c → e.context.SameMatching c)
    (performed : (do return e.withContext (← x)) = .ok left) : e.SameMatching left := by
  obtain ⟨c, set, changed⟩ := Failure.bind_eq_ok performed
  cases changed
  exact current.sameMatching_withContext (same c set)

/-- **Each action that sets values** leaves alone what matches, if it is accepted. -/
theorem sameMatching_perform (current : e.Current) (reachable : e.context.Reachable)
    (sets : action.SetsValues) (performed : e.perform action = .ok left) :
    e.SameMatching left := by
  cases action with
  | setElements payload clear =>
    refine current.sameMatching_of_set (fun c set => ?_) performed
    exact reachable.sameMatching_of_set set fun _ => rfl
  | setVariables payload clear =>
    refine current.sameMatching_of_set (fun c set => ?_) performed
    exact reachable.sameMatching_of_set set fun _ => rfl
  | setSyntaxMessage message =>
    cases performed
    exact current.sameMatching_withContext (reachable.sameMatching_setSyntaxMessage message)
  | _ => exact sets.elim

/-- **Values never change what matches.** After any calls of an editor whose context can be reached,
elements, variables or a message that are accepted leave the keys of the catalog and the step under
each key, the keywords, all tokens, the lines of the problems, the document, the cursor, everything
attached to lines and the outbox as they were. So every line names the step that it named, with
another label at most. -/
theorem values_keep_matching {context : Context} (reachable : context.Reachable)
    (calls : List Call) (sets : action.SetsValues)
    (performed : ((ofContext context).after calls).perform action = .ok left) :
    ((ofContext context).after calls).SameMatching left ∧
      ∀ line, (left.context.stepForLine? line).map Step.identity =
        (((ofContext context).after calls).context.stepForLine? line).map Step.identity := by
  have current : ((ofContext context).after calls).Current :=
    after_invariant (fun _ c h => h.call c) current_refresh calls
  have same := sameMatching_perform current (reachable_after reachable calls) sets performed
  exact ⟨same, same.context.stepForLine?⟩

/-- A line that names the step with a placeholder, a line that is unknown, and a breakpoint. -/
def openPageEdits : List Call :=
  [.act (.setContent "And then I open 'page' \"it's\nAnd then stop".toList), .act (.toggle 2)]

/-- A payload with another value for the page. -/
def startPage : Text := "\x7b\"page\":\"Start\"\x7d".toList

/-- The page has another value, and under the same key the step has another label. -/
theorem values_keep_matching_startPage :
    ∃ before left : Editor, before = (ofContext Context.openPage).after openPageEdits ∧
      Context.openPage.Reachable ∧ Action.SetsValues (.setElements startPage true) ∧
      before.perform (.setElements startPage true) = .ok left ∧
      before.SameMatching left ∧
      left.problems.map Problem.line = [2] ∧
      (before.context.catalog.find? "i open \"it's".toList).map Step.label =
        some "I open 'Home  page' \"it's".toList ∧
      (left.context.catalog.find? "i open \"it's".toList).map Step.label =
        some "I open 'Start' \"it's".toList := by
  have sets : Action.SetsValues (.setElements startPage true) := trivial
  have read : (Context.Call.setElements startPage true).read =
      .ok (.elementTable [("page".toList, "Start".toList)] true) := by decide +kernel
  have answered := Context.answer_of_read_eq_ok
    (c := ((ofContext Context.openPage).after openPageEdits).context) read
  have performed := congrArg
    (fun c => do return ((ofContext Context.openPage).after openPageEdits).withContext (← c))
    answered
  have same := (values_keep_matching Context.reachable_openPage openPageEdits sets performed).1
  exact ⟨_, _, rfl, Context.reachable_openPage, sets, performed, same, by decide +kernel,
    by decide +kernel, by decide +kernel⟩

end Editor

end StepScript
