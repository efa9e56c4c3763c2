import Mathlib
import StepScript.Proofs.Editor.Runs
import StepScript.Proofs.Marker.Discard
import StepScript.Proofs.Marker.Following
import StepScript.Proofs.Marker.Frame

/-!
# No family interferes with another

**What a call touches.** `Action.touches` and `Editor.Call.touches` name the families that a call is
about: breakpoints for what concerns them or the hint, highlights for the classes of lines, panels
for errors, pieces of script and links. A call that ends a session is about highlights and panels,
and an edit moves everything. The others touch none.

**Anchors.** In every editor that can be reached the live anchors are those that the families hold,
each held once. So a call leaves alone what it is not about (`Editor.frame_call`). Where anchors are
discarded behind their owner's back, each live one still has one owner. The three statements are put
together in `Editor.families_apart`.
-/

namespace StepScript

/-- The families that an action is about. -/
def Action.touches : StepScript.Action → Family → Prop
  | .setContent _ | .edit _ => fun _ => True
  | .decorate _ | .toggle _ | .hover _ | .flush => (· = .breakpoints)
  | .execute command => fun family => command = .toggleBreakpoint ∧ family = .breakpoints
  | .highlight _ _ => (· = .highlights)
  | .setErrorLinks _ | .showError _ _ _ | .showCode _ _ _ | .clearErrors => (· = .panels)
  | .clear => (· ≠ .breakpoints)
  | _ => fun _ => False

namespace Editor

/-- The families that a call is about. -/
def Call.touches : Call → Family → Prop
  | .act action => action.touches
  | .highlight _ _ => (· = .highlights)
  | .drain => fun _ => False

variable {e left : Editor}

/-! ## What an action leaves alone -/

/-- An edit touches everything, and changes no owner. -/
theorem frame_edit (owned : e.markers.Owned) (change : Edit) :
    e.markers.Frame (e.edit change).markers fun _ => True := by
  refine .of_owned ?_ fun _ => trivial
  rw [e.markers_edit change]
  exact (owned.replaceLines _ _ _).checkDrift

/-- A flush touches breakpoints only. -/
theorem frame_flush (owned : e.markers.Owned) :
    e.markers.Frame e.flush.2.markers (· = .breakpoints) := by
  have flushed : e.flush.2.markers = e.markers.flush.2 := markers_report _ _
  have held : (e.markers.breakpoints.flush e.markers.anchors).2.held =
      e.markers.breakpoints.held := by
    unfold Breakpoints.flush
    split_ifs <;> rfl
  have exchange : Anchors.Exchange e.markers.anchors e.markers.breakpoints.held e.markers.anchors
      (e.markers.breakpoints.flush e.markers.anchors).2.held := by
    rw [held]
    exact .refl
  rw [flushed]
  exact owned.frame_breakpoints exchange

/-- A toggle touches breakpoints only. -/
theorem frame_toggle (owned : e.markers.Owned) (line : Nat) :
    e.markers.Frame (e.toggle line).2.markers (· = .breakpoints) :=
  owned.frame_breakpoints (e.markers.breakpoints.exchange_toggle e.markers.anchors line)

/-- A change of the tables touches nothing. -/
theorem frame_withContext {touched : Family → Prop} {context : Except Failure Context}
    (owned : e.markers.Owned) (performed : (do return e.withContext (← context)) = .ok left) :
    e.markers.Frame left.markers touched := by
  obtain ⟨c, -, changed⟩ := Failure.bind_eq_ok performed
  cases changed
  exact .refl owned

/-- The end of a session touches highlights and panels. -/
theorem frame_clear (owned : e.markers.Owned) :
    e.markers.Frame e.clear.markers (· ≠ .breakpoints) := by
  -- panels are cleared in the store that the highlights have left
  have first := owned.frame_highlights (e.markers.highlights.exchange_clear e.markers.anchors)
  have second := first.owned.frame_panels (e.markers.panels.exchange_clear _)
  have apart (family other : Family) (ne : other ≠ .breakpoints) :
      family = other → family ≠ .breakpoints := fun eq => eq ▸ ne
  exact (first.mono (apart · _ (by decide))).trans (second.mono (apart · _ (by decide)))

/-- **Every action** that is carried out leaves alone what it is not about. -/
theorem frame_perform (owned : e.markers.Owned) {action : StepScript.Action}
    (performed : e.perform action = .ok left) : e.markers.Frame left.markers action.touches := by
  cases action with
  -- the line endings are set first, which moves nothing
  | setContent text =>
    cases performed
    exact frame_edit (e := { e with document := e.document.withEndingsOf text }) owned _
  | edit change => cases performed; exact frame_edit owned change
  | decorate payload =>
    obtain ⟨list, -, changed⟩ := Failure.bind_eq_ok performed
    cases changed
    exact owned.frame_breakpoints (e.markers.breakpoints.exchange_decorate _ list)
  | toggle line => cases performed; exact frame_toggle owned line
  | hover line =>
    cases performed
    exact owned.frame_breakpoints (e.markers.breakpoints.exchange_hover _ line)
  | flush => cases performed; exact frame_flush owned
  | execute command =>
    cases performed
    cases command with
    | toggleBreakpoint => exact (frame_toggle owned e.cursor).mono fun _ here => ⟨rfl, here⟩
    | _ => exact .refl owned
  | highlight style payload =>
    obtain ⟨lines, -, changed⟩ := Failure.bind_eq_ok performed
    cases changed
    exact owned.frame_highlights (e.markers.highlights.exchange_set _ style lines)
  | setErrorLinks payload =>
    obtain ⟨links, -, changed⟩ := Failure.bind_eq_ok performed
    cases changed
    exact owned.frame_panels .refl
  | showError line data text =>
    cases performed
    exact owned.frame_panels (e.markers.panels.exchange_add _ line data text _)
  | showCode line data text =>
    cases performed
    exact owned.frame_panels (e.markers.panels.exchange_add _ line data text _)
  | clearErrors =>
    cases performed
    exact owned.frame_panels (e.markers.panels.exchange_clearErrors _)
  | clear => cases performed; exact frame_clear owned
  | setKeywords payload => exact frame_withContext owned performed
  | setElements payload clear => exact frame_withContext owned performed
  | setVariables payload clear => exact frame_withContext owned performed
  | setStepList payload clear => exact frame_withContext owned performed
  | setSyntaxMessage message => cases performed; exact .refl owned
  | setCursor line => cases performed; exact .refl owned

/-! ## What a call leaves alone -/

/-- **Every call** leaves alone what it is not about, and every anchor with one owner. -/
theorem frame_call (owned : e.markers.Owned) (c : Call) :
    e.markers.Frame (e.call c).markers c.touches := by
  cases c with
  | act action =>
    refine leftBy_of_perform ?_ fun left performed => frame_perform owned performed
    exact .refl owned
  | highlight style lines =>
    exact owned.frame_highlights (e.markers.highlights.exchange_set _ style lines)
  | drain => exact .refl owned

/-- In every editor that can be reached, each live anchor has one owner. -/
theorem owned_after (context : Context) (calls : List Call) :
    ((ofContext context).after calls).markers.Owned := by
  refine after_invariant (P := fun e => e.markers.Owned) ?_ Markers.owned_empty calls
  intro e c owned
  exact (frame_call owned c).owned

/-- **One owner, and no interference.** In every editor that can be reached the live anchors are
those that the breakpoints, the hint, the highlights and the panels hold, and none is held twice. So
a call that is not about breakpoints leaves the breakpoints to report, the state on every line and
the hint as they were, one that is not about highlights leaves the lines of every class, and one
that is not about panels leaves these and the line of each. And whatever is done to the families and
their store, each live anchor is held exactly once though others were discarded. -/
theorem families_apart :
    (∀ (context : Context) (calls : List Call),
      ((ofContext context).after calls).markers.anchors.ids.Perm
          ((ofContext context).after calls).markers.held ∧
        ((ofContext context).after calls).markers.held.Nodup ∧
        ∀ c : Call,
          (¬ c.touches .breakpoints → ((ofContext context).after calls).markers.SameBreakpoints
            (((ofContext context).after calls).call c).markers) ∧
          (¬ c.touches .highlights → ((ofContext context).after calls).markers.SameHighlights
            (((ofContext context).after calls).call c).markers) ∧
          (¬ c.touches .panels → ((ofContext context).after calls).markers.SamePanels
            (((ofContext context).after calls).call c).markers)) ∧
    ∀ (operations : List Markers.Operation) (id : AnchorId),
      id ∈ (operations.foldl Markers.operate .empty).anchors.ids →
        (operations.foldl Markers.operate .empty).held.count id = 1 := by
  constructor
  · intro context calls
    have owned := owned_after context calls
    generalize (ofContext context).after calls = e at owned ⊢
    have perm : e.markers.anchors.ids.Perm e.markers.held := by
      have shared := owned.perm
      rwa [List.append_nil] at shared
    refine ⟨perm, perm.nodup_iff.mp owned.nodup, fun c => ?_⟩
    have frame := frame_call owned c
    exact ⟨frame.breakpoints, frame.highlights, frame.panels⟩
  · intro operations id live
    exact (Markers.Covered.empty.run operations).count_held live

/-- A breakpoint, the hint, two lines in a class and a panel. -/
def attachedCalls : List Call :=
  [.act (.toggle 3), .act (.hover (some 5)), .highlight "current".toList [3, 7],
    .act (.showError 3 [] "no such step".toList)]

/-- Five anchors are held. A toggle removes two of them, and leaves the highlights and the panel on
the same lines alone. When an anchor is discarded, the others still have one owner. -/
theorem families_apart_attachedCalls :
    ¬ Call.touches (.act (.toggle 3)) .highlights ∧
      ((ofContext default).after attachedCalls).markers.anchors.ids = [1, 2, 3, 4, 5] ∧
      (((ofContext default).after attachedCalls).call (.act (.toggle 3))).markers.anchors.ids =
        [3, 4, 5] ∧
      ((ofContext default).after attachedCalls).markers.SameHighlights
        (((ofContext default).after attachedCalls).call (.act (.toggle 3))).markers ∧
      ([.toggle 1, .toggle 2, .discard 1, .checkDrift, .showError 1 [] []].foldl Markers.operate
        .empty).held.count 2 = 1 := by
  have untouched : ¬ Call.touches (.act (.toggle 3)) .highlights := fun touched => nomatch touched
  have frames := (families_apart.1 default attachedCalls).2.2 (.act (.toggle 3))
  refine ⟨untouched, by decide +kernel, by decide +kernel, frames.2.1 untouched, ?_⟩
  exact families_apart.2 _ 2 (by decide +kernel)

end Editor

end StepScript
