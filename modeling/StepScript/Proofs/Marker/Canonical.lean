import StepScript.Context
import StepScript.Event
import StepScript.Proofs.Json.RoundTrip
import StepScript.Proofs.Marker.Drift
import StepScript.Proofs.Marker.Store

/-!
# The list that is reported, and what happens when it comes back

**The report.** A list of breakpoints is sent as the text of some data. Line numbers have 32 bits,
so the text is read again as the list (`Breakpoint.decode?_list`).

**The list that comes back.** After a list has come from the host, the editor reports one breakpoint
for each line in it, the first one (`Breakpoints.Pushed.canonical_eq`). A list that the editor has
reported has one breakpoint for each line already, in order, and is left as it is
(`HostRecord.Ascending.ofList_eq`). So an editor that is sent its own report reports the same again,
and no marker has moved for it (`Breakpoints.Pushed.checkDrift_eq`, `Breakpoints.report_settles`).
None of this depends on how the markers came to be where they are: several may share a line, and
some may have lost their anchor.
-/

namespace StepScript

open Anchors HostRecord Json

/-! ## The text of a report -/

/-- A record with two fields that are both written, in the order of its declaration. -/
theorem Json.Decoder.fields?_pair {first second : String} (apart : first.toList ≠ second.toList)
    (x y : Tree) (depth : Nat) :
    fields? [first, second] (depth + 1)
        (.object [(some first.toList, x), (some second.toList, y)]) =
      some (depth, [some x, some y]) := by
  simp [fields?, keys?, apart, apart.symm]

namespace Breakpoint

variable {x : Breakpoint} {list : List Breakpoint}

/-- A breakpoint is decoded from what it is written as. -/
theorem decoder_toTree (fits : x.line < twoTo 32) (depth : Nat) :
    decoder (depth + 1) x.toValue.toTree = some x := by
  have apart : "lineNumber".toList ≠ "enable".toList := by simp
  have fields : Decoder.fields? ["lineNumber", "enable"] (depth + 1) x.toValue.toTree =
      some (depth, [some (.number (some (.natural x.line))), some (.bool x.enabled)]) :=
    Decoder.fields?_pair apart _ _ depth
  have line : Decoder.line depth (.number (some (.natural x.line))) = some x.line := if_pos fits
  rw [decoder, fields]
  simp only [Option.bind_eq_bind, Option.bind_some, Decoder.required, line, Decoder.bool]

/-- So is a list, item by item. -/
theorem mapM_decoder (fits : ∀ x ∈ list, x.line < twoTo 32) (depth : Nat) :
    (Value.toTrees (list.map toValue)).mapM (decoder (depth + 1)) = some list := by
  induction list with
  | nil => rfl
  | cons x list ih =>
    rw [List.forall_mem_cons] at fits
    rw [List.map_cons, Value.toTrees, List.mapM_cons, decoder_toTree fits.1, ih fits.2]
    rfl

/-- The numbers in a written list are whole. -/
theorem wholeItems_toValue (fits : ∀ x ∈ list, x.line < twoTo 32) :
    Value.WholeItems (list.map toValue) := by
  induction list with
  | nil => trivial
  | cons x list ih =>
    rw [List.forall_mem_cons] at fits
    exact ⟨⟨⟨x.line, fits.1.trans (by decide), rfl⟩, trivial, trivial⟩, ih fits.2⟩

/-- **A list that is reported is read again.** -/
theorem decode?_list (fits : ∀ x ∈ list, x.line < twoTo 32) :
    Decoder.decode? (Decoder.list decoder) (Value.array (list.map toValue)).compact =
      some list := by
  have whole : (Value.array (list.map toValue)).Whole := wholeItems_toValue fits
  rw [Decoder.decode?, Value.parse?_compact whole, Option.bind_some]
  exact mapM_decoder fits _

end Breakpoint

/-! ## The list that comes back -/

/-- A record is what its own entries make. -/
theorem HostRecord.Ascending.ofList_eq {record : HostRecord} (ascending : record.Ascending) :
    ofList record = record := by
  induction record with
  | nil => rfl
  | cons x rest ih =>
    obtain ⟨first, ordered⟩ := List.pairwise_cons.mp ascending
    change enter x (ofList rest) = x :: rest
    rw [ih ordered]
    cases rest with
    | nil => rfl
    | cons y rest => exact if_pos (first y List.mem_cons_self)

namespace Breakpoints

variable {b : Breakpoints} {a : Anchors} {list : List Breakpoint}

/-- After a list has come, what is reported is the record of the list. -/
theorem Pushed.canonical_eq (pushed : b.Pushed a list) : b.canonical a = ofList list := by
  rw [canonical_of_seen (fun k mem _ => pushed.seen k mem) pushed.verified, pushed.breakpoints]

/-- After a list has come, a check finds nothing that has moved or is gone. -/
theorem Pushed.checkDrift_eq (pushed : b.Pushed a list) : b.checkDrift a = (none, b) := by
  refine b.checkDrift_of_still a (fun k mem => ?_) fun k mem => ?_
  · rw [pushed.seen k mem]
    rfl
  · simp [hasDrifted, pushed.seen k mem]

/-- **Reporting and taking over a list settle.** Whatever has been done to a store, and whatever
markers there are, the list that is reported ascends strictly by line, has an entry for a line
exactly if the line has a state, and has the flag of the first marker on it. After a list has come
from the host, the list that is reported has the first breakpoint of each line in that. And the text
of a report is read again as the list, and if that comes back, the same list is reported, all
markers are verified, nothing is pending, and nothing has moved. -/
theorem report_settles (changes : List Change) (b : Breakpoints) :
    let a := made changes
    let reported := b.canonical a
    reported.Pairwise (·.line < ·.line) ∧
      (∀ line, (∃ x ∈ reported, x.line = line) ↔ (b.stateAt? a line).isSome) ∧
      (∀ x ∈ reported, (b.markerAt? a x.line).map Marker.enabled = some x.enabled) ∧
      (∀ (list : List Breakpoint) (x : Breakpoint),
        let after := b.decorate a list
        x ∈ after.1.canonical after.2 ↔ list.find? (·.line = x.line) = some x) ∧
      ((∀ x ∈ reported, x.line < twoTo 32) →
        ∃ payload, (Event.updateBreakpoints reported).payload? = some payload ∧
          readPayload .breakpoints (Decoder.list Breakpoint.decoder) payload = .ok reported) ∧
      let after := b.decorate a reported
      after.1.canonical after.2 = reported ∧ after.1.Verified ∧ after.1.pending = false ∧
        after.1.checkDrift after.2 = (none, after.1) := by
  intro a reported
  have ascending : Ascending reported := b.ascending_canonical a
  have pushed (list : List Breakpoint) := pushed_decorate (b := b) (issued_made changes) list
  refine ⟨ascending, b.exists_mem_canonical_iff a, fun x mem => (b.mem_canonical_iff a).mp mem,
    fun list x => ?_, fun fits => ⟨_, rfl, ?_⟩, ?_, (pushed reported).verified,
    (pushed reported).pending, (pushed reported).checkDrift_eq⟩
  · intro after
    rw [(pushed list).canonical_eq, mem_ofList]
  · rw [readPayload, Breakpoint.decode?_list fits]
  · rw [(pushed reported).canonical_eq, ascending.ofList_eq]

/-- Two anchors come to be on one line, and one is removed. -/
def sharedLine : List Change :=
  [.create (.ofLine 5), .create (.ofLine 2), .create (.ofLine 6), .create (.ofLine 1),
    .deleteLines 5 1, .remove 4]

/-- Markers on these anchors, some of them not seen where they are. -/
def sharing : Breakpoints :=
  ⟨[⟨3, .ofLine 6, false, .verified⟩, ⟨1, .ofLine 5, true, .unverified⟩,
    ⟨2, .ofLine 2, true, .verified⟩, ⟨4, .ofLine 1, true, .verified⟩], none, true⟩

/-- On the shared line the first marker counts, and the report comes back as it was sent. -/
theorem report_settles_sharing :
    (∀ x ∈ sharing.canonical (made sharedLine), x.line < twoTo 32) ∧
      (∃ payload, (Event.updateBreakpoints [⟨2, true⟩, ⟨5, false⟩]).payload? = some payload ∧
        readPayload .breakpoints (Decoder.list Breakpoint.decoder) payload =
          .ok [⟨2, true⟩, ⟨5, false⟩]) ∧
      (sharing.decorate (made sharedLine) [⟨2, true⟩, ⟨5, false⟩]).1.pending = false := by
  have reported : sharing.canonical (made sharedLine) = [⟨2, true⟩, ⟨5, false⟩] := by
    rw [canonical_eq_ofList]
    decide +kernel
  have fits : ∀ x ∈ sharing.canonical (made sharedLine), x.line < twoTo 32 := by
    rw [reported]
    decide
  obtain ⟨-, -, -, -, read, -, -, settled, -⟩ := report_settles sharedLine sharing
  rw [reported] at read settled
  exact ⟨fits, read (reported ▸ fits), settled⟩

end Breakpoints

end StepScript
