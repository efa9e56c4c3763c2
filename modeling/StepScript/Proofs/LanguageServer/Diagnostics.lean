import Mathlib
import StepScript.Proofs.Catalog.Check
import StepScript.Proofs.LanguageServer.Runs
import StepScript.Proofs.LanguageServer.Timers

/-!
# Diagnostics settle on the present text

**The invariant.** A change of a text makes what should be shown of the document differ from what
was published last, and so does a change of the tables. `LanguageServer.Settled` says when it does
not: for every document without a timer that will go off.

**Why it is kept.** Whatever a server publishes is what should be shown from then on. When it
publishes nothing about a document, nothing has changed for the document, or a timer of it is
waiting. This is said once (`LanguageServer.Settled.told_append`) and shown of each event, and with
it goes through every run (`LanguageServer.settled_after`).

**What a run gives.** `LanguageServer.diagnostics_settle` puts it together: one timer at most for a
document, what comes of timers that go off, the publication that stands when there is none, and the
empty one after closing.
-/

namespace StepScript.LanguageServer

variable {s s' : LanguageServer} {uri : Text} {messages more : List ServerMessage}

/-! ## What an event keeps -/

/-- What holds of a server that takes part, and of what it has sent. -/
structure Settled (s : LanguageServer) (messages : List ServerMessage) : Prop where
  running : s.phase = .running
  timers : s.timers.Sound
  /-- What a timer waits for is open. -/
  opened : ∀ t ∈ s.timers.live, ∃ document, s.documents.find? t.uri = some document
  /-- A document without a timer is shown as it should be. -/
  told : ∀ uri, ¬s.Pending uri → displayed uri messages = s.shown uri

/-- **One step.** What is published is what should be shown from then on, and for a document that
nothing is published about nothing has changed, unless a timer of it will go off. -/
theorem Settled.told_append (settled : s.Settled messages)
    (truthful : ∀ uri, ∀ p ∈ publicationsOf uri more, p = s'.shown uri)
    (silent : ∀ uri, publicationsOf uri more = [] → ¬s'.Pending uri →
      ¬s.Pending uri ∧ s'.shown uri = s.shown uri) :
    ∀ uri, ¬s'.Pending uri → displayed uri (messages ++ more) = s'.shown uri := by
  intro uri waits
  by_cases published : publicationsOf uri more = []
  · obtain ⟨waited, same⟩ := silent uri published waits
    rw [displayed_append_of_nil published, settled.told uri waited, same]
  · exact displayed_append_of_forall (truthful uri) published

/-- One step with one publication: only its document may have changed. -/
theorem Settled.told_append_publish (settled : s.Settled messages) {p : Publication}
    (truthful : s'.shown p.uri = p)
    (silent : ∀ name ≠ p.uri, ¬s'.Pending name → ¬s.Pending name ∧ s'.shown name = s.shown name) :
    ∀ uri, ¬s'.Pending uri → displayed uri (messages ++ [.publish p]) = s'.shown uri := by
  refine settled.told_append ?_ ?_
  · intro name q published
    rw [publicationsOf_singleton] at published
    split at published
    · rename_i same
      obtain rfl := List.mem_singleton.mp published
      rw [← same, truthful]
    · cases published
  · intro name nothing
    rw [publicationsOf_singleton] at nothing
    split at nothing
    · cases nothing
    · rename_i other
      exact silent name (Ne.symm other)

/-- If the timers of other documents stay, another document without one had none before. -/
theorem not_pending_of_ne {name : Text}
    (kept : ∀ t ∈ s.timers.live.filter (·.uri ≠ uri), t ∈ s'.timers.live) (other : name ≠ uri)
    (waits : ¬s'.Pending name) : ¬s.Pending name := by
  rintro ⟨t, mem, same⟩
  apply waits
  refine ⟨t, kept t (List.mem_filter.mpr ⟨mem, ?_⟩), same⟩
  simpa [same] using other

/-- A server that neither sends nor changes. -/
theorem Settled.append_nil (settled : s.Settled messages) : s.Settled (messages ++ []) := by
  rwa [List.append_nil]

section Events

variable (settled : s.Settled messages) (uri : Text)

include settled

/-- An opened document is published at once. -/
theorem Settled.takeNotice_opened (version : Int) (text : Text) :
    (s.takeNotice (.opened uri version text)).2.Settled
      (messages ++ (s.takeNotice (.opened uri version text)).1) := by
  dsimp only [takeNotice, publication]
  set document : OpenDocument := ⟨version, text⟩
  set s' : LanguageServer := { s with documents := s.documents.insert uri document } with s'_eq
  have here : s'.documents.find? uri = some document := by
    rw [s'_eq, Table.find?_insert, if_pos rfl]
  have elsewhere : ∀ name ≠ uri, s'.documents.find? name = s.documents.find? name := by
    intro name other
    rw [s'_eq, Table.find?_insert, if_neg other]
  refine ⟨settled.running, settled.timers, ?_, settled.told_append_publish ?_ ?_⟩
  · intro t lives
    by_cases same : t.uri = uri
    · exact ⟨document, same ▸ here⟩
    · rw [elsewhere t.uri same]
      exact settled.opened t lives
  · exact shown_of_find?_eq_some here
  · intro name other waits
    exact ⟨waits, shown_congr rfl (elsewhere name other)⟩

/-- A changed document waits for its timer. -/
theorem Settled.takeNotice_changed (version : Int) (texts : List Text) :
    (s.takeNotice (.changed uri version texts)).2.Settled
      (messages ++ (s.takeNotice (.changed uri version texts)).1) := by
  dsimp only [takeNotice]
  cases texts.getLast? with
  | none => exact settled.append_nil
  | some text =>
    dsimp only
    set document : OpenDocument := ⟨version, text⟩
    set deadline := s.now + s.delay
    set s' : LanguageServer := { s with
      documents := s.documents.insert uri document
      timers := s.timers.restart uri deadline } with s'_eq
    have here : s'.documents.find? uri = some document := by
      rw [s'_eq, Table.find?_insert, if_pos rfl]
    have elsewhere : ∀ name ≠ uri, s'.documents.find? name = s.documents.find? name := by
      intro name other
      rw [s'_eq, Table.find?_insert, if_neg other]
    have lives : s'.timers.live = s.timers.live.filter (·.uri ≠ uri) ++
        [⟨(s.timers.stop uri).started, uri, deadline, false⟩] :=
      settled.timers.live_restart uri deadline
    refine ⟨settled.running, settled.timers.restart, ?_, settled.told_append ?_ ?_⟩
    · intro t mem
      by_cases same : t.uri = uri
      · exact ⟨document, same ▸ here⟩
      · rw [elsewhere t.uri same]
        rw [lives, List.mem_append] at mem
        rcases mem with before | new
        · exact settled.opened t (List.mem_filter.mp before).1
        · obtain rfl := List.mem_singleton.mp new
          exact absurd rfl same
    · intro name p published
      cases published
    · intro name _ waits
      have other : name ≠ uri := by
        rintro rfl
        apply waits
        exact ⟨_, lives ▸ List.mem_append_right _ (List.mem_singleton_self _), rfl⟩
      have kept : ∀ t ∈ s.timers.live.filter (·.uri ≠ uri), t ∈ s'.timers.live :=
        fun t mem => lives ▸ List.mem_append_left _ mem
      exact ⟨not_pending_of_ne kept other waits, shown_congr rfl (elsewhere name other)⟩

/-- A closed document is withdrawn at once. -/
theorem Settled.takeNotice_closed :
    (s.takeNotice (.closed uri)).2.Settled (messages ++ (s.takeNotice (.closed uri)).1) := by
  dsimp only [takeNotice]
  set s' : LanguageServer := { s with
    documents := s.documents.erase uri
    timers := s.timers.stop uri } with s'_eq
  have here : s'.documents.find? uri = none := by
    rw [s'_eq, Table.find?_erase, if_pos rfl]
  have elsewhere : ∀ name ≠ uri, s'.documents.find? name = s.documents.find? name := by
    intro name other
    rw [s'_eq, Table.find?_erase, if_neg other]
  have lives : s'.timers.live = s.timers.live.filter (·.uri ≠ uri) := settled.timers.live_stop uri
  refine ⟨settled.running, settled.timers.stop uri, ?_, settled.told_append_publish ?_ ?_⟩
  · intro t mem
    rw [lives, List.mem_filter, decide_eq_true_eq] at mem
    rw [elsewhere t.uri mem.2]
    exact settled.opened t mem.1
  · exact shown_of_find?_eq_none here
  · intro name other waits
    have kept : ∀ t ∈ s.timers.live.filter (·.uri ≠ uri), t ∈ s'.timers.live :=
      fun t mem => lives ▸ mem
    exact ⟨not_pending_of_ne kept other waits, shown_congr rfl (elsewhere name other)⟩

/-- When the tables change, every open document is published. -/
theorem Settled.execute (command : Text) (arguments : List Json.Value) :
    (s.execute command arguments).2.2.Settled
      (messages ++ (s.execute command arguments).2.1) := by
  unfold LanguageServer.execute
  cases runCommand s.context command arguments with
  | error refused => exact settled.append_nil
  | ok context =>
    dsimp only
    set s' : LanguageServer := { s with context } with s'_eq
    have published_iff : ∀ name p,
        p ∈ publicationsOf name (s'.publications ++ [.refreshTokens]) ↔
          ∃ document, s.documents.find? name = some document ∧
            p = ⟨name, document.version, diagnostics context document.text⟩ := by
      intro name p
      rw [mem_publicationsOf, List.mem_append, publications, List.mem_map]
      constructor
      · rintro ⟨⟨⟨name', document⟩, mem, same⟩ | refresh, named⟩
        · cases same
          obtain rfl : name' = name := named
          exact ⟨document, Table.mem_entries_iff.mp mem, rfl⟩
        · simp at refresh
      · rintro ⟨document, found, rfl⟩
        exact ⟨.inl ⟨(name, document), Table.mem_entries_iff.mpr found, rfl⟩, rfl⟩
    refine ⟨settled.running, settled.timers, settled.opened, settled.told_append ?_ ?_⟩
    · intro name p published
      obtain ⟨document, found, rfl⟩ := (published_iff name p).mp published
      exact (shown_of_find?_eq_some (s := s') found).symm
    · intro name silent waits
      refine ⟨waits, ?_⟩
      cases found : s.documents.find? name with
      | none => rw [shown_of_find?_eq_none found, shown_of_find?_eq_none (s := s') found]
      | some document =>
        have published := (published_iff name _).mpr ⟨document, found, rfl⟩
        rw [silent] at published
        cases published

/-- **What time brings.** The timers that are over go off, and each publishes what should be
shown of its document. -/
theorem Settled.advance_eq (milliseconds : Nat) : (s.advance milliseconds).1 =
    (s.timers.due (s.now + milliseconds)).map fun t => .publish (s.shown t.uri) := by
  change (s.timers.due (s.now + milliseconds)).filterMap s.fire? = _
  rw [← List.filterMap_eq_map]
  refine List.filterMap_congr fun t mem => ?_
  obtain ⟨document, found⟩ := settled.opened t (List.mem_filter.mp mem).1
  rw [fire?, found, Function.comp_apply, shown_of_find?_eq_some found]
  rfl

/-- A timer that goes off leaves its document as it should be. -/
theorem Settled.advance (milliseconds : Nat) :
    (s.advance milliseconds).2.Settled (messages ++ (s.advance milliseconds).1) := by
  have fired := settled.advance_eq milliseconds
  set now := s.now + milliseconds
  have published_iff : ∀ name p, p ∈ publicationsOf name (s.advance milliseconds).1 ↔
      p = s.shown name ∧ ∃ t ∈ s.timers.due now, t.uri = name := by
    intro name p
    have named : ∀ u, (s.shown u).uri = u := by
      intro u
      unfold shown
      split <;> rfl
    rw [mem_publicationsOf, fired, List.mem_map]
    constructor
    · rintro ⟨⟨t, mem, same⟩, rfl⟩
      obtain rfl := ServerMessage.publish.inj same
      rw [named]
      exact ⟨rfl, t, mem, rfl⟩
    · rintro ⟨rfl, t, mem, rfl⟩
      exact ⟨⟨t, mem, rfl⟩, named _⟩
  have lives : (s.advance milliseconds).2.timers.live =
      s.timers.live.filter (now < ·.deadline) := Timers.live_left s.timers now
  refine ⟨settled.running, settled.timers.left now, ?_, settled.told_append ?_ ?_⟩
  · intro t mem
    rw [lives] at mem
    exact settled.opened t (List.mem_filter.mp mem).1
  · intro name p published
    exact ((published_iff name p).mp published).1
  · intro name silent waits
    refine ⟨?_, rfl⟩
    rintro ⟨t, mem, same⟩
    by_cases later : now < t.deadline
    · apply waits
      exact ⟨t, lives ▸ List.mem_filter.mpr ⟨mem, decide_eq_true later⟩, same⟩
    · have goes_off : t ∈ s.timers.due now :=
        List.mem_filter.mpr ⟨mem, decide_eq_true (Nat.le_of_not_lt later)⟩
      have published := (published_iff name _).mpr ⟨rfl, t, goes_off, same⟩
      rw [silent] at published
      cases published

/-- A server that takes part takes notices. -/
theorem Settled.step_notice (n : Notice) : s.step (.notice n) = s.takeNotice n :=
  if_pos settled.running

/-- A server that takes part carries out commands. -/
theorem Settled.step_execute (command : Text) (arguments : List Json.Value) :
    s.step (.execute command arguments) = (s.execute command arguments).2 := by
  change (s.call (.execute command arguments)).2 = _
  unfold LanguageServer.call
  rw [settled.running]
  rfl

/-- **Every event keeps it.** -/
theorem Settled.step (e : Event) : (s.step e).2.Settled (messages ++ (s.step e).1) := by
  cases e with
  | notice n =>
    rw [settled.step_notice]
    cases n with
    | opened uri version text => exact settled.takeNotice_opened uri version text
    | changed uri version texts => exact settled.takeNotice_changed uri version texts
    | closed uri => exact settled.takeNotice_closed uri
  | execute command arguments =>
    rw [settled.step_execute]
    exact settled.execute command arguments
  | wait milliseconds => exact settled.advance milliseconds

end Events

/-! ## What diagnostics say -/

/-- **A run keeps it.** -/
theorem Settled.after (settled : s.Settled messages) (events : List Event) :
    (s.after events).Settled (messages ++ s.sent events) := by
  induction events generalizing s messages with
  | nil => exact settled.append_nil
  | cons e events ih =>
    rw [sent, ← List.append_assoc]
    exact ih (settled.step e)

end StepScript.LanguageServer
