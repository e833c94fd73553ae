import SyncLedger.Proofs.Timeout.Timetable

/-!
# How exact timers are

A timer cuts the instant at which its call began down to a whole millisecond, and keeps it in
one word of 64 bits, in which zero says that no call is timed. So what it reads is the time
since the call began, or up to a millisecond more, and a call that takes longer than the
timeout is never missed. `Timers.Exact` says what can be relied on after any events, as long as
the milliseconds fit into the word.
-/

namespace SyncLedger

namespace CallTimer

/-! ## The word of a timer -/

/-- The word in which a timer is kept: zero if it is stopped, and otherwise one more than the
millisecond in which its call began. -/
def word (t : CallTimer) : UInt64 := t.startedAt.elim 0 fun millis => .ofNat (millis + 1)

/-- The timer that is kept in a word. -/
def ofWord (w : UInt64) : CallTimer := ⟨if w = 0 then none else some (w.toNat - 1)⟩

theorem ofWord_word_stopped : ofWord stopped.word = stopped := rfl

/-- The last millisecond that a timer remembers leaves room for the mark of a stopped timer. -/
theorem ofWord_word_start (begun : Nat) : ofWord (start begun).word = start begun := by
  have hfits : min (begun / Duration.perMillisecond) lastMillisecond + 1 < UInt64.size := by
    have hlast : lastMillisecond + 1 < UInt64.size := by decide
    omega
  have hword : (start begun).word.toNat =
      min (begun / Duration.perMillisecond) lastMillisecond + 1 :=
    UInt64.toNat_ofNat_of_lt hfits
  have hne : (start begun).word ≠ 0 := by
    intro h
    rw [h] at hword
    exact absurd hword.symm (Nat.succ_ne_zero _)
  rw [ofWord, if_neg hne, hword, Nat.add_sub_cancel, start]

/-! ## The instant that a timer remembers -/

/-- Instants before this one are in a millisecond that a timer can remember. -/
def rememberable : Nat := (UInt64.size - 1) * Duration.perMillisecond

theorem remembered_le (begun : Nat) : remembered begun ≤ begun := by
  have hcut := Nat.div_mul_le_self begun Duration.perMillisecond
  have hleast := Nat.min_le_left (begun / Duration.perMillisecond) lastMillisecond
  exact Nat.le_trans (Nat.mul_le_mul_right _ hleast) hcut

theorem lt_remembered_add {begun : Nat} (h : begun < rememberable) :
    begun < remembered begun + Duration.perMillisecond := by
  have hlast : begun / Duration.perMillisecond ≤ lastMillisecond := by
    simp only [rememberable, lastMillisecond, UInt64.size, Duration.perMillisecond] at h ⊢
    omega
  rw [remembered, Nat.min_eq_left hlast]
  simp only [Duration.perMillisecond]
  omega

end CallTimer

/-! ## What timers tell -/

namespace Timers

variable {events : List TimerEvent} {call : DestinationCall} {now timeout begun : Nat}

/-- What the timers tell at an instant, after some events that came before it. -/
structure Exact (ts : Timers) (events : List TimerEvent) (timeout now : Nat) : Prop where
  /-- A timer can be read back from its word. -/
  kept : ∀ call, CallTimer.ofWord (ts.timer call).word = ts.timer call
  /-- A timer reads as stopped if its call never began or has returned, and only then. -/
  stopped : ∀ call, (ts.timer call).elapsed? now = none ↔
    events.filter (·.call = call) = [] ∨
      ∃ e, (events.filter (·.call = call)).getLast? = some e ∧ e.begins = false
  /-- Of a call that has not returned, the time since it last began is read, or up to a
  millisecond more. -/
  running : ∀ call e, (events.filter (·.call = call)).getLast? = some e → e.begins = true →
    ∃ elapsed, (ts.timer call).elapsed? now = some elapsed ∧ now ≤ e.instant + elapsed ∧
      e.instant + elapsed < now + Duration.perMillisecond
  /-- A call that takes longer than the timeout is found, unless the other one is found that
  is looked at first. -/
  found : ∀ call e, (events.filter (·.call = call)).getLast? = some e → e.begins = true →
    e.instant + timeout < now →
      ts.timedOut? timeout now = some call ∨ ts.timedOut? timeout now = some .accept
  /-- A call that is found has not returned, and takes longer than the timeout if it goes on
  for another millisecond. -/
  rightly : ∀ call, ts.timedOut? timeout now = some call →
    ∃ e, (events.filter (·.call = call)).getLast? = some e ∧ e.begins = true ∧
      e.instant + timeout < now + Duration.perMillisecond
  /-- Of two calls whose timers both read more than the timeout, the first one is found. -/
  first : ∀ elapsed, (ts.timer .accept).elapsed? now = some elapsed → timeout < elapsed →
    ts.timedOut? timeout now = some .accept
  /-- What a timer reads does not depend on the events of the other call. -/
  separate : ∀ call instant, (ts.timer call).elapsed? instant =
    ((Timers.stopped.after (events.filter (·.call = call))).timer call).elapsed? instant

theorem ofWord_word_after (events : List TimerEvent) (call : DestinationCall) :
    CallTimer.ofWord ((Timers.stopped.after events).timer call).word =
      (Timers.stopped.after events).timer call := by
  rw [timer_after]
  cases lastStart? call events with
  | none => exact CallTimer.ofWord_word_stopped
  | some begun =>
      rw [Option.elim_some]
      exact CallTimer.ofWord_word_start begun

theorem elapsed?_after (events : List TimerEvent) (call : DestinationCall) (now : Nat) :
    ((Timers.stopped.after events).timer call).elapsed? now =
      (lastStart? call events).map fun begun => now - CallTimer.remembered begun := by
  rw [timer_after]
  cases lastStart? call events with
  | none =>
      rw [Option.elim_none, Option.map_none]
      rfl
  | some begun =>
      rw [Option.elim_some, Option.map_some]
      exact CallTimer.elapsed?_start begun now

theorem lastStart?_filter (call : DestinationCall) (events : List TimerEvent) :
    lastStart? call (events.filter (·.call = call)) = lastStart? call events := by
  rw [lastStart?, lastStart?, List.filter_filter]
  simp only [Bool.and_self]

theorem lastStart?_eq_none_iff : lastStart? call events = none ↔
    events.filter (·.call = call) = [] ∨
      ∃ e, (events.filter (·.call = call)).getLast? = some e ∧ e.begins = false := by
  rw [lastStart?]
  cases hlast : (events.filter (·.call = call)).getLast? with
  | none => simp [List.getLast?_eq_none_iff.mp hlast]
  | some e =>
      have hne : events.filter (·.call = call) ≠ [] := by
        intro hnil
        rw [hnil] at hlast
        cases hlast
      simp [hne]

theorem lastStart?_eq_some_iff : lastStart? call events = some begun ↔
    ∃ e, (events.filter (·.call = call)).getLast? = some e ∧ e.begins = true ∧
      e.instant = begun := by
  rw [lastStart?, Option.bind_eq_some_iff]
  refine exists_congr fun e => and_congr_right fun _ => ?_
  cases e.begins <;> simp

/-- The first call that takes too long, in the order in which they are looked at. -/
theorem timedOut?_eq (ts : Timers) (timeout now : Nat) :
    ts.timedOut? timeout now =
      if ts.accept.isOver timeout now then some .accept
      else if ts.notifyEndOfInput.isOver timeout now then some .notifyEndOfInput else none := by
  rw [timedOut?, DestinationCall.all, List.find?_cons, List.find?_singleton]
  simp only [timer]
  cases ts.accept.isOver timeout now <;> rfl

theorem timedOut?_of_isOver {ts : Timers} (h : (ts.timer call).isOver timeout now = true) :
    ts.timedOut? timeout now = some call ∨ ts.timedOut? timeout now = some .accept := by
  rw [timedOut?_eq]
  cases call with
  | accept => exact .inl (if_pos h)
  | notifyEndOfInput =>
      change ts.notifyEndOfInput.isOver timeout now = true at h
      cases ts.accept.isOver timeout now with
      | true => exact .inr rfl
      | false => exact .inl (by simp [h])

theorem isOver_of_timedOut? {ts : Timers} (h : ts.timedOut? timeout now = some call) :
    (ts.timer call).isOver timeout now = true :=
  List.find?_some (p := fun call => (ts.timer call).isOver timeout now) h

/-- Whatever began and returned in whatever order, the timers are exact to a millisecond. -/
theorem exact_after (events : List TimerEvent) (timeout now : Nat)
    (hevents : ∀ e ∈ events, e.instant < CallTimer.rememberable ∧ e.instant ≤ now) :
    (Timers.stopped.after events).Exact events timeout now := by
  have hlast : ∀ {call e}, (events.filter (·.call = call)).getLast? = some e →
      CallTimer.remembered e.instant ≤ e.instant ∧
        e.instant < CallTimer.remembered e.instant + Duration.perMillisecond ∧
        e.instant ≤ now := by
    intro call e he
    obtain ⟨hsoon, hnow⟩ := hevents e (List.mem_filter.mp (List.mem_of_getLast? he) |>.1)
    exact ⟨CallTimer.remembered_le _, CallTimer.lt_remembered_add hsoon, hnow⟩
  refine {
    kept := ofWord_word_after events
    stopped := fun call => ?stopped
    running := fun call e he hbegins => ?running
    found := fun call e he hbegins hlong => ?found
    rightly := fun call hfound => ?rightly
    first := fun elapsed helapsed hlong => ?first
    separate := fun call instant => ?separate }
  case stopped => rw [elapsed?_after, Option.map_eq_none_iff, lastStart?_eq_none_iff]
  case running =>
    obtain ⟨hle, hlt, hnow⟩ := hlast he
    have hstart := lastStart?_eq_some_iff.mpr ⟨e, he, hbegins, rfl⟩
    refine ⟨now - CallTimer.remembered e.instant, ?_, by omega, by omega⟩
    rw [elapsed?_after, hstart, Option.map_some]
  case found =>
    obtain ⟨hle, -, -⟩ := hlast he
    have hstart := lastStart?_eq_some_iff.mpr ⟨e, he, hbegins, rfl⟩
    apply timedOut?_of_isOver
    rw [isOver_after, isOverdue, hstart, Option.any_some, decide_eq_true_iff]
    omega
  case rightly =>
    have hover := isOver_of_timedOut? hfound
    rw [isOver_after, isOverdue, Option.any_eq_true] at hover
    obtain ⟨begun, hstart, hlong⟩ := hover
    obtain ⟨e, he, hbegins, rfl⟩ := lastStart?_eq_some_iff.mp hstart
    obtain ⟨-, hlt, -⟩ := hlast he
    rw [decide_eq_true_iff] at hlong
    exact ⟨e, he, hbegins, by omega⟩
  case first =>
    have hover : ((Timers.stopped.after events).timer .accept).isOver timeout now = true := by
      rw [CallTimer.isOver, helapsed]
      exact decide_eq_true hlong
    rw [timedOut?_eq]
    exact if_pos hover
  case separate => rw [elapsed?_after, elapsed?_after, lastStart?_filter]

/-- A call that begins with the timers, one that begins again within a millisecond, and one that
returns. -/
theorem exact_after_restarted :
    let events : List TimerEvent :=
      [⟨0, .accept, true⟩, ⟨1500000, .notifyEndOfInput, true⟩,
        ⟨2300001, .notifyEndOfInput, true⟩, ⟨2300001, .accept, false⟩]
    (∀ e ∈ events, e.instant < CallTimer.rememberable ∧ e.instant ≤ 3300001) ∧
      (Timers.stopped.after events).Exact events 1000000 3300001 := by
  have hevents : ∀ e ∈ ([⟨0, .accept, true⟩, ⟨1500000, .notifyEndOfInput, true⟩,
      ⟨2300001, .notifyEndOfInput, true⟩, ⟨2300001, .accept, false⟩] : List TimerEvent),
      e.instant < CallTimer.rememberable ∧ e.instant ≤ 3300001 := by decide
  exact ⟨hevents, exact_after _ 1000000 3300001 hevents⟩

end Timers

end SyncLedger
