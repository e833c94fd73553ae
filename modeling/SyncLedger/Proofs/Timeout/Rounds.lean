import SyncLedger.Proofs.Timeout.Polling
import SyncLedger.Proofs.Timeout.Timetable
import SyncLedger.Timeout.Run

/-!
# Rounds of a run that nobody interferes with

A round is a turn of the parties, one of the watchdogs, and the passing of time. What holds
before every round, and decides how things stand when there are no more, decides what comes
of a run (`proceed_of_rounds`).

A run that is neither closed nor given up keeps to a course: in every round the timers have
seen the events of its timetable up to now, and what is left of the timetable is what its
task still has to do.
-/

namespace SyncLedger

/-- A run that is neither closed nor given up, with what its task is going to do and what the
timers have seen before. -/
structure Course (σ : Type) where
  supervisor : Supervisor σ
  /-- The supervision when the run begins. -/
  state : Supervision σ
  task : List TaskStep
  /-- What the timers have seen before the run. -/
  past : List TimerEvent
  timers : state.timers = Timers.stopped.after past
  isOpen : state.closed = false
  called : state.called ≤ state.now
  /-- No step closes the supervisor or makes the watchdog miss polls. -/
  brisk : ∀ step ∈ task, step.isBrisk = true

/-- The clocks and the timers stand as before, and so does whether the supervisor is closed. -/
structure Supervision.Unmoved {σ : Type} (s t : Supervision σ) : Prop where
  closed : t.closed = s.closed
  called : t.called = s.called
  now : t.now = s.now
  timers : t.timers = s.timers

namespace Supervisor

variable {σ : Type}

/-- What holds before every round decides what holds in the end. -/
theorem proceed_of_rounds (sv : Supervisor σ) (before between after : Session σ → Prop)
    (turned : ∀ x, before x → (sv.turn x).isDone = true ∧ after (sv.turn x) ∨
      (sv.turn x).isDone = false ∧ between (sv.turn x))
    (passed : ∀ y z, between y → sv.pass? (sv.watchTurn y) = some z → before z)
    (stuck : ∀ y, between y → sv.pass? (sv.watchTurn y) = none →
      after (sv.watchTurn y).giveUp)
    (x : Session σ) (h : before x) : after (sv.proceed x) := by
  -- every round makes the session lighter
  induction hweight : x.weight using Nat.strongRecOn generalizing x with
  | ind weight ih =>
    subst hweight
    rw [proceed]
    rcases turned x h with ⟨hdone, hafter⟩ | ⟨hdone, hbetween⟩
    · simp only [hdone, if_true]
      exact hafter
    · simp only [hdone, Bool.false_eq_true, if_false]
      split
      · rename_i z hz
        exact ih _ (pass?_weight_lt hz) z (passed _ z hbetween hz) rfl
      · rename_i hnone
        exact stuck _ hbetween hnone

theorem turn_of_absent (sv : Supervisor σ) {x : Session σ} (h : x.closer = .absent) :
    sv.turn x = { sv.runTurn x with isCloserFirst := !x.isCloserFirst } := by
  have hidle : ∀ y : Session σ, y.closer = .absent → sv.closerTurn y = y := by
    intro y hy
    cases y
    subst hy
    rfl
  have hrun : (sv.runTurn x).closer = .absent := (sv.runTurn_runTurned x).closer.trans h
  rw [turn, hidle x h, hidle _ hrun, ite_self]

end Supervisor

namespace Course

variable {σ : Type}

/-- What the timers are going to see during the run. -/
def timetable (c : Course σ) : List TimerEvent := TaskStep.timetable c.state.now c.task

/-- When the task is through, if it is carried through. -/
def completion (c : Course σ) : Option Nat := TaskStep.completion c.state.now c.task

/-- What the timers have seen up to an instant during the run. -/
def eventsUntil (c : Course σ) (instant : Nat) : List TimerEvent :=
  c.past ++ c.timetable.filter (·.instant ≤ instant)

/-- How a run stands that keeps to its course. -/
structure Kept (c : Course σ) (x : Session σ) : Prop where
  outcome : x.outcome = none
  abandonAt : x.abandonAt = none
  closer : x.closer = .absent
  isOpen : x.state.closed = false
  called : x.state.called ≤ x.state.now
  brisk : x.task.Brisk x.state.now
  events : ∃ done, c.timetable = done ++ x.task.timetable x.state.now ∧
    (∀ e ∈ done, e.instant ≤ x.state.now) ∧ x.state.timers = Timers.stopped.after (c.past ++ done)
  completion : x.task.completion x.state.now = c.completion

variable {c : Course σ} {x : Session σ} {instant : Nat}

theorem filter_append_of_le {done rest : List TimerEvent}
    (hdone : ∀ e ∈ done, e.instant ≤ instant) (hrest : ∀ e ∈ rest, instant < e.instant) :
    (done ++ rest).filter (·.instant ≤ instant) = done := by
  have hnone : rest.filter (·.instant ≤ instant) = [] := by
    rw [List.filter_eq_nil_iff]
    intro e he
    simpa using hrest e he
  rw [List.filter_append, hnone, List.append_nil, List.filter_eq_self]
  intro e he
  simpa using hdone e he

/-- While the task waits, the timers do not change. -/
theorem Kept.timers_eq (h : c.Kept x) (hw : x.task.Waits x.state.called)
    (hnow : x.state.now ≤ instant) (hlt : ∀ l, x.task.target? = some l → instant < l) :
    x.state.timers = Timers.stopped.after (c.eventsUntil instant) := by
  obtain ⟨done, htimetable, hdone, htimers⟩ := h.events
  rw [htimers, eventsUntil, htimetable, filter_append_of_le]
  · intro e he
    exact Nat.le_trans (hdone e he) hnow
  · intro e he
    obtain ⟨l, hl, hle⟩ := hw.le_timetable he
    exact Nat.lt_of_lt_of_le (hlt l hl) hle

theorem Kept.lt_completion (h : c.Kept x) (hw : x.task.Waits x.state.called)
    (hlt : ∀ l, x.task.target? = some l → instant < l) :
    ∀ t, c.completion = some t → instant < t := by
  intro t ht
  obtain ⟨l, hl, hle⟩ := hw.le_completion (h.completion.trans ht)
  exact Nat.lt_of_lt_of_le (hlt l hl) hle

theorem Kept.completion_of_finished (h : c.Kept x) (hf : x.task = .finished) :
    c.completion = some x.state.now := by
  rw [← h.completion, hf]
  rfl

theorem Kept.timers_of_nil (h : c.Kept x) (hnil : x.task.timetable x.state.now = []) :
    x.state.timers = Timers.stopped.after (c.past ++ c.timetable) := by
  obtain ⟨done, htimetable, _, htimers⟩ := h.events
  rw [htimers, htimetable, hnil, List.append_nil]

theorem kept_openRun (c : Course σ) :
    c.Kept (Supervisor.openRun ⟨c.task, none, none⟩ c.state) := by
  refine ⟨rfl, rfl, rfl, c.isOpen, c.called, .ready _ c.brisk,
    ⟨[], rfl, List.forall_mem_nil _, ?_⟩, rfl⟩
  rw [List.append_nil]
  exact c.timers

/-- Whoever leaves the clocks and the timers alone keeps a run to its course. -/
theorem Kept.unmoved {s : Supervision σ} (h : c.Kept x) (hs : x.state.Unmoved s) :
    c.Kept { x with state := s } := by
  -- the goals are about the fields of `s`, which are those of the state before
  refine ⟨h.outcome, h.abandonAt, h.closer, hs.closed.trans h.isOpen, ?_, ?_, ?_, ?_⟩
  · change s.called ≤ s.now
    rw [hs.called, hs.now]
    exact h.called
  · change x.task.Brisk s.now
    rw [hs.now]
    exact h.brisk
  · change ∃ done, c.timetable = done ++ x.task.timetable s.now ∧
      (∀ e ∈ done, e.instant ≤ s.now) ∧ s.timers = _
    rw [hs.now, hs.timers]
    exact h.events
  · change x.task.completion s.now = _
    rw [hs.now]
    exact h.completion

/-- The clock goes on, but not beyond the instant that the task waits for. -/
theorem Kept.callAt (h : c.Kept x) (hw : x.task.Waits x.state.called)
    (hnow : x.state.now ≤ instant) (hle : ∀ l, x.task.target? = some l → instant ≤ l) :
    c.Kept { x with state := Supervisor.callAt instant x.state } := by
  have hsame := hw.later x.state.now instant
  obtain ⟨done, hevents, hdone, htimers⟩ := h.events
  refine ⟨h.outcome, h.abandonAt, h.closer, h.isOpen, ?_, hw.brisk h.brisk hle,
    ⟨done, ?_, ?_, htimers⟩, hsame.2.trans h.completion⟩
  · exact Nat.max_le.mpr ⟨Nat.le_trans h.called hnow, Nat.le_refl _⟩
  · exact hevents.trans (congrArg (done ++ ·) hsame.1.symm)
  · intro e he
    exact Nat.le_trans (hdone e he) hnow

/-- The task goes on; after it nothing is left to do now. -/
theorem Kept.goOn (sv : Supervisor σ) (h : c.Kept x) :
    c.Kept (sv.goOn x) ∧ ((sv.goOn x).task = .finished ∨
        (sv.goOn x).task.Waits (sv.goOn x).state.called) ∧
      ∃ timers, (sv.goOn x).state = { x.state with timers := timers } := by
  obtain ⟨hbrisk, ⟨events, hevents, hnow, hstate⟩, hcompletion, hrests⟩ :=
    sv.resume_went x.task x.state h.called h.brisk
  obtain ⟨done, htimetable, hdone, htimers⟩ := h.events
  have hgo : sv.goOn x =
      { x with
        task := (sv.resume x.task x.state).task
        trace := x.trace ++ (sv.resume x.task x.state).trace
        state := { x.state with timers := x.state.timers.after events } } := by
    rw [Supervisor.goOn, hstate]
  rw [hgo]
  refine ⟨⟨h.outcome, h.abandonAt, h.closer, h.isOpen, h.called, hbrisk,
    ⟨done ++ events, ?_, ?_, ?_⟩, hcompletion.trans h.completion⟩, hrests, _, rfl⟩
  · rw [List.append_assoc, ← hevents]
    exact htimetable
  · intro e he
    rcases List.mem_append.mp he with he | he
    · exact hdone e he
    · exact Nat.le_of_eq (hnow e he)
  · change x.state.timers.after events = _
    rw [htimers, ← Timers.after_append, List.append_assoc]

end Course

end SyncLedger
