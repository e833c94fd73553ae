import Mathlib.Data.List.Induction
import SyncLedger.Timeout.Weight

/-!
# The timetable of a task

A task that neither closes the supervisor nor holds up the process fixes in advance what is
going to happen: which calls begin and return at which instants, and when the task is
through. The timers then know of a call what its last event says.
-/

namespace SyncLedger

/-- A call begins or returns at an instant. -/
structure TimerEvent where
  instant : Nat
  call : DestinationCall
  /-- The call begins. -/
  begins : Bool
deriving DecidableEq

/-! ## What timers know -/

/-- The instant that a timer remembers: the millisecond in which it was started, up to the
last one that it can remember. -/
def CallTimer.remembered (instant : Nat) : Nat :=
  min (instant / Duration.perMillisecond) lastMillisecond * Duration.perMillisecond

theorem CallTimer.remembered_of_dvd {instant : Nat} (h : Duration.perMillisecond ∣ instant)
    (hlast : instant / Duration.perMillisecond ≤ lastMillisecond) :
    remembered instant = instant := by
  rw [remembered, Nat.min_eq_left hlast, Nat.div_mul_cancel h]

theorem CallTimer.elapsed?_start (begun now : Nat) :
    (CallTimer.start begun).elapsed? now = some (now - remembered begun) := by
  rw [start, elapsed?, Option.map_some, remembered]

namespace Timers

/-- The timers after one more event. -/
def apply (ts : Timers) (e : TimerEvent) : Timers :=
  if e.begins then ts.start e.call e.instant else ts.reset e.call

def after (ts : Timers) (events : List TimerEvent) : Timers := events.foldl apply ts

theorem after_append (ts : Timers) (events later : List TimerEvent) :
    ts.after (events ++ later) = (ts.after events).after later :=
  List.foldl_append

theorem timer_apply (ts : Timers) (e : TimerEvent) (call : DestinationCall) :
    (ts.apply e).timer call =
      if e.call = call then (if e.begins then .start e.instant else .stopped)
      else ts.timer call := by
  cases hbegins : e.begins with
  | true => simp [apply, hbegins, start, timer_set, eq_comm]
  | false => simp [apply, hbegins, reset, timer_set, eq_comm]

end Timers

/-- When a call began that has not returned: its last event is a beginning. -/
def lastStart? (call : DestinationCall) (events : List TimerEvent) : Option Nat :=
  (events.filter (·.call = call)).getLast?.bind fun e => if e.begins then some e.instant else none

theorem lastStart?_append_singleton (call : DestinationCall) (events : List TimerEvent)
    (e : TimerEvent) :
    lastStart? call (events ++ [e]) =
      if e.call = call then (if e.begins then some e.instant else none)
      else lastStart? call events := by
  by_cases h : e.call = call
  · simp [lastStart?, h]
  · simp [lastStart?, h]

theorem Timers.timer_after (call : DestinationCall) (events : List TimerEvent) :
    (Timers.stopped.after events).timer call =
      (lastStart? call events).elim .stopped .start := by
  induction events using List.reverseRecOn with
  | nil => cases call <;> rfl
  | append_singleton events e ih =>
      have hstep : (Timers.stopped.after (events ++ [e])).timer call =
          ((Timers.stopped.after events).apply e).timer call := by
        rw [after_append]
        rfl
      rw [hstep, timer_apply, lastStart?_append_singleton, ih]
      split_ifs
      · rfl
      · rfl
      · rfl

/-- A call has not returned that began more than the timeout ago. -/
def isOverdue (timeout : Nat) (events : List TimerEvent) (call : DestinationCall)
    (now : Nat) : Bool :=
  (lastStart? call events).any fun begun => timeout < now - CallTimer.remembered begun

theorem Timers.isOver_after (timeout : Nat) (events : List TimerEvent) (call : DestinationCall)
    (now : Nat) :
    ((Timers.stopped.after events).timer call).isOver timeout now =
      isOverdue timeout events call now := by
  rw [timer_after, isOverdue]
  cases lastStart? call events with
  | none => rfl
  | some begun =>
      rw [Option.elim_some, CallTimer.isOver, CallTimer.elapsed?_start, Option.any_some]

/-! ## What a task is going to do -/

namespace TaskStep

/-- The step leaves the supervisor and the process alone. -/
def isBrisk : TaskStep → Bool
  | .start _ | .reset _ | .sleep _ | .pending => true
  | .block _ | .close => false

/-- The events to come when steps are begun at an instant. -/
def timetable (now : Nat) : List TaskStep → List TimerEvent
  | [] => []
  | .start call :: steps => ⟨now, call, true⟩ :: timetable now steps
  | .reset call :: steps => ⟨now, call, false⟩ :: timetable now steps
  | .sleep millis :: steps => timetable (now + millis * Duration.perMillisecond) steps
  | .pending :: _ => []
  | .block _ :: steps | .close :: steps => timetable now steps

/-- When steps are done that are begun at an instant. -/
def completion (now : Nat) : List TaskStep → Option Nat
  | [] => some now
  | .sleep millis :: steps => completion (now + millis * Duration.perMillisecond) steps
  | .pending :: _ => none
  | .start _ :: steps | .reset _ :: steps | .block _ :: steps | .close :: steps =>
      completion now steps

theorem le_timetable {now : Nat} {steps : List TaskStep} {e : TimerEvent}
    (h : e ∈ timetable now steps) : now ≤ e.instant := by
  fun_induction timetable now steps with
  | case1 => cases h
  | case2 now call steps ih | case3 now call steps ih =>
      rcases List.mem_cons.mp h with rfl | h
      · exact Nat.le_refl _
      · exact ih h
  | case4 now millis steps ih => exact Nat.le_trans (Nat.le_add_right _ _) (ih h)
  | case5 => cases h
  | case6 now millis steps ih | case7 now steps ih => exact ih h

theorem le_completion {now : Nat} {steps : List TaskStep} {t : Nat}
    (h : completion now steps = some t) : now ≤ t := by
  fun_induction completion now steps with
  | case1 now => exact Nat.le_of_eq (Option.some.inj h)
  | case2 now millis steps ih => exact Nat.le_trans (Nat.le_add_right _ _) (ih h)
  | case3 => cases h
  | case4 now call steps ih | case5 now call steps ih | case6 now millis steps ih
  | case7 now steps ih => exact ih h

end TaskStep

namespace TaskState

/-- The events to come when the task goes on at an instant. -/
def timetable (now : Nat) : TaskState → List TimerEvent
  | .ready steps => TaskStep.timetable now steps
  | .holding (.moment instant) steps => TaskStep.timetable instant steps
  | .holding (.turns _) steps | .holding .watchdogs steps => TaskStep.timetable now steps
  | .holding .forever _ | .finished => []

/-- When a task is through that goes on at an instant. -/
def completion (now : Nat) : TaskState → Option Nat
  | .ready steps => TaskStep.completion now steps
  | .holding (.moment instant) steps => TaskStep.completion instant steps
  | .holding (.turns _) steps | .holding .watchdogs steps => TaskStep.completion now steps
  | .holding .forever _ => none
  | .finished => some now

/-- The task leaves the supervisor and the process alone, and has not missed an instant. -/
inductive Brisk (now : Nat) : TaskState → Prop where
  | ready (steps : List TaskStep) (h : ∀ step ∈ steps, step.isBrisk = true) :
      Brisk now (.ready steps)
  | moment (instant : Nat) (steps : List TaskStep) (hnow : now ≤ instant)
      (h : ∀ step ∈ steps, step.isBrisk = true) : Brisk now (.holding (.moment instant) steps)
  | forever (steps : List TaskStep) : Brisk now (.holding .forever steps)
  | finished : Brisk now .finished

/-- The task waits for an instant to come for which nobody was called yet, or for ever. -/
inductive Waits (called : Nat) : TaskState → Prop where
  | moment (instant : Nat) (steps : List TaskStep) (h : called < instant) :
      Waits called (.holding (.moment instant) steps)
  | forever (steps : List TaskStep) : Waits called (.holding .forever steps)

variable {task : TaskState} {called now : Nat}

/-- The clock makes no difference to a task that waits, up to the end of its waiting. -/
theorem Waits.later (h : task.Waits called) (now later : Nat) :
    task.timetable later = task.timetable now ∧ task.completion later = task.completion now := by
  cases h with
  | moment instant steps _ => exact ⟨rfl, rfl⟩
  | forever steps => exact ⟨rfl, rfl⟩

theorem Waits.brisk (h : task.Waits called) (hbrisk : task.Brisk now) {later : Nat}
    (hle : ∀ instant, task.target? = some instant → later ≤ instant) : task.Brisk later := by
  cases hbrisk with
  | ready steps _ => cases h
  | moment instant steps _ hsteps => exact .moment instant steps (hle instant rfl) hsteps
  | forever steps => exact .forever steps
  | finished => cases h

theorem Waits.lt_target (h : task.Waits called) {instant : Nat}
    (htarget : task.target? = some instant) : called < instant := by
  cases h with
  | moment i steps hlt =>
      obtain rfl : i = instant := Option.some.inj htarget
      exact hlt
  | forever steps => cases htarget

theorem Brisk.le_target (h : task.Brisk now) {instant : Nat}
    (htarget : task.target? = some instant) : now ≤ instant := by
  cases h with
  | ready steps _ => cases htarget
  | moment i steps hle _ =>
      obtain rfl : i = instant := Option.some.inj htarget
      exact hle
  | forever steps => cases htarget
  | finished => cases htarget

/-- Without an instant to wait for the task is never going to do anything. -/
theorem Waits.never (h : task.Waits called) (htarget : task.target? = none) (now : Nat) :
    task.timetable now = [] ∧ task.completion now = none := by
  cases h with
  | moment instant steps _ => cases htarget
  | forever steps => exact ⟨rfl, rfl⟩

/-- Nothing happens to the timers before the instant that the task waits for. -/
theorem Waits.le_timetable (h : task.Waits called) {e : TimerEvent}
    (he : e ∈ task.timetable now) : ∃ instant, task.target? = some instant ∧
      instant ≤ e.instant := by
  cases h with
  | moment instant steps _ => exact ⟨instant, rfl, TaskStep.le_timetable he⟩
  | forever steps => cases he

theorem Waits.le_completion (h : task.Waits called) {t : Nat}
    (ht : task.completion now = some t) : ∃ instant, task.target? = some instant ∧
      instant ≤ t := by
  cases h with
  | moment instant steps _ => exact ⟨instant, rfl, TaskStep.le_completion ht⟩
  | forever steps => cases ht

end TaskState

/-! ## What a task does -/

namespace Supervisor

variable {σ : Type}

/-- What a task does that gets to run: the first events of its timetable, all of them now,
until it is through or has to wait. -/
structure Went (task : TaskState) (s : Supervision σ) (next : TaskState)
    (t : Supervision σ) : Prop where
  brisk : next.Brisk s.now
  events : ∃ events, task.timetable s.now = events ++ next.timetable s.now ∧
    (∀ e ∈ events, e.instant = s.now) ∧ t = { s with timers := s.timers.after events }
  completion : next.completion s.now = task.completion s.now
  rests : next = .finished ∨ next.Waits s.called

theorem Went.cons {e : TimerEvent} {steps : List TaskStep} {task next : TaskState}
    {s t : Supervision σ} (he : e.instant = s.now)
    (ht : task.timetable s.now = e :: TaskStep.timetable s.now steps)
    (hc : task.completion s.now = TaskStep.completion s.now steps)
    (h : Went (.ready steps) { s with timers := s.timers.apply e } next t) :
    Went task s next t := by
  obtain ⟨hbrisk, ⟨events, hevents, hnow, hstate⟩, hcompletion, hrests⟩ := h
  refine ⟨hbrisk, ⟨e :: events, ?_, ?_, hstate⟩, hcompletion.trans hc.symm, hrests⟩
  · rw [ht, List.cons_append]
    exact congrArg (e :: ·) hevents
  · intro e' he'
    rcases List.mem_cons.mp he' with rfl | he'
    · exact he
    · exact hnow e' he'

theorem Went.of_waits {task next : TaskState} {s : Supervision σ} (hbrisk : next.Brisk s.now)
    (ht : next.timetable s.now = task.timetable s.now)
    (hc : next.completion s.now = task.completion s.now) (hw : next.Waits s.called) :
    Went task s next s :=
  ⟨hbrisk, ⟨[], ht.symm, List.forall_mem_nil _, rfl⟩, hc, .inr hw⟩

theorem carryOn_went (sv : Supervisor σ) (steps : List TaskStep) (s : Supervision σ)
    (hcalled : s.called ≤ s.now) (hsteps : ∀ step ∈ steps, step.isBrisk = true) :
    Went (.ready steps) s (sv.carryOn steps s).task (sv.carryOn steps s).state := by
  induction steps generalizing s with
  | nil => exact ⟨.finished, ⟨[], rfl, List.forall_mem_nil _, rfl⟩, rfl, .inl rfl⟩
  | cons step steps ih =>
      have hrest : ∀ step ∈ steps, step.isBrisk = true := fun step h =>
        hsteps step (List.mem_cons_of_mem _ h)
      cases step with
      | start call =>
          have h := ih { s with timers := s.timers.start call s.now } hcalled hrest
          exact h.cons (e := ⟨s.now, call, true⟩) rfl rfl rfl
      | reset call =>
          have h := ih { s with timers := s.timers.reset call } hcalled hrest
          exact h.cons (e := ⟨s.now, call, false⟩) rfl rfl rfl
      | sleep millis =>
          by_cases hover : later s millis ≤ s.called
          · -- nobody is called for later than now, so that there is nothing to sleep
            have hnow : s.now + millis * Duration.perMillisecond = s.now := by
              rw [later] at hover
              omega
            have h := ih s hcalled hrest
            simp only [carryOn, beginStep, Hold.isOver, hover, decide_true, if_true]
            refine ⟨h.brisk, ?_, ?_, h.rests⟩
            · rw [TaskState.timetable, TaskStep.timetable, hnow]
              exact h.events
            · rw [TaskState.completion, TaskStep.completion, hnow]
              exact h.completion
          · simp only [carryOn, beginStep, Hold.isOver, hover, decide_false]
            exact .of_waits (.moment _ _ (Nat.le_add_right _ _) hrest) rfl rfl
              (.moment _ _ (Nat.lt_of_not_le hover))
      | pending => exact .of_waits (.forever _) rfl rfl (.forever _)
      | block millis => cases hsteps _ List.mem_cons_self
      | close => cases hsteps _ List.mem_cons_self

theorem resume_went (sv : Supervisor σ) (task : TaskState) (s : Supervision σ)
    (hcalled : s.called ≤ s.now) (hbrisk : task.Brisk s.now) :
    Went task s (sv.resume task s).task (sv.resume task s).state := by
  cases hbrisk with
  | ready steps h => exact sv.carryOn_went steps s hcalled h
  | moment instant steps hnow h =>
      by_cases hover : instant ≤ s.called
      · obtain rfl : instant = s.now := Nat.le_antisymm (Nat.le_trans hover hcalled) hnow
        have hwent := sv.carryOn_went steps s hcalled h
        simp only [resume, Hold.next, Hold.isOver, hover, decide_true, if_true]
        exact ⟨hwent.brisk, hwent.events, hwent.completion, hwent.rests⟩
      · simp only [resume, Hold.next, Hold.isOver, hover, decide_false]
        exact .of_waits (.moment _ _ hnow h) rfl rfl (.moment _ _ (Nat.lt_of_not_le hover))
  | forever steps => exact .of_waits (.forever _) rfl rfl (.forever _)
  | finished => exact ⟨.finished, ⟨[], rfl, List.forall_mem_nil _, rfl⟩, rfl, .inl rfl⟩

end Supervisor

end SyncLedger
