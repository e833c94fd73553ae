import SyncLedger.Timeout.Session

/-!
# The weight of a session

A session comes to an end: with every turn it comes closer to the end of its task, of its
watchdogs, or of the waiting for one of finitely many instants. Its weight counts what is
left of these. The lemmas say for each single action that it does not add to the weight.
-/

namespace SyncLedger

variable {σ : Type}

/-! ## What is left to happen -/

/-- How many things can still happen to a watchdog. -/
def Watchdog.weight : Watchdog → Nat
  | .fresh => 3
  | .polling _ => 2
  | .ended _ => 1
  | .none => 0

/-- An instant that is still to come counts as one. -/
def instantWeight (instant called : Nat) : Nat := if instant ≤ called then 0 else 1

namespace Hold

/-- How many turns are needed at most until the waiting is over. -/
def weight (called : Nat) : Hold → Nat
  | .moment instant => instantWeight instant called
  | .turns count => count
  | .watchdogs | .forever => 0

end Hold

namespace TaskState

/-- A step that was not begun counts more than one that was. -/
def stepWeight : Nat := Supervisor.settlingTurns + 1

/-- What is left of a task. -/
def weight (called : Nat) : TaskState → Nat
  | .ready steps => stepWeight * steps.length
  | .holding hold steps => hold.weight called + stepWeight * steps.length
  | .finished => 0

end TaskState

/-- What is left of the work of a closer. -/
def Closer.weight (called : Nat) : Closer → Nat
  | .fresh _ => 3
  | .waiting instant => 1 + instantWeight instant called
  | .closing => 1
  | .absent | .done _ => 0

/-- What can still happen to the watchdogs; a task that stood back counts as one. -/
def Supervision.weight (s : Supervision σ) : Nat :=
  s.watchdog.weight + s.stopping.length + s.stoodBack.toNat

namespace Session

/-- The time at which a run is given up, as long as it is to come. -/
def abandonWeight (x : Session σ) : Nat :=
  match x.abandonAt with
  | some instant => instantWeight instant x.state.called
  | none => 0

/-- What is left of a session. -/
def weight (x : Session σ) : Nat :=
  x.task.weight x.state.called + x.closer.weight x.state.called + x.abandonWeight + x.state.weight

end Session

/-! ## Single actions -/

/-- What an action leaves alone that has nothing to do with the watchdogs. -/
structure SameWatch (s t : Supervision σ) : Prop where
  called : t.called = s.called
  stoodBack : t.stoodBack = s.stoodBack
  watchdog : t.watchdog = s.watchdog
  stopping : t.stopping = s.stopping

namespace SameWatch

theorem refl (s : Supervision σ) : SameWatch s s := ⟨rfl, rfl, rfl, rfl⟩

theorem setNow (s : Supervision σ) (now : Nat) : SameWatch s { s with now := now } :=
  ⟨rfl, rfl, rfl, rfl⟩

theorem hasLiveWatchdog {s t : Supervision σ} (h : SameWatch s t) :
    t.hasLiveWatchdog = s.hasLiveWatchdog := by
  simp [Supervision.hasLiveWatchdog, h.watchdog, h.stopping]

theorem weight {s t : Supervision σ} (h : SameWatch s t) : t.weight = s.weight := by
  simp [Supervision.weight, h.watchdog, h.stopping, h.stoodBack]

end SameWatch

/-- What a party leaves as it was, and what it uses up. -/
structure Acted (s t : Supervision σ) : Prop where
  called : t.called = s.called
  weight : t.weight ≤ s.weight
  alive : t.hasLiveWatchdog = s.hasLiveWatchdog

theorem SameWatch.acted {s t : Supervision σ} (h : SameWatch s t) : Acted s t :=
  ⟨h.called, Nat.le_of_eq h.weight, h.hasLiveWatchdog⟩

namespace Supervisor

theorem tellToStop_sameWatch (sv : Supervisor σ) (s : Supervision σ) :
    SameWatch s (sv.tellToStop s) := by
  unfold tellToStop
  split
  · exact .refl s
  · split <;> exact ⟨rfl, rfl, rfl, rfl⟩

theorem beginStep_sameWatch (sv : Supervisor σ) (step : TaskStep) (s : Supervision σ) :
    SameWatch s (sv.beginStep step s).2 := by
  cases step with
  | close => exact sv.tellToStop_sameWatch s
  | block millis => exact .setNow s (later s millis)
  | _ => exact ⟨rfl, rfl, rfl, rfl⟩

theorem weight_beginStep (sv : Supervisor σ) (step : TaskStep) (s : Supervision σ) (called : Nat) :
    (sv.beginStep step s).1.weight called < TaskState.stepWeight := by
  cases step with
  | close =>
    simp only [beginStep]
    split <;> simp [Hold.weight, TaskState.stepWeight]
  | sleep millis =>
    simp only [beginStep, Hold.weight, instantWeight]
    split <;> simp [TaskState.stepWeight, settlingTurns]
  | _ => simp [beginStep, Hold.weight, TaskState.stepWeight]

theorem wait_called (hold : Hold) (s : Supervision σ) : (hold.wait s).called = s.called := by
  cases hold <;> rfl

theorem wait_watchdog (hold : Hold) (s : Supervision σ) :
    (hold.wait s).watchdog = s.watchdog := by
  cases hold <;> rfl

theorem wait_hasLiveWatchdog (hold : Hold) (s : Supervision σ) :
    (hold.wait s).hasLiveWatchdog = s.hasLiveWatchdog := by
  cases hold <;> rfl

theorem weight_wait_le (hold : Hold) (s : Supervision σ) : (hold.wait s).weight ≤ s.weight + 1 := by
  cases hold with
  | turns count =>
    simp only [Supervision.weight, Hold.wait, Bool.toNat_true]
    omega
  | _ => exact Nat.le_succ _

/-- Whether waiting is over depends on who was called and on the watchdogs alone. -/
theorem isOver_congr {s t : Supervision σ} (h : t.called = s.called)
    (hl : t.hasLiveWatchdog = s.hasLiveWatchdog) (hold : Hold) :
    hold.isOver t = hold.isOver s := by
  cases hold <;> simp [Hold.isOver, h, hl]

theorem isOver_wait (hold hold' : Hold) (s : Supervision σ) :
    hold'.isOver (hold.wait s) = hold'.isOver s :=
  isOver_congr (wait_called hold s) (wait_hasLiveWatchdog hold s) hold'

/-- What a task does when it gets to run: it comes closer to its end, as far as it does
more than to wait, and what it waits for then is not there. -/
structure Advanced (task : TaskState) (s : Supervision σ) (p : TaskProgress σ) : Prop where
  called : p.state.called = s.called
  watchdog : p.state.watchdog = s.watchdog
  alive : p.state.hasLiveWatchdog = s.hasLiveWatchdog
  weight : p.task.weight s.called + p.state.weight ≤ task.weight s.called + s.weight
  waits : ∀ hold steps, p.task = .holding hold steps → hold.isOver p.state = false

theorem carryOn_advanced (sv : Supervisor σ) (steps : List TaskStep) (s : Supervision σ) :
    Advanced (.ready steps) s (sv.carryOn steps s) := by
  induction steps generalizing s with
  | nil =>
    exact ⟨rfl, rfl, rfl, Nat.le_refl _, by simp [carryOn]⟩
  | cons step steps ih =>
    have hs := sv.beginStep_sameWatch step s
    have hw := sv.weight_beginStep step s s.called
    unfold carryOn
    simp only
    split
    · have h := ih (sv.beginStep step s).2
      refine ⟨h.called.trans hs.called, h.watchdog.trans hs.watchdog,
        h.alive.trans hs.hasLiveWatchdog, ?_, h.waits⟩
      have := h.weight
      rw [hs.called, hs.weight] at this
      simp only [TaskState.weight, List.length_cons, Nat.mul_succ] at this ⊢
      omega
    · rename_i ho
      refine ⟨(wait_called _ _).trans hs.called, (wait_watchdog _ _).trans hs.watchdog,
        (wait_hasLiveWatchdog _ _).trans hs.hasLiveWatchdog, ?_, fun hold rest h => ?_⟩
      · have := weight_wait_le (sv.beginStep step s).1 (sv.beginStep step s).2
        rw [hs.weight] at this
        simp only [TaskState.weight, List.length_cons, Nat.mul_succ]
        omega
      · cases h
        rw [isOver_wait]
        simpa using ho

theorem resume_advanced (sv : Supervisor σ) (task : TaskState) (s : Supervision σ) :
    Advanced task s (sv.resume task s) := by
  unfold resume
  split
  · exact sv.carryOn_advanced _ s
  · rename_i hold steps
    split
    · have h := sv.carryOn_advanced steps s
      refine ⟨h.called, h.watchdog, h.alive, Nat.le_trans h.weight ?_, h.waits⟩
      simp only [TaskState.weight]
      omega
    · rename_i ho
      refine ⟨wait_called _ _, wait_watchdog _ _, wait_hasLiveWatchdog _ _, ?_,
        fun hold' rest h => ?_⟩
      · cases hold with
        | turns count =>
          simp only [Hold.next, Hold.isOver, decide_eq_true_eq] at ho
          have := weight_wait_le (.turns (count - 1)) s
          simp only [TaskState.weight, Hold.next, Hold.weight]
          omega
        | _ => exact Nat.le_refl _
      · cases h
        rw [isOver_wait]
        simpa using ho
  · exact ⟨rfl, rfl, rfl, Nat.le_refl _, by simp⟩

theorem length_dismissed_le (w : Watchdog) : (dismissed w).length ≤ w.weight := by
  cases w <;> simp [dismissed, Watchdog.weight]

theorem endRun_acted (s : Supervision σ) : Acted s (endRun s) := by
  refine ⟨rfl, ?_, ?_⟩
  · have := length_dismissed_le s.watchdog
    have hn : Watchdog.none.weight = 0 := rfl
    simp only [Supervision.weight, endRun, List.length_append, hn]
    omega
  · cases h : s.watchdog <;>
      simp [Supervision.hasLiveWatchdog, endRun, h, dismissed, Watchdog.isAlive]

theorem attend_acted (sv : Supervisor σ) (s : Supervision σ) : Acted s (sv.attend s).2 := by
  unfold attend
  split
  · rename_i h
    simp only
    split <;>
      exact ⟨rfl, by simp [Supervision.weight, Supervision.log, h, Watchdog.weight],
        by simp [Supervision.hasLiveWatchdog, Supervision.log, h, Watchdog.isAlive]⟩
  · rename_i h
    exact ⟨rfl, by simp [Supervision.weight, Supervision.log, h, Watchdog.weight],
      by simp [Supervision.hasLiveWatchdog, Supervision.log, h, Watchdog.isAlive]⟩
  · rename_i h
    exact ⟨rfl, by simp [Supervision.weight, Supervision.log, h, Watchdog.weight],
      by simp [Supervision.hasLiveWatchdog, Supervision.log, h, Watchdog.isAlive]⟩
  all_goals exact (SameWatch.refl s).acted

/-- After a run has taken notice there is no end of a watchdog to notice. -/
theorem hasEnded_attend (sv : Supervisor σ) (s : Supervision σ) :
    (sv.attend s).2.watchdog.hasEnded = false := by
  unfold attend
  split
  · simp only
    split <;> rfl
  · rfl
  · rfl
  all_goals simp [Watchdog.hasEnded, *]

end Supervisor

end SyncLedger
