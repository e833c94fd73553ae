import SyncLedger.Proofs.Settings.Span
import SyncLedger.Proofs.Timeout.Accuracy
import SyncLedger.Proofs.Timeout.Closing

/-!
# Watchdogs that fail

A watchdog fails when its first poll would be due at an instant beyond the clock. Nothing else
makes it fail: its period is never zero, and the instants that the timers remember are far from
the end of the clock (`Timers.Fits`). The run notes in its log that its watchdog has failed,
unless its task is through by then.

Once a watchdog has begun in order nothing fails any more (`Supervision.Steady`), so the log of
a run is decided by its first two turns (`Supervisor.failures_run`).
-/

namespace SyncLedger

variable {σ : Type}

/-- An instant is on the clock. -/
def OnClock (instant : Nat) : Prop := instant / Duration.perSecond < Supervisor.clockLimit

instance (instant : Nat) : Decidable (OnClock instant) :=
  inferInstanceAs (Decidable (instant / Duration.perSecond < Supervisor.clockLimit))

namespace Timers

/-- The timers remember milliseconds that fit into their words. -/
def Fits (ts : Timers) : Prop :=
  ∀ call millis, (ts.timer call).startedAt = some millis → millis ≤ CallTimer.lastMillisecond

theorem fits_stopped : stopped.Fits := by
  intro call millis h
  cases call <;> cases h

theorem Fits.set {ts : Timers} (h : ts.Fits) {t : CallTimer}
    (ht : ∀ millis, t.startedAt = some millis → millis ≤ CallTimer.lastMillisecond)
    (call : DestinationCall) : (ts.set call t).Fits := by
  intro other millis hmillis
  rw [timer_set] at hmillis
  split_ifs at hmillis
  · exact ht millis hmillis
  · exact h other millis hmillis

theorem Fits.start {ts : Timers} (h : ts.Fits) (call : DestinationCall) (now : Nat) :
    (ts.start call now).Fits := by
  refine h.set (fun millis hmillis => ?_) call
  cases hmillis
  exact Nat.min_le_right _ _

theorem Fits.reset {ts : Timers} (h : ts.Fits) (call : DestinationCall) : (ts.reset call).Fits :=
  h.set (fun millis hmillis => by cases hmillis) call

/-- The instant that a timer remembers can be computed. -/
theorem Fits.onClock {ts : Timers} (h : ts.Fits) {call : DestinationCall} {millis : Nat}
    (hmillis : (ts.timer call).startedAt = some millis) :
    OnClock (millis * Duration.perMillisecond) := by
  have hle := h call millis hmillis
  have hlast : CallTimer.lastMillisecond = 0xfffffffffffffffe := rfl
  simp only [OnClock, Duration.perMillisecond, Duration.perSecond, Supervisor.clockLimit]
  omega

end Timers

/-! ## Failures in the log -/

namespace Supervision

variable {s t u : Supervision σ}

/-- How often a run has noted that its watchdog failed. -/
def failures (s : Supervision σ) : Nat := s.events.count Supervisor.failure

theorem failures_append (es : List LogEvent) (h : t.events = s.events ++ es)
    (hes : ∀ e ∈ es, e.message ≠ Supervisor.failure.message) : t.failures = s.failures := by
  have hnone : es.count Supervisor.failure = 0 :=
    List.count_eq_zero.mpr fun hmem => hes _ hmem rfl
  rw [failures, h, List.count_append, hnone]
  rfl

theorem failures_log (s : Supervision σ) {e : LogEvent}
    (h : e.message ≠ Supervisor.failure.message) : (s.log e).failures = s.failures :=
  failures_append [e] rfl (List.forall_mem_singleton.mpr h)

/-- The watchdog of the run, if there is one, has begun, and it has not failed. -/
def Sound (s : Supervision σ) : Prop := s.watchdog ≠ .fresh ∧ s.watchdog ≠ .ended .failed

theorem sound_of_none (h : s.watchdog = .none) : s.Sound := by
  simp [Sound, h]

/-- The watchdog of the run is left alone, and nothing is said about it. -/
structure Calm (s t : Supervision σ) : Prop where
  watchdog : t.watchdog = s.watchdog
  failures : t.failures = s.failures
  fits : s.timers.Fits → t.timers.Fits

/-- A watchdog that has begun goes on without failing. -/
structure Steady (s t : Supervision σ) : Prop where
  sound : s.Sound → t.Sound
  failures : s.Sound → t.failures = s.failures
  fits : s.timers.Fits → t.timers.Fits

theorem Calm.refl (s : Supervision σ) : Calm s s := ⟨rfl, rfl, id⟩

theorem Calm.setNow (s : Supervision σ) (now : Nat) : Calm s { s with now := now } :=
  ⟨rfl, rfl, id⟩

theorem Calm.trans (h : Calm s t) (h' : Calm t u) : Calm s u :=
  ⟨h'.watchdog.trans h.watchdog, h'.failures.trans h.failures, fun hs => h'.fits (h.fits hs)⟩

theorem Calm.steady (h : Calm s t) : Steady s t := by
  refine ⟨fun hs => ?_, fun _ => h.failures, h.fits⟩
  rw [Sound, h.watchdog]
  exact hs

theorem Steady.refl (s : Supervision σ) : Steady s s := (Calm.refl s).steady

theorem Steady.trans (h : Steady s t) (h' : Steady t u) : Steady s u :=
  ⟨fun hs => h'.sound (h.sound hs),
    fun hs => (h'.failures (h.sound hs)).trans (h.failures hs), fun hs => h'.fits (h.fits hs)⟩

end Supervision

namespace Supervisor

variable {sv : Supervisor σ} {s : Supervision σ} {x y z : Session σ} {plan : RunPlan}

/-! ## Single actions -/

theorem firstPoll?_eq_none_iff (sv : Supervisor σ) (now : Nat) :
    sv.firstPoll? now = none ↔ ¬OnClock (now + sv.settings.period) := by
  unfold firstPoll? OnClock
  split <;> simp_all

theorem calm_tellToStop (sv : Supervisor σ) (s : Supervision σ) : s.Calm (sv.tellToStop s) := by
  unfold tellToStop
  split
  · exact .refl s
  · split
    · refine ⟨rfl, Supervision.failures_log s ?_, id⟩
      simp [impatient, failure]
    · exact ⟨rfl, rfl, id⟩

theorem calm_beginStep (sv : Supervisor σ) (step : TaskStep) (s : Supervision σ) :
    s.Calm (sv.beginStep step s).2 := by
  cases step with
  | start call => exact ⟨rfl, rfl, fun h => h.start call s.now⟩
  | reset call => exact ⟨rfl, rfl, fun h => h.reset call⟩
  | close => exact sv.calm_tellToStop s
  | block millis => exact .setNow s (later s millis)
  | _ => exact ⟨rfl, rfl, id⟩

theorem calm_wait (hold : Hold) (s : Supervision σ) : s.Calm (hold.wait s) := by
  cases hold <;> exact ⟨rfl, rfl, id⟩

theorem calm_carryOn (sv : Supervisor σ) (steps : List TaskStep) (s : Supervision σ) :
    s.Calm (sv.carryOn steps s).state := by
  induction steps generalizing s with
  | nil => exact .refl s
  | cons step steps ih =>
      have hbegun := sv.calm_beginStep step s
      simp only [carryOn]
      split
      · exact hbegun.trans (ih _)
      · exact hbegun.trans (calm_wait _ _)

theorem calm_goOn (sv : Supervisor σ) (x : Session σ) : x.state.Calm (sv.goOn x).state := by
  simp only [goOn, resume]
  split
  · exact sv.calm_carryOn _ x.state
  · split
    · exact sv.calm_carryOn _ x.state
    · exact calm_wait _ x.state
  · exact .refl x.state

theorem calm_closerTurn (sv : Supervisor σ) (x : Session σ) :
    x.state.Calm (sv.closerTurn x).state := by
  have hcloseAt : ∀ instant, x.state.Calm (sv.closeAt instant x.state).2 := by
    intro instant
    unfold closeAt
    split
    · exact sv.calm_tellToStop x.state
    · exact .refl x.state
  unfold closerTurn
  cases x.closer with
  | fresh delay => exact hcloseAt _
  | waiting instant => exact hcloseAt instant
  | _ => exact .refl x.state

theorem calm_callTurn (instant : Nat) (x : Session σ) : x.state.Calm (callTurn instant x).state :=
  ⟨rfl, rfl, id⟩

theorem sound_endRun (s : Supervision σ) : (endRun s).Sound := Supervision.sound_of_none rfl

theorem steady_finish (x : Session σ) (result : Except Interruption Unit) :
    x.state.Steady (x.finish result).state :=
  ⟨fun _ => sound_endRun x.state, fun _ => rfl, id⟩

theorem steady_settle (x : Session σ) : x.state.Steady x.settle.state := by
  unfold Session.settle
  split
  · exact steady_finish x _
  · split
    · exact steady_finish x _
    · exact .refl x.state

theorem failures_expire (sv : Supervisor σ) (call : DestinationCall) (s : Supervision σ) :
    (sv.expire call s).failures = s.failures := by
  refine Supervision.failures_append [sv.overdue call] ?_ ?_
  · unfold expire
    by_cases h : sv.metered = true <;> cases call <;> simp only [h, if_true] <;> rfl
  · simp [overdue, failure]

theorem failures_watch (sv : Supervisor σ) (s : Supervision σ) :
    (sv.watch s).failures = s.failures := by
  have hstopping : (sv.endStopping s).failures = s.failures := by
    refine Supervision.failures_append (s.stopping.flatMap (sv.farewell s.now)) rfl ?_
    intro e he
    obtain ⟨w, -, hw⟩ := List.mem_flatMap.mp he
    unfold farewell at hw
    split at hw
    · cases hw
    · obtain rfl := List.mem_singleton.mp hw
      decide
  have hhalt : (halt (sv.endStopping s)).failures = s.failures :=
    (Supervision.failures_log _ (by decide)).trans hstopping
  unfold watch rouse
  split
  · split
    · exact hstopping
    · split
      · exact hhalt
      · exact hstopping
  · split
    · exact hhalt
    · split
      · exact (sv.failures_expire _ _).trans hstopping
      · exact hstopping
  · exact hstopping
  · exact hstopping

theorem sound_expire (sv : Supervisor σ) (call : DestinationCall) (s : Supervision σ) :
    (sv.expire call s).Sound := by
  simp [Supervision.Sound, (sv.expire_eq call s).2.2.2]

theorem sound_watch (sv : Supervisor σ) (h : s.Sound) : (sv.watch s).Sound := by
  have hstopping : (sv.endStopping s).Sound := h
  unfold watch rouse
  split
  · rename_i hw
    exact absurd hw hstopping.1
  · split
    · simp [Supervision.Sound, halt]
    · split
      · exact sv.sound_expire _ _
      · simp [Supervision.Sound]
  · exact hstopping
  · exact hstopping

/-- A watchdog begins in order if its first poll is on the clock, and fails otherwise. -/
theorem watch_of_fresh (sv : Supervisor σ) (h : s.watchdog = .fresh) :
    OnClock (s.now + sv.settings.period) ∧ (sv.watch s).Sound ∨
      ¬OnClock (s.now + sv.settings.period) ∧ (sv.watch s).watchdog = .ended .failed := by
  have hw : (sv.endStopping s).watchdog = .fresh := h
  have hnow : (sv.endStopping s).now = s.now := rfl
  rw [watch, rouse, hw]
  simp only [hnow]
  by_cases hclock : OnClock (s.now + sv.settings.period)
  · left
    cases hfirst : sv.firstPoll? s.now with
    | none => exact absurd hclock ((sv.firstPoll?_eq_none_iff s.now).mp hfirst)
    | some due =>
        refine ⟨hclock, ?_⟩
        simp only
        split <;> simp [Supervision.Sound, halt]
  · right
    rw [(sv.firstPoll?_eq_none_iff s.now).mpr hclock]
    exact ⟨hclock, rfl⟩

theorem steady_watch (sv : Supervisor σ) (s : Supervision σ) : s.Steady (sv.watch s) :=
  ⟨sv.sound_watch, fun _ => sv.failures_watch s, fun h => (Course.unmoved_watch sv s).timers ▸ h⟩

theorem steady_poll (sv : Supervisor σ) (limit : Option Nat) (s : Supervision σ) :
    s.Steady (sv.poll limit s) := by
  unfold poll
  split
  · split
    · rename_i call instant _
      have htimers := (Course.unmoved_expire sv call (callAt instant s)).timers
      exact ⟨fun _ => sv.sound_expire call _, fun _ => sv.failures_expire call _,
        fun h => htimers ▸ h⟩
    · exact ⟨fun _ => by simp [Supervision.Sound], fun _ => rfl, id⟩
  all_goals exact .refl s

theorem steady_pass? (hz : sv.pass? x = some z) : x.state.Steady z.state := by
  have hpoll : x.state.Steady (sv.pollTurn x).state := sv.steady_poll x.nextInstant? x.state
  unfold pass? at hz
  split at hz
  · cases hz
    exact (calm_callTurn _ x).steady
  · simp only at hz
    split at hz
    · cases hz
      exact hpoll
    · obtain ⟨instant, -, rfl⟩ := Option.map_eq_some_iff.mp hz
      exact hpoll.trans (calm_callTurn instant _).steady

theorem steady_giveUp (x : Session σ) : x.state.Steady x.giveUp.state := by
  unfold Session.giveUp
  split
  · exact .refl x.state
  · exact steady_finish x _

/-! ## Taking notice -/

/-- Only here a failure is noted; after it no watchdog is left to fail. -/
theorem attend_of_failed (sv : Supervisor σ) (h : s.watchdog = .ended .failed) :
    (sv.attend s).1 = none ∧ (sv.attend s).2.failures = s.failures + 1 ∧
      (sv.attend s).2.watchdog = .none := by
  rw [attend, h]
  refine ⟨rfl, ?_, rfl⟩
  change (s.events ++ [failure]).count failure = _
  rw [List.count_append, List.count_singleton_self]
  rfl

theorem steady_attend (sv : Supervisor σ) (s : Supervision σ) : s.Steady (sv.attend s).2 := by
  refine ⟨fun h => ?_, fun h => ?_, fun h => (Course.unmoved_attend sv s).timers ▸ h⟩
  · unfold attend
    split
    · simp only
      split <;> exact Supervision.sound_of_none rfl
    · exact Supervision.sound_of_none rfl
    · exact Supervision.sound_of_none rfl
    all_goals exact h
  · unfold attend
    split
    · have hreport : ∀ e ∈ (sv.client.evaluateOrDefault .failSyncOnDestinationTimeout sv.context
          s.flags).2.1, e.message ≠ failure.message := by
        intro e he
        simp only [FlagClient.evaluateOrDefault] at he
        unfold FlagClient.report at he
        split at he
        · cases he
        · obtain rfl := List.mem_singleton.mp he
          simp [FlagClient.failure, failure]
      simp only
      split
      · refine (Supervision.failures_log _ ?_).trans (Supervision.failures_append _ rfl hreport)
        simp [cancelling, failure]
      · refine (Supervision.failures_log _ ?_).trans (Supervision.failures_append _ rfl hreport)
        simp [tolerating, failure]
    · exact Supervision.failures_log s (by decide)
    · rename_i hw
      exact absurd hw h.2
    all_goals rfl

/-! ## Turns -/

theorem steady_heed (sv : Supervisor σ) (x : Session σ) : x.state.Steady (sv.heed x).state := by
  have hnoticed := sv.steady_attend x.state
  unfold heed
  simp only
  split
  · exact hnoticed.trans (steady_finish { x with state := (sv.attend x.state).2 } _)
  · have hgone := sv.calm_goOn { x with state := (sv.attend x.state).2 }
    exact hnoticed.trans (hgone.steady.trans (steady_settle _))

theorem steady_runTurn (sv : Supervisor σ) (x : Session σ) :
    x.state.Steady (sv.runTurn x).state := by
  have hgone := (sv.calm_goOn x).steady
  unfold runTurn
  split
  · exact .refl x.state
  · simp only
    split
    · exact hgone.trans (sv.steady_heed _)
    · exact hgone.trans (steady_settle _)

theorem steady_turn (sv : Supervisor σ) (x : Session σ) : x.state.Steady (sv.turn x).state := by
  simp only [turn]
  split
  · exact (sv.calm_closerTurn x).steady.trans (sv.steady_runTurn _)
  · exact (sv.steady_runTurn x).trans (sv.calm_closerTurn _).steady

theorem steady_proceed (sv : Supervisor σ) (x : Session σ) :
    x.state.Steady (sv.proceed x).state := by
  have hwatch : ∀ y : Session σ, y.state.Steady (sv.watchTurn y).state :=
    fun y => sv.steady_watch y.state
  refine sv.proceed_of_rounds (fun y => x.state.Steady y.state) (fun y => x.state.Steady y.state)
    (fun y => x.state.Steady y.state) ?_ ?_ ?_ x (.refl x.state)
  · intro y hy
    have hturn := hy.trans (sv.steady_turn y)
    cases hdone : (sv.turn y).isDone with
    | true => exact .inl ⟨rfl, hturn⟩
    | false => exact .inr ⟨rfl, hturn⟩
  · intro y z hy hz
    exact hy.trans ((hwatch y).trans (steady_pass? hz))
  · intro y hy _
    exact hy.trans ((hwatch y).trans (steady_giveUp _))

theorem ComesTo.steady (h : sv.ComesTo x y) : x.state.Steady y.state := by
  induction h with
  | start => exact .refl x.state
  | round _ hz ih =>
      unfold round? at hz
      split at hz
      · cases hz
      · exact ih.trans ((sv.steady_turn _).trans ((sv.steady_watch _).trans (steady_pass? hz)))

/-- Once the watchdog has begun, no failure is noted any more. -/
theorem failures_proceed (h : (sv.watchTurn (sv.turn x)).state.Sound) :
    (sv.proceed x).state.failures = (sv.turn x).state.failures := by
  have hwatch : (sv.watchTurn (sv.turn x)).state.failures = (sv.turn x).state.failures :=
    sv.failures_watch _
  rw [proceed]
  split
  · rfl
  · split
    · rename_i z hz
      rw [((steady_pass? hz).trans (sv.steady_proceed z)).failures h, hwatch]
    · rw [(steady_giveUp _).failures h, hwatch]

/-! ## The beginning of a run -/

/-- The run when its watchdog begins: its parties have gone as far as they can. -/
def watchdogBegins (sv : Supervisor σ) (plan : RunPlan) (s : Supervision σ) : Session σ :=
  sv.turn (openRun plan s)

/-- The run when its watchdog has begun: everybody is called for the present instant. -/
def watchdogBegun (sv : Supervisor σ) (plan : RunPlan) (s : Supervision σ) : Session σ :=
  callTurn (sv.watchdogBegins plan s).state.now (sv.watchTurn (sv.watchdogBegins plan s))

/-- The run has not ended when its watchdog begins, nor is its task through when it could take
notice of a watchdog that failed at once. -/
structure Lingers (sv : Supervisor σ) (plan : RunPlan) (s : Supervision σ) : Prop where
  isOpen : (sv.watchdogBegins plan s).outcome = none
  unfinished : (sv.goOn (sv.closerTurn (sv.watchdogBegun plan s))).task ≠ .finished

theorem watchdogBegins_eq (sv : Supervisor σ) (plan : RunPlan) (s : Supervision σ) :
    sv.watchdogBegins plan s =
      { sv.closerTurn (sv.runTurn (openRun plan s)) with isCloserFirst := true } := rfl

/-- The first turn leaves a run that goes on with its watchdog. -/
theorem watchdogBegins_fresh (sv : Supervisor σ) (plan : RunPlan) (s : Supervision σ) :
    (sv.watchdogBegins plan s).state.failures = s.failures ∧
      ((sv.watchdogBegins plan s).outcome = none →
        (sv.watchdogBegins plan s).state.watchdog = .fresh) := by
  have hgone := sv.calm_goOn (openRun plan s)
  have hrun : sv.runTurn (openRun plan s) = (sv.goOn (openRun plan s)).settle := by
    have hw : (sv.goOn (openRun plan s)).state.watchdog = .fresh := hgone.watchdog
    have hopen : (openRun plan s).outcome.isSome = false := rfl
    simp [runTurn, hopen, hw, Watchdog.hasEnded]
  have hcloser := sv.calm_closerTurn (sv.runTurn (openRun plan s))
  have houtcome := (sv.closerTurn_closerTurned (sv.runTurn (openRun plan s))).outcome
  rw [watchdogBegins_eq]
  simp only [hcloser.failures, hcloser.watchdog, houtcome]
  rw [hrun]
  unfold Session.settle
  split
  · exact ⟨hgone.failures, fun h => by cases h⟩
  · split
    · exact ⟨hgone.failures, fun h => by cases h⟩
    · exact ⟨hgone.failures, fun _ => hgone.watchdog⟩

/-- A run that has a watchdog takes notice at once when it fails. -/
theorem proceed_of_failed (ho : (sv.watchdogBegins plan s).outcome = none)
    (hw : (sv.watch (sv.watchdogBegins plan s).state).watchdog = .ended .failed) :
    sv.proceed (openRun plan s) = sv.proceed (sv.watchdogBegun plan s) := by
  apply proceed_of_round?
  have hroused : (sv.watchTurn (sv.watchdogBegins plan s)).isRoused = true := by
    simp [Session.isRoused, watchTurn, ho, hw, Watchdog.hasEnded]
  have hdone : (sv.turn (openRun plan s)).isDone = false := by
    simp [Session.isDone, show (sv.turn (openRun plan s)).outcome = none from ho]
  have hnow : (sv.watch (sv.watchdogBegins plan s).state).now =
      (sv.watchdogBegins plan s).state.now :=
    (Course.unmoved_watch sv _).now
  rw [round?, hdone, if_neg Bool.false_ne_true, pass?, ← watchdogBegins, Session.isAwake, hroused,
    Bool.or_true, if_pos rfl, watchdogBegun]
  exact congrArg (fun now => some (callTurn now _)) hnow

/-- The turn in which a run takes notice that its watchdog has failed. -/
theorem turn_of_failed (sv : Supervisor σ) (hfirst : x.isCloserFirst = true) (ho : x.outcome = none)
    (hw : x.state.watchdog = .ended .failed) :
    (sv.turn x).state.Sound ∧
      ((sv.goOn (sv.closerTurn x)).task = .finished →
        (sv.turn x).state.failures = x.state.failures) ∧
      ((sv.goOn (sv.closerTurn x)).task ≠ .finished →
        (sv.turn x).state.failures = x.state.failures + 1) := by
  have hcalm := (sv.calm_closerTurn x).trans (sv.calm_goOn (sv.closerTurn x))
  have hopen : (sv.closerTurn x).outcome.isSome = false := by
    rw [(sv.closerTurn_closerTurned x).outcome, ho]
    rfl
  have hfailed : (sv.goOn (sv.closerTurn x)).state.watchdog = .ended .failed :=
    hcalm.watchdog.trans hw
  have hturn : (sv.turn x).state = (sv.runTurn (sv.closerTurn x)).state := by
    simp only [turn, hfirst, if_true]
  rw [hturn, runTurn, hopen, if_neg Bool.false_ne_true]
  by_cases hf : (sv.goOn (sv.closerTurn x)).task = .finished
  · simp only [hf, ne_eq, not_true_eq_false, false_and, if_false, Session.settle, if_true]
    exact ⟨sound_endRun _, fun _ => hcalm.failures, fun h => h.elim⟩
  · obtain ⟨hnone, hfailures, hgone⟩ := sv.attend_of_failed hfailed
    have hnoticed := (sv.calm_goOn { sv.goOn (sv.closerTurn x) with
      state := (sv.attend (sv.goOn (sv.closerTurn x)).state).2 }).steady.trans (steady_settle _)
    have hsound := Supervision.sound_of_none hgone
    simp only [hf, hfailed, Watchdog.hasEnded, ne_eq, not_false_eq_true, true_and, if_true, heed,
      hnone]
    refine ⟨hnoticed.sound hsound, fun h => h.elim, fun _ => ?_⟩
    rw [hnoticed.failures hsound, hfailures, hcalm.failures]

/-- A run notes a failure if its first poll is beyond the clock and it lingers; it notes no other
failures. -/
theorem failures_run (sv : Supervisor σ) (plan : RunPlan) (s : Supervision σ) :
    (sv.run plan s).2.failures = s.failures + 1 ∧ sv.Lingers plan s ∧
        ¬OnClock ((sv.watchdogBegins plan s).state.now + sv.settings.period) ∨
      (sv.run plan s).2.failures = s.failures ∧ ¬(sv.Lingers plan s ∧
        ¬OnClock ((sv.watchdogBegins plan s).state.now + sv.settings.period)) := by
  obtain ⟨hfirst, hfresh⟩ := sv.watchdogBegins_fresh plan s
  have hsound : (sv.watch (sv.watchdogBegins plan s).state).Sound →
      (sv.run plan s).2.failures = s.failures :=
    fun h => (failures_proceed (x := openRun plan s) h).trans hfirst
  cases ho : (sv.watchdogBegins plan s).outcome with
  | some o =>
      -- a run that has ended has no watchdog
      have hunder := (sv.underway_turn (underway_openRun plan s) fun _ hf => by cases hf).1
      have hnone := hunder.alone (Option.isSome_iff_exists.mpr ⟨o, ho⟩)
      refine .inr ⟨hsound (sv.sound_watch (Supervision.sound_of_none hnone)), fun h => ?_⟩
      cases ho.symm.trans h.1.isOpen
  | none =>
      rcases sv.watch_of_fresh (hfresh ho) with ⟨hclock, hbegun⟩ | ⟨hclock, hfailed⟩
      · exact .inr ⟨hsound hbegun, fun h => h.2 hclock⟩
      · have hrun : (sv.run plan s).2.failures =
            (sv.proceed (sv.watchdogBegun plan s)).state.failures := by
          rw [run, proceed_of_failed ho hfailed]
        obtain ⟨hgone, hthrough, hnoticed⟩ :=
          sv.turn_of_failed (x := sv.watchdogBegun plan s) rfl ho hfailed
        have hsettled : (sv.watchTurn (sv.turn (sv.watchdogBegun plan s))).state.Sound :=
          sv.sound_watch hgone
        have hbegan : (sv.watchdogBegun plan s).state.failures = s.failures :=
          (sv.failures_watch _).trans hfirst
        rw [failures_proceed hsettled] at hrun
        by_cases hf : (sv.goOn (sv.closerTurn (sv.watchdogBegun plan s))).task = .finished
        · exact .inr ⟨by rw [hrun, hthrough hf, hbegan], fun h => h.1.unfinished hf⟩
        · exact .inl ⟨by rw [hrun, hnoticed hf, hbegan], ⟨ho, hf⟩, hclock⟩

/-! ## Histories -/

theorem fits_doDeed (sv : Supervisor σ) (d : Deed) (h : s.timers.Fits) :
    (sv.doDeed s d).timers.Fits := by
  cases d with
  | step step => exact (sv.steady_proceed (.ofTask [step] s)).fits h
  | run plan => exact (sv.steady_proceed (openRun plan s)).fits h

theorem fits_after (sv : Supervisor σ) (deeds : List Deed) (h : s.timers.Fits) :
    (sv.after deeds s).timers.Fits := by
  induction deeds generalizing s with
  | nil => exact h
  | cons d deeds ih => exact ih (sv.fits_doDeed d h)

/-- With whatever settings were accepted, after whatever was done before, and whatever the task
does: the watchdog is set up with a period, and whenever it looks at the timers the instants
that they remember are on the clock. So it only fails if its first poll is not, and a run that
lingers takes notice of that, once. -/
theorem fails_iff_beyond_clock (sv : Supervisor σ) (flags : σ) (deeds : List Deed) (plan : RunPlan)
    {dialect : Dialect} {given : Json}
    (haccepted : TimeoutSettings.decode dialect given = .ok sv.settings) :
    let s := sv.after deeds (.initial flags)
    sv.settings.Fits ∧ 0 < sv.settings.period ∧
      (∀ y, sv.ComesTo (openRun plan s) y → ∀ call millis,
        ((sv.turn y).state.timers.timer call).startedAt = some millis →
          OnClock (millis * Duration.perMillisecond)) ∧
      (sv.run plan s).2.failures ≤ s.failures + 1 ∧
      (s.failures < (sv.run plan s).2.failures ↔ sv.Lingers plan s ∧
        ¬OnClock ((sv.watchdogBegins plan s).state.now + sv.settings.period)) := by
  intro s
  have hfits : s.timers.Fits := sv.fits_after deeds Timers.fits_stopped
  refine ⟨TimeoutSettings.fits_of_decode haccepted, sv.settings.period_pos,
    fun y hy call millis hmillis => ?_, ?_⟩
  · exact ((hy.steady.trans (sv.steady_turn y)).fits hfits).onClock hmillis
  · rcases sv.failures_run plan s with ⟨hnoted, hfails⟩ | ⟨hnoted, hfine⟩
    · exact ⟨Nat.le_of_eq hnoted, iff_of_true (hnoted ▸ Nat.lt_succ_self _) hfails⟩
    · exact ⟨hnoted ▸ Nat.le_succ _, iff_of_false (hnoted ▸ Nat.lt_irrefl _) hfine⟩

/-- Settings with the shortest spans that can be given. -/
def shortest : Json :=
  .obj [("poll_interval_secs", .int 0), ("shutdown_grace_secs", .int 0), ("timeout_secs", .int 0)]

theorem fails_iff_beyond_clock_shortest :
    let sv : Supervisor Nat :=
      { Course.stalling.supervisor with settings := ⟨.seconds 0, .seconds 0, .seconds 0⟩ }
    let ending := sv.run ⟨[.start .accept, .sleep 5000], none, none⟩ (.initial 0)
    TimeoutSettings.decode .settings shortest = .ok sv.settings ∧ sv.settings.Fits ∧
      0 < sv.settings.period ∧ ending.2.failures = 0 := by
  intro sv ending
  have haccepted : TimeoutSettings.decode .settings shortest = .ok sv.settings :=
    Decode.toOption_eq_some_iff.mp (by decide +kernel)
  obtain ⟨hfits, hperiod, -, -, hiff⟩ := fails_iff_beyond_clock sv 0 []
    ⟨[.start .accept, .sleep 5000], none, none⟩ haccepted
  have hclock : OnClock ((sv.watchdogBegins ⟨[.start .accept, .sleep 5000], none, none⟩
      (.initial 0)).state.now + sv.settings.period) := by decide
  have hnone : ¬0 < ending.2.failures := fun h => (hiff.mp h).2 hclock
  exact ⟨haccepted, hfits, hperiod, Nat.eq_zero_of_not_pos hnone⟩

/-- Settings with a poll interval of `2 ^ 63` seconds. -/
def overlong : Json := .obj [("poll_interval_secs", .float ⟨0x43e0000000000000⟩)]

/-- Although these settings are accepted, the watchdog fails and the task goes on without it. -/
theorem fails_although_accepted :
    let sv : Supervisor Nat :=
      { Course.stalling.supervisor with
        settings := ⟨.seconds 0x8000000000000000, .seconds 7200, .seconds 10⟩ }
    let ending := sv.run ⟨[.start .accept, .sleep 5000], none, none⟩ (.initial 0)
    TimeoutSettings.decode .settings overlong = .ok sv.settings ∧
      (Supervision.initial 0).failures = 0 ∧ ending.2.failures = 1 := by
  intro sv ending
  have hlingers : sv.Lingers ⟨[.start .accept, .sleep 5000], none, none⟩ (.initial 0) :=
    ⟨rfl, by decide⟩
  have hclock : ¬OnClock ((sv.watchdogBegins ⟨[.start .accept, .sleep 5000], none, none⟩
      (.initial 0)).state.now + sv.settings.period) := by decide
  refine ⟨Decode.toOption_eq_some_iff.mp (by decide +kernel), rfl, ?_⟩
  rcases sv.failures_run ⟨[.start .accept, .sleep 5000], none, none⟩ (.initial 0) with
    ⟨hnoted, -⟩ | ⟨-, hfine⟩
  · exact hnoted
  · exact absurd ⟨hlingers, hclock⟩ hfine

end Supervisor

end SyncLedger
