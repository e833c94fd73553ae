import SyncLedger.Proofs.Timeout.Phase

/-!
# What comes of a run under supervision

The first look that finds an overdue call decides together with the flag: the run is
cancelled there, or its task is carried out as if nobody watched it. `Verdict` says what the
report and the state of the supervisor show in either case.
-/

namespace SyncLedger

namespace Course

variable {σ : Type}

/-- The task was carried out from beginning to end; if it has none the run has none. -/
structure CarriedOut (c : Course σ) (r : RunReport) (s : Supervision σ) : Prop where
  through : ∀ t, c.completion = some t → r.result = .ok () ∧ r.endedAt = t
  unending : c.completion = none → r.result = .error .unending
  timers : s.timers = Timers.stopped.after (c.past ++ c.timetable)

/-- The run ended with the error about a call at an instant, and what its task was to do
later was not done. -/
structure Cancelled (c : Course σ) (call : DestinationCall) (d : Nat) (r : RunReport)
    (s : Supervision σ) : Prop where
  result : r.result = .error (.timedOut call)
  endedAt : r.endedAt = d
  timers : s.timers = Timers.stopped.after (c.eventsUntil d)

/-- What came of a run. -/
inductive Verdict (c : Course σ) (r : RunReport) (s : Supervision σ) : Prop where
  | carriedOut (hsettled : c.Settled s) (hcarried : c.CarriedOut r s)
  | cancelled (call : DestinationCall) (d : Nat) (hcancels : c.Cancels call d s)
      (hcancelled : c.Cancelled call d r s)

/-- A run between the turn of its parties and that of its watchdog. -/
structure Poised (c : Course σ) (x : Session σ) : Prop where
  kept : c.Kept x
  waits : x.task.Waits x.state.called
  phase : c.Phase x.state
  noticed : x.state.watchdog.hasEnded = false

/-- What a turn makes of a run. -/
def Turned (c : Course σ) (x : Session σ) : Prop :=
  x.isDone = true ∧ c.Verdict x.report x.state ∨ x.isDone = false ∧ c.Poised x

variable {c : Course σ} {x : Session σ}

/-! ## The turn of the run -/

theorem isDone_finish (h : c.Kept x) (result : Except Interruption Unit) :
    (x.finish result).isDone = true := by
  simp [Session.isDone, Session.finish, h.closer, Closer.isDone]

theorem Poised.isDone_eq_false (h : c.Poised x) : x.isDone = false := by
  simp [Session.isDone, h.kept.outcome]

theorem carriedOut_finish (h : c.Kept x) (hf : x.task = .finished) :
    c.CarriedOut (x.finish (.ok ())).report (x.finish (.ok ())).state := by
  have hcompletion := h.completion_of_finished hf
  refine ⟨fun t ht => ⟨rfl, ?_⟩, fun hnone => ?_, ?_⟩
  · exact Option.some.inj (hcompletion.symm.trans ht)
  · cases hcompletion.symm.trans hnone
  · refine h.timers_of_nil ?_
    rw [hf]
    rfl

theorem settle_turned (h : c.Kept x) (hphase : c.Phase x.state)
    (hrests : x.task = .finished ∨ x.task.Waits x.state.called)
    (hnoticed : x.task ≠ .finished → x.state.watchdog.hasEnded = false) :
    c.Turned x.settle := by
  rcases hrests with hf | hw
  · have hsettle : x.settle = x.finish (.ok ()) := by rw [Session.settle, if_pos hf]
    rw [hsettle]
    refine .inl ⟨isDone_finish h _, .carriedOut ?_ (carriedOut_finish h hf)⟩
    exact (hphase.settled_of_finished h hf).congr rfl rfl
  · have hf : x.task ≠ .finished := by
      intro hf
      rw [hf] at hw
      cases hw
    have hsettle : x.settle = x := by
      simp [Session.settle, hf, h.abandonAt, hasCome]
    have hpoised : c.Poised x := ⟨h, hw, hphase, hnoticed hf⟩
    rw [hsettle]
    exact .inr ⟨hpoised.isDone_eq_false, hpoised⟩

theorem Phase.goOn (h : c.Phase x.state) (hkept : c.Kept x) (sv : Supervisor σ) :
    c.Phase (sv.goOn x).state := by
  obtain ⟨_, _, timers, hstate⟩ := hkept.goOn sv
  rw [hstate]
  exact h.congr rfl rfl id rfl rfl

theorem watchdog_goOn (sv : Supervisor σ) (x : Session σ) :
    (sv.goOn x).state.watchdog = x.state.watchdog :=
  (sv.resume_advanced x.task x.state).watchdog

theorem heed_turned (h : c.Kept x) (hphase : c.Phase x.state)
    (hw : x.task.Waits x.state.called) : c.Turned (c.supervisor.heed x) := by
  have hkept := h.unmoved (unmoved_attend c.supervisor x.state)
  unfold Supervisor.heed
  rcases hphase.attend with ⟨hnone, hphase'⟩ | ⟨call, hcall, hcalled, hcancels⟩
  · simp only [hnone]
    obtain ⟨hgone, hrests, _⟩ := hkept.goOn c.supervisor
    refine settle_turned hgone (Phase.goOn hphase' hkept _) hrests fun _ => ?_
    rw [watchdog_goOn]
    exact c.supervisor.hasEnded_attend x.state
  · -- the clock stands at the look, where nobody was left to go on
    simp only [hcall]
    refine .inl ⟨isDone_finish hkept _, .cancelled call x.state.now ?_ ⟨rfl, ?_, ?_⟩⟩
    · exact ⟨hcancels.first, hcancels.flag, hcancels.timeouts, hcancels.flags⟩
    · exact (unmoved_attend c.supervisor x.state).now
    · have htimers := h.timers_eq hw (Nat.le_refl _) fun l hl => hcalled ▸ hw.lt_target hl
      exact (unmoved_attend c.supervisor x.state).timers.trans htimers

theorem runTurn_turned (h : c.Kept x) (hphase : c.Phase x.state) :
    c.Turned (c.supervisor.runTurn x) := by
  obtain ⟨hgone, hrests, _⟩ := h.goOn c.supervisor
  have hphase' := hphase.goOn h c.supervisor
  simp only [Supervisor.runTurn, h.outcome, Option.isSome_none, Bool.false_eq_true, if_false]
  split
  · rename_i hended
    -- a task that is through comes before the end of its watchdog
    rcases hrests with hf | hw
    · exact absurd hf hended.1
    · exact heed_turned hgone hphase' hw
  · rename_i hquiet
    refine settle_turned hgone hphase' hrests fun hf => ?_
    simpa [hf] using hquiet

theorem turn_turned (h : c.Kept x) (hphase : c.Phase x.state) :
    c.Turned (c.supervisor.turn x) := by
  rw [c.supervisor.turn_of_absent h.closer]
  rcases runTurn_turned h hphase with ⟨hdone, hverdict⟩ | ⟨hdone, hpoised⟩
  · exact .inl ⟨hdone, hverdict⟩
  · have hkept := hpoised.kept
    exact .inr ⟨hdone, ⟨hkept.outcome, hkept.abandonAt, hkept.closer, hkept.isOpen, hkept.called,
      hkept.brisk, hkept.events, hkept.completion⟩, hpoised.waits, hpoised.phase,
      hpoised.noticed⟩

/-! ## The passing of time -/

theorem Kept.nextInstant?_eq (h : c.Kept x) : x.nextInstant? = x.task.target? := by
  rw [Session.nextInstant?, h.outcome, h.abandonAt, h.closer]
  cases x.task.target? with
  | none => rfl
  | some l => rfl

/-- Only the end of its watchdog rouses a run that keeps to its course. -/
theorem Kept.isRoused_eq (h : c.Kept x) (hw : x.task.Waits x.state.called) :
    x.isRoused = x.state.watchdog.hasEnded := by
  have hawaits : x.awaitsWatchdogs = false := by
    have htask : x.task.awaitsWatchdogs = false := by
      generalize x.task = task at hw
      cases hw with
      | moment _ _ _ => rfl
      | forever _ => rfl
    simp [Session.awaitsWatchdogs, htask, h.closer]
  simp [Session.isRoused, h.outcome, hawaits]

theorem callTurn_kept {instant : Nat} (h : c.Kept x) (hw : x.task.Waits x.state.called)
    (hle : ∀ l, x.task.target? = some l → instant ≤ l) :
    c.Kept (Supervisor.callTurn instant x) := by
  refine h.callAt hw (Nat.le_max_left _ _) fun l hl => ?_
  exact Nat.max_le.mpr ⟨h.brisk.le_target hl, hle l hl⟩

/-- The watchdog goes on, and does not remain at its beginning. -/
theorem Poised.watch (h : c.Poised x) :
    c.Kept (c.supervisor.watchTurn x) ∧
      (c.supervisor.watchTurn x).task.Waits (c.supervisor.watchTurn x).state.called ∧
      c.Phase (c.supervisor.watchTurn x).state ∧
      (c.supervisor.watchTurn x).state.watchdog ≠ .fresh := by
  have hunmoved := unmoved_watch c.supervisor x.state
  have hkept : c.Kept { x with state := c.supervisor.endStopping x.state } :=
    h.kept.unmoved ⟨rfl, rfl, rfl, rfl⟩
  have hphase : c.Phase (c.supervisor.endStopping x.state) := h.phase.congr rfl rfl id rfl rfl
  refine ⟨h.kept.unmoved hunmoved, ?_, hkept.rouse hphase h.waits h.noticed⟩
  change x.task.Waits (c.supervisor.watch x.state).called
  rw [hunmoved.called]
  exact h.waits

/-- Time passes, or nothing ever happens again. -/
theorem pass?_cases (h : c.Kept x) (hw : x.task.Waits x.state.called) (hphase : c.Phase x.state)
    (hfresh : x.state.watchdog ≠ .fresh) :
    (∃ z, c.supervisor.pass? x = some z ∧ c.Kept z ∧ c.Phase z.state) ∨
      c.supervisor.pass? x = none ∧ x.task.target? = none ∧ c.Settled x.state := by
  by_cases hawake : x.isAwake = true
  · refine .inl ⟨_, by rw [Supervisor.pass?, if_pos hawake], ?_, ?_⟩
    · exact callTurn_kept h hw fun l hl => h.brisk.le_target hl
    · refine hphase.congr rfl (Nat.max_self _) (fun _ => ?_) rfl rfl
      change max x.state.called (max x.state.now x.state.now) = max x.state.now x.state.now
      rw [Nat.max_self]
      exact Nat.max_eq_right h.called
  · -- nobody is awake, so that the end of the watchdog is not to be noticed either
    have hnoticed : x.state.watchdog.hasEnded = false := by
      rw [← h.isRoused_eq hw]
      simp only [Session.isAwake, Bool.or_eq_true, not_or] at hawake
      simpa using hawake.2
    have hpass : c.supervisor.pass? x =
        if (c.supervisor.pollTurn x).isRoused then some (c.supervisor.pollTurn x)
        else (c.supervisor.pollTurn x).nextInstant?.map fun instant =>
          Supervisor.callTurn instant (c.supervisor.pollTurn x) := by
      rw [Supervisor.pass?, if_neg hawake]
    have hpoll : c.supervisor.pollTurn x =
        { x with state := c.supervisor.poll x.task.target? x.state } := by
      rw [Supervisor.pollTurn, h.nextInstant?_eq]
    rw [hpass, hpoll]
    rcases h.poll hphase hw hfresh hnoticed with hexpired | hcalm
    · have hroused : ({ x with state := c.supervisor.poll x.task.target? x.state } :
          Session σ).isRoused = true := by
        simp [Session.isRoused, h.outcome, hexpired.ended]
      rw [if_pos hroused]
      exact .inl ⟨_, rfl, hexpired.kept, hexpired.phase⟩
    · have hkept := h.unmoved hcalm.unmoved
      have hw' : x.task.Waits (c.supervisor.poll x.task.target? x.state).called := by
        rw [hcalm.unmoved.called]
        exact hw
      rw [hkept.isRoused_eq hw', hkept.nextInstant?_eq]
      simp only [hcalm.noticed, Bool.false_eq_true, if_false]
      cases htarget : x.task.target? with
      | none => exact .inr ⟨rfl, rfl, hcalm.settled htarget⟩
      | some l =>
          rw [htarget] at hkept hcalm hw'
          refine .inl ⟨_, rfl, callTurn_kept hkept hw' fun l' hl => ?_, hcalm.phase l htarget⟩
          exact Nat.le_of_eq (Option.some.inj (htarget.symm.trans hl))

theorem giveUp_verdict (h : c.Kept x) (hw : x.task.Waits x.state.called)
    (htarget : x.task.target? = none) (hsettled : c.Settled x.state) :
    c.Verdict x.giveUp.report x.giveUp.state := by
  have hgive : x.giveUp = x.finish (.error .unending) := by
    simp [Session.giveUp, h.outcome]
  have hnever := hw.never htarget x.state.now
  have hcompletion : c.completion = none := h.completion.symm.trans hnever.2
  rw [hgive]
  refine .carriedOut (hsettled.congr rfl rfl) ⟨fun t ht => ?_, fun _ => rfl, ?_⟩
  · cases hcompletion.symm.trans ht
  · exact h.timers_of_nil hnever.1

/-! ## The whole run -/

/-- What came of the run, and what it left behind. -/
def ending (c : Course σ) : RunReport × Supervision σ :=
  c.supervisor.run ⟨c.task, none, none⟩ c.state

theorem ending_verdict (c : Course σ) : c.Verdict c.ending.1 c.ending.2 := by
  refine c.supervisor.proceed_of_rounds (fun x => c.Kept x ∧ c.Phase x.state) c.Poised
    (fun x => c.Verdict x.report x.state) ?_ ?_ ?_ _ ⟨c.kept_openRun, ?_⟩
  · intro x hx
    exact turn_turned hx.1 hx.2
  · intro y z hy hz
    obtain ⟨hkept, hw, hphase, hfresh⟩ := hy.watch
    rcases pass?_cases hkept hw hphase hfresh with ⟨z', hz', h⟩ | ⟨hnone, _⟩
    · obtain rfl : z' = z := Option.some.inj (hz'.symm.trans hz)
      exact h
    · cases hnone.symm.trans hz
  · intro y hy hnone
    obtain ⟨hkept, hw, hphase, hfresh⟩ := hy.watch
    rcases pass?_cases hkept hw hphase hfresh with ⟨z, hz, _⟩ | ⟨_, htarget, hsettled⟩
    · cases hnone.symm.trans hz
    · exact giveUp_verdict hkept hw htarget hsettled
  · exact .fresh rfl rfl ⟨rfl, rfl⟩

theorem FirstOverdue.unique {call call' : DestinationCall} {d d' : Nat}
    (h : c.FirstOverdue call d) (h' : c.FirstOverdue call' d') : call' = call ∧ d' = d := by
  obtain rfl : d' = d := by
    rcases Nat.lt_trichotomy d' d with hlt | heq | hlt
    · cases (h.before d' hlt h'.looks).symm.trans h'.overdue
    · exact heq
    · cases (h'.before d hlt h.looks).symm.trans h.overdue
  exact ⟨Option.some.inj (h'.overdue.symm.trans h.overdue), rfl⟩

/-- The first overdue look decides what comes of a run. Without one the task is carried
out and nothing is counted or asked. With one the timeout of that call is counted once and
the flag is evaluated once; if it is on the run is cancelled there and then, and otherwise
the task is carried out all the same. -/
theorem decided_by_firstOverdue (c : Course σ) :
    ((¬∃ call d, c.FirstOverdue call d) →
      c.CarriedOut c.ending.1 c.ending.2 ∧ c.Untouched c.ending.2) ∧
    ∀ call d, c.FirstOverdue call d →
      c.ending.2.timeouts = c.charged call ∧ c.ending.2.flags = c.evaluation.2 ∧
      (c.evaluation.1 = .ok true → c.Cancelled call d c.ending.1 c.ending.2) ∧
      (c.evaluation.1 ≠ .ok true → c.CarriedOut c.ending.1 c.ending.2) := by
  cases c.ending_verdict with
  | carriedOut hsettled hcarried =>
      cases hsettled with
      | quiet hlooks huntouched =>
          refine ⟨fun _ => ⟨hcarried, huntouched⟩, fun call d hfirst => ?_⟩
          cases (hlooks d hfirst.looks).symm.trans hfirst.overdue
      | tolerated call d hfirst hflag htimeouts hflags =>
          refine ⟨fun hnone => absurd ⟨call, d, hfirst⟩ hnone, fun call' d' hfirst' => ?_⟩
          obtain ⟨rfl, rfl⟩ := hfirst.unique hfirst'
          exact ⟨htimeouts, hflags, fun hon => absurd hon hflag, fun _ => hcarried⟩
  | cancelled call d hcancels hcancelled =>
      refine ⟨fun hnone => absurd ⟨call, d, hcancels.first⟩ hnone, fun call' d' hfirst' => ?_⟩
      obtain ⟨rfl, rfl⟩ := hcancels.first.unique hfirst'
      exact ⟨hcancels.timeouts, hcancels.flags, fun _ => hcancelled,
        fun hoff => absurd hcancels.flag hoff⟩

/-- A destination that takes in a record for half a second, with a timeout of three
milliseconds and a look every other millisecond. The client counts what it is asked. -/
def stalling : Course Nat where
  supervisor :=
    { settings := ⟨.milliseconds 2, .milliseconds 3, .milliseconds 10⟩
      context := default
      metered := true
      client := ⟨fun _ _ asked => (.ok true, asked + 1)⟩ }
  state := .initial 0
  task := [.start .accept, .sleep 500, .reset .accept]
  past := []
  timers := rfl
  isOpen := rfl
  called := Nat.le_refl _
  brisk := by decide

theorem stalling_firstOverdue : stalling.FirstOverdue .accept 4000000 := by
  refine ⟨⟨rfl, ⟨2, by decide, rfl⟩, fun t ht => ?_⟩, by decide, fun i hi hlooks => ?_⟩
  · obtain rfl : 500000000 = t := Option.some.inj ht
    decide
  · obtain ⟨n, hn, rfl⟩ := hlooks.isTick
    have hearly : n < 2 := Polling.lt_of_pollAt_lt (s := stalling.supervisor.settings) hi
    obtain rfl : n = 1 := by omega
    decide

theorem stalling_decided : stalling.Cancelled .accept 4000000 stalling.ending.1 stalling.ending.2 ∧
    stalling.ending.2.timeouts .accept = ⟨1⟩ ∧ stalling.ending.2.timeouts .notifyEndOfInput = ⟨0⟩ ∧
    stalling.ending.2.flags = 1 := by
  obtain ⟨htimeouts, hflags, hcancelled, _⟩ :=
    stalling.decided_by_firstOverdue.2 _ _ stalling_firstOverdue
  refine ⟨hcancelled rfl, ?_, ?_, hflags⟩
  · rw [htimeouts]
    decide
  · rw [htimeouts]
    decide

end Course

end SyncLedger
