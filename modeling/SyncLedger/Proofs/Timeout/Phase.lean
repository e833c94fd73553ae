import SyncLedger.Proofs.Timeout.Rounds

/-!
# Phases of a watchdog

In a run that keeps to its course the watchdog has not begun, or polls and has found nothing
so far, or has just found a call that is overdue, or the run has taken notice. Which of
these it is, and what was counted and asked for, is a `Phase`. Each of the things that
happen in a round takes a phase to a phase.
-/

namespace SyncLedger

namespace Supervision

variable {σ : Type}

/-- How many timeouts of a call were counted. -/
def timeouts (s : Supervision σ) : DestinationCall → Counter
  | .accept => s.acceptTimeouts
  | .notifyEndOfInput => s.notifyTimeouts

theorem timeouts_count (s : Supervision σ) (call other : DestinationCall) :
    (s.count call).timeouts other =
      if other = call then (s.timeouts other).increment else s.timeouts other := by
  cases call <;> cases other <;> rfl

end Supervision

theorem Timers.timedOut?_after (timeout : Nat) (events : List TimerEvent) (now : Nat) :
    (Timers.stopped.after events).timedOut? timeout now =
      if isOverdue timeout events .accept now then some .accept
      else if isOverdue timeout events .notifyEndOfInput now then some .notifyEndOfInput
      else none := by
  simp only [timedOut?, DestinationCall.all, List.find?_cons, isOver_after, List.find?_nil]
  cases isOverdue timeout events .accept now <;>
    cases isOverdue timeout events .notifyEndOfInput now <;> rfl

namespace Course

variable {σ : Type}

/-- The call that is overdue at an instant; handing over a record comes first. -/
def overdue? (c : Course σ) (instant : Nat) : Option DestinationCall :=
  let timeout := c.supervisor.settings.timeout.nanos
  if isOverdue timeout (c.eventsUntil instant) .accept instant then some .accept
  else if isOverdue timeout (c.eventsUntil instant) .notifyEndOfInput instant then
    some .notifyEndOfInput
  else none

/-- The instant of the `n`-th poll of the watchdog of the run. -/
def tick (c : Course σ) (n : Nat) : Nat :=
  Polling.pollAt c.supervisor.settings c.state.now n

/-- The watchdog looks at the timers at an instant: it is a tick, and the task is not
through. There are no ticks if the first one cannot be represented. -/
structure Looks (c : Course σ) (instant : Nat) : Prop where
  representable : (c.supervisor.firstPoll? c.state.now).isSome = true
  isTick : ∃ n, 0 < n ∧ instant = c.tick n
  unfinished : ∀ t, c.completion = some t → instant < t

/-- The first look that finds an overdue call. -/
structure FirstOverdue (c : Course σ) (call : DestinationCall) (instant : Nat) : Prop where
  looks : c.Looks instant
  overdue : c.overdue? instant = some call
  before : ∀ i, i < instant → c.Looks i → c.overdue? i = none

/-- What the counters show after one timeout of a call, if timeouts are counted. -/
def charged (c : Course σ) (call other : DestinationCall) : Counter :=
  if c.supervisor.metered = true ∧ other = call then (c.state.timeouts other).increment
  else c.state.timeouts other

/-- What comes of asking whether a timeout fails the sync. -/
def evaluation (c : Course σ) : Except FlagEvaluationError Bool × σ :=
  c.supervisor.client.evaluate .failSyncOnDestinationTimeout c.supervisor.context c.state.flags

/-- Nothing was counted, and no flag was evaluated. -/
structure Untouched (c : Course σ) (s : Supervision σ) : Prop where
  timeouts : s.timeouts = c.state.timeouts
  flags : s.flags = c.state.flags

/-- It is settled that the run is not cancelled: no look finds anything, or the flag has
been asked and lets the task go on. -/
inductive Settled (c : Course σ) (s : Supervision σ) : Prop where
  | quiet (hlooks : ∀ i, c.Looks i → c.overdue? i = none) (huntouched : c.Untouched s)
  | tolerated (call : DestinationCall) (d : Nat) (hfirst : c.FirstOverdue call d)
      (hflag : c.evaluation.1 ≠ .ok true) (htimeouts : s.timeouts = c.charged call)
      (hflags : s.flags = c.evaluation.2)

/-- The `n`-th tick is the next, and nothing was found at those before. -/
structure Polls (c : Course σ) (n : Nat) (s : Supervision σ) : Prop where
  pos : 0 < n
  watchdog : s.watchdog = .polling (c.state.now + n * c.supervisor.settings.period)
  representable : (c.supervisor.firstPoll? c.state.now).isSome = true
  now : s.now ≤ c.tick n
  quiet : ∀ j, 0 < j → j < n → c.overdue? (c.tick j) = none
  untouched : c.Untouched s

/-- How far the watchdog of the run has come. -/
inductive Phase (c : Course σ) (s : Supervision σ) : Prop where
  | fresh (hw : s.watchdog = .fresh) (hnow : s.now = c.state.now) (huntouched : c.Untouched s)
  | polling (n : Nat) (hpolls : c.Polls n s)
  | overdue (call : DestinationCall) (hw : s.watchdog = .ended (.timedOut call))
      (hcalled : s.called = s.now) (hfirst : c.FirstOverdue call s.now)
      (htimeouts : s.timeouts = c.charged call) (hflags : s.flags = c.state.flags)
  | failed (hw : s.watchdog = .ended .failed) (hsettled : c.Settled s)
  | alone (hw : s.watchdog = .none) (hsettled : c.Settled s)

variable {c : Course σ} {x : Session σ} {s t : Supervision σ}

/-- In whole milliseconds the ticks are whole periods apart. -/
theorem tick_of_dvd (hstart : Duration.perMillisecond ∣ c.state.now)
    (hperiod : Duration.perMillisecond ∣ c.supervisor.settings.period) (n : Nat) :
    c.tick n = c.state.now + n * c.supervisor.settings.period := by
  rw [tick, Polling.pollAt]
  exact Polling.wakeUp_of_dvd (Nat.dvd_add hstart (Nat.dvd_mul_left_of_dvd hperiod n))

theorem Untouched.congr (h : c.Untouched s) (htimeouts : t.timeouts = s.timeouts)
    (hflags : t.flags = s.flags) : c.Untouched t :=
  ⟨htimeouts.trans h.timeouts, hflags.trans h.flags⟩

theorem Settled.congr (h : c.Settled s) (htimeouts : t.timeouts = s.timeouts)
    (hflags : t.flags = s.flags) : c.Settled t := by
  cases h with
  | quiet hlooks huntouched => exact .quiet hlooks (huntouched.congr htimeouts hflags)
  | tolerated call d hfirst hflag ht hf =>
      exact .tolerated call d hfirst hflag (htimeouts.trans ht) (hflags.trans hf)

theorem Phase.congr (h : c.Phase s) (hw : t.watchdog = s.watchdog) (hnow : t.now = s.now)
    (hcalled : s.called = s.now → t.called = t.now) (htimeouts : t.timeouts = s.timeouts)
    (hflags : t.flags = s.flags) : c.Phase t := by
  cases h with
  | fresh hw' hnow' hu => exact .fresh (hw.trans hw') (hnow.trans hnow') (hu.congr htimeouts hflags)
  | polling n hp =>
      exact .polling n ⟨hp.pos, hw.trans hp.watchdog, hp.representable, hnow ▸ hp.now, hp.quiet,
        hp.untouched.congr htimeouts hflags⟩
  | overdue call hw' hcalled' hfirst ht hf =>
      exact .overdue call (hw.trans hw') (hcalled hcalled') (hnow ▸ hfirst) (htimeouts.trans ht)
        (hflags.trans hf)
  | failed hw' hs => exact .failed (hw.trans hw') (hs.congr htimeouts hflags)
  | alone hw' hs => exact .alone (hw.trans hw') (hs.congr htimeouts hflags)

/-- A watchdog whose end is not to be noticed has not begun, polls, or is not there. -/
theorem Phase.of_noticed (h : c.Phase s) (hnoticed : s.watchdog.hasEnded = false) :
    (s.watchdog = .fresh ∧ s.now = c.state.now ∧ c.Untouched s) ∨ (∃ n, c.Polls n s) ∨
      s.watchdog = .none ∧ c.Settled s := by
  cases h with
  | fresh hw hnow hu => exact .inl ⟨hw, hnow, hu⟩
  | polling n hp => exact .inr (.inl ⟨n, hp⟩)
  | overdue call hw hcalled hfirst ht hflags =>
      rw [hw] at hnoticed
      cases hnoticed
  | failed hw hs =>
      rw [hw] at hnoticed
      cases hnoticed
  | alone hw hs => exact .inr (.inr ⟨hw, hs⟩)

theorem Polls.later {n m : Nat} (h : c.Polls n s) (hm : n ≤ m)
    (hquiet : ∀ j, 0 < j → j < m → c.overdue? (c.tick j) = none)
    (hw : t.watchdog = .polling (c.state.now + m * c.supervisor.settings.period))
    (hnow : t.now ≤ c.tick m) (htimeouts : t.timeouts = s.timeouts) (hflags : t.flags = s.flags) :
    c.Polls m t :=
  ⟨Nat.lt_of_lt_of_le h.pos hm, hw, h.representable, hnow, hquiet,
    h.untouched.congr htimeouts hflags⟩

theorem Looks.lt {i : Nat} (h : c.Looks i) : c.state.now < i := by
  obtain ⟨n, hn, rfl⟩ := h.isTick
  have hwake := Polling.le_wakeUp (c.state.now + n * c.supervisor.settings.period)
  have hmul := Nat.mul_pos hn c.supervisor.settings.period_pos
  rw [tick, Polling.pollAt]
  omega

theorem Polls.overdue?_eq_none {n i : Nat} (h : c.Polls n s) (hlooks : c.Looks i)
    (hlt : i < c.tick n) : c.overdue? i = none := by
  obtain ⟨j, hj, rfl⟩ := hlooks.isTick
  exact h.quiet j hj (Polling.lt_of_pollAt_lt hlt)

theorem Kept.timedOut?_eq {instant : Nat} (h : c.Kept x) (hw : x.task.Waits x.state.called)
    (hnow : x.state.now ≤ instant) (hlt : ∀ l, x.task.target? = some l → instant < l) :
    x.state.timers.timedOut? c.supervisor.settings.timeout.nanos instant =
      c.overdue? instant := by
  rw [h.timers_eq hw hnow hlt, Timers.timedOut?_after, overdue?]

/-- When the task is through, nothing can be found any more. -/
theorem Phase.settled_of_finished (h : c.Phase x.state) (hkept : c.Kept x)
    (hf : x.task = .finished) : c.Settled x.state := by
  have hcompletion := hkept.completion_of_finished hf
  cases h with
  | fresh hw hnow hu =>
      refine .quiet (fun i hi => ?_) hu
      have hafter := hi.lt
      have hbefore := hi.unfinished _ hcompletion
      omega
  | polling n hp =>
      refine .quiet (fun i hi => ?_) hp.untouched
      exact hp.overdue?_eq_none hi (Nat.lt_of_lt_of_le (hi.unfinished _ hcompletion) hp.now)
  | overdue call hw hcalled hfirst ht hflags =>
      exact absurd (hfirst.looks.unfinished _ hcompletion) (Nat.lt_irrefl _)
  | failed hw hs => exact hs
  | alone hw hs => exact hs

/-! ## Polls -/

/-- Polls up to a limit that is not beyond the instant the task waits for: they come to the
first overdue look, or there is none among them. -/
theorem Polls.outcome {n : Nat} {limit : Option Nat} {o : Polling.Outcome}
    (h : c.Polls n x.state) (hkept : c.Kept x) (hw : x.task.Waits x.state.called)
    (hlimit : ∀ i, (∀ l, limit = some l → i < l) → ∀ l, x.task.target? = some l → i < l)
    (ho : Polling.Polled c.supervisor.settings x.state.timers c.state.now n limit o) :
    (∃ m call, o = .timedOut call (c.tick m) ∧ n ≤ m ∧
        (∀ l, limit = some l → c.tick m < l) ∧ c.FirstOverdue call (c.tick m)) ∨
      ∃ m, o = .waiting (c.state.now + m * c.supervisor.settings.period) ∧ n ≤ m ∧
        (∀ l, limit = some l → l ≤ c.tick m) ∧
        ∀ j, 0 < j → (j < m ∨ limit = none) → c.overdue? (c.tick j) = none := by
  -- the timers do not change before the limit, so that they show what is overdue
  have hpoll : ∀ j, n ≤ j → (∀ l, limit = some l → c.tick j < l) →
      x.state.timers.timedOut? c.supervisor.settings.timeout.nanos (c.tick j) =
        c.overdue? (c.tick j) := by
    intro j hj hbelow
    exact hkept.timedOut?_eq hw (Nat.le_trans h.now (Polling.pollAt_mono hj)) (hlimit _ hbelow)
  cases ho with
  | timedOut m call hm hbelow hfound hbefore =>
      refine .inl ⟨m, call, rfl, hm, hbelow, ⟨h.representable, ⟨m, ?_, rfl⟩, ?_⟩, ?_, ?_⟩
      · exact Nat.lt_of_lt_of_le h.pos hm
      · exact hkept.lt_completion hw (hlimit _ hbelow)
      · rw [← hpoll m hm hbelow]
        exact hfound
      · intro i hi hlooks
        obtain ⟨j, hj, rfl⟩ := hlooks.isTick
        -- an earlier look came before these polls, or is one of them
        rcases Nat.lt_or_ge j n with hjn | hjn
        · exact h.quiet j hj hjn
        · have hpass := hbefore j hjn (Polling.lt_of_pollAt_lt hi)
          rw [← hpoll j hjn hpass.below]
          exact hpass.nothing
  | waiting m hm hreached hbefore =>
      refine .inr ⟨m, rfl, hm, hreached, fun j hj hjm => ?_⟩
      rcases Nat.lt_or_ge j n with hjn | hjn
      · exact h.quiet j hj hjn
      · have hpass := hbefore j hjn hjm
        rw [← hpoll j hjn hpass.below]
        exact hpass.nothing

/-! ## What the watchdog does -/

theorem unmoved_expire (sv : Supervisor σ) (call : DestinationCall) (s : Supervision σ) :
    s.Unmoved (sv.expire call s) := by
  unfold Supervisor.expire
  by_cases h : sv.metered = true <;> cases call <;>
    simp only [h, if_true, if_false, Bool.false_eq_true] <;> exact ⟨rfl, rfl, rfl, rfl⟩

theorem flags_expire (sv : Supervisor σ) (call : DestinationCall) (s : Supervision σ) :
    (sv.expire call s).flags = s.flags := by
  unfold Supervisor.expire
  by_cases h : sv.metered = true <;> cases call <;> simp [h, Supervision.count, Supervision.log]

theorem timeouts_expire (sv : Supervisor σ) (call : DestinationCall) (s : Supervision σ) :
    (sv.expire call s).timeouts = fun other =>
      if sv.metered = true ∧ other = call then (s.timeouts other).increment
      else s.timeouts other := by
  funext other
  by_cases h : sv.metered = true
  · have hcount : (sv.expire call s).timeouts = (s.count call).timeouts := by
      unfold Supervisor.expire
      cases call <;> simp only [h, if_true] <;> rfl
    rw [hcount, Supervision.timeouts_count]
    simp only [h, true_and]
  · have hkeep : (sv.expire call s).timeouts = s.timeouts := by
      unfold Supervisor.expire
      simp only [h, if_false, Bool.false_eq_true]
      rfl
    rw [hkeep, if_neg fun hand => h hand.1]

/-- A watchdog that expires at the first overdue look has counted it. -/
theorem phase_expire {call : DestinationCall} (hu : c.Untouched s) (hcalled : s.called = s.now)
    (hfirst : c.FirstOverdue call s.now) : c.Phase (c.supervisor.expire call s) := by
  have hunmoved := unmoved_expire c.supervisor call s
  refine .overdue call (c.supervisor.expire_eq call s).2.2.2 ?_ ?_ ?_ ?_
  · rw [hunmoved.called, hunmoved.now]
    exact hcalled
  · rw [hunmoved.now]
    exact hfirst
  · rw [timeouts_expire, hu.timeouts]
    rfl
  · rw [flags_expire]
    exact hu.flags

theorem phase_expire_callAt {call : DestinationCall} {instant : Nat} (hu : c.Untouched s)
    (hcalled : s.called ≤ instant) (hfirst : c.FirstOverdue call instant) :
    c.Phase (c.supervisor.expire call (Supervisor.callAt instant s)) :=
  phase_expire (hu.congr rfl rfl) (Nat.max_eq_right hcalled) hfirst

theorem unmoved_watch (sv : Supervisor σ) (s : Supervision σ) : s.Unmoved (sv.watch s) := by
  unfold Supervisor.watch Supervisor.rouse
  split
  · split
    · exact ⟨rfl, rfl, rfl, rfl⟩
    · split <;> exact ⟨rfl, rfl, rfl, rfl⟩
  · split
    · exact ⟨rfl, rfl, rfl, rfl⟩
    · split
      · have h := unmoved_expire sv ‹_› (sv.endStopping s)
        exact ⟨h.closed, h.called, h.now, h.timers⟩
      · exact ⟨rfl, rfl, rfl, rfl⟩
  · exact ⟨rfl, rfl, rfl, rfl⟩
  · exact ⟨rfl, rfl, rfl, rfl⟩

theorem eq_of_firstPoll? {sv : Supervisor σ} {now due : Nat} (h : sv.firstPoll? now = some due) :
    due = now + sv.settings.period := by
  unfold Supervisor.firstPoll? at h
  split at h
  · exact (Option.some.inj h).symm
  · cases h

/-- A watchdog that begins waits for its first tick, if that can be represented. -/
theorem phase_rouse_of_fresh (hw : s.watchdog = .fresh) (hopen : s.closed = false)
    (hnow : s.now = c.state.now) (hu : c.Untouched s) :
    c.Phase (c.supervisor.rouse s) ∧ (c.supervisor.rouse s).watchdog ≠ .fresh := by
  cases hfirst : c.supervisor.firstPoll? c.state.now with
  | none =>
      have hrouse : c.supervisor.rouse s = { s with watchdog := .ended .failed } := by
        simp only [Supervisor.rouse, hw, hnow, hfirst]
      have hlooks : ∀ i, c.Looks i → c.overdue? i = none := by
        intro i hi
        have hsome := hi.representable
        rw [hfirst] at hsome
        cases hsome
      rw [hrouse]
      exact ⟨.failed rfl (.quiet hlooks (hu.congr rfl rfl)), by simp⟩
  | some due =>
      have hrouse : c.supervisor.rouse s = { s with watchdog := .polling due } := by
        simp only [Supervisor.rouse, hw, hnow, hfirst, hopen, Bool.false_eq_true, if_false]
      have hdue : due = c.state.now + 1 * c.supervisor.settings.period := by
        rw [Nat.one_mul]
        exact eq_of_firstPoll? hfirst
      have htick : s.now ≤ c.tick 1 := by
        have hwake := Polling.le_wakeUp (c.state.now + 1 * c.supervisor.settings.period)
        rw [hnow, tick, Polling.pollAt]
        omega
      rw [hrouse, hdue]
      refine ⟨.polling 1 ⟨Nat.one_pos, rfl, ?_, htick, ?_, hu.congr rfl rfl⟩, by simp⟩
      · rw [hfirst]
        rfl
      · intro j hj hlt
        omega

/-- The polls that the watchdog was called for: only one at the present instant. -/
theorem Polls.rouse {n : Nat} (h : c.Polls n x.state) (hkept : c.Kept x)
    (hw : x.task.Waits x.state.called) :
    c.Phase (c.supervisor.rouse x.state) ∧ (c.supervisor.rouse x.state).watchdog ≠ .fresh := by
  have hpolled := Polling.catchUp_polled c.supervisor.settings x.state.timers c.state.now n
    x.state.called x.state.now hkept.called h.now
  have hlimit : ∀ i, (∀ l, some (x.state.called + 1) = some l → i < l) →
      ∀ l, x.task.target? = some l → i < l := by
    intro i hi l hl
    exact Nat.lt_of_le_of_lt (Nat.le_of_lt_succ (hi _ rfl)) (hw.lt_target hl)
  rcases h.outcome hkept hw hlimit hpolled with
    ⟨m, call, ho, hm, hbelow, hfirst⟩ | ⟨m, ho, hm, _, hquiet⟩
  · -- a poll at the instant that everybody was called for
    have hearly : c.tick m ≤ x.state.called := Nat.le_of_lt_succ (hbelow _ rfl)
    have hnow : x.state.now = c.tick m :=
      Nat.le_antisymm (Nat.le_trans h.now (Polling.pollAt_mono hm))
        (Nat.le_trans hearly hkept.called)
    have hcalled : x.state.called = x.state.now :=
      Nat.le_antisymm hkept.called (hnow ▸ hearly)
    have hrouse : c.supervisor.rouse x.state = c.supervisor.expire call x.state := by
      simp only [Supervisor.rouse, h.watchdog, hkept.isOpen, ho, Bool.false_eq_true, if_false]
    rw [hrouse]
    refine ⟨phase_expire h.untouched hcalled (hnow ▸ hfirst), ?_⟩
    simp [(c.supervisor.expire_eq call x.state).2.2.2]
  · have hrouse : c.supervisor.rouse x.state =
        { x.state with
          watchdog := .polling (c.state.now + m * c.supervisor.settings.period) } := by
      simp only [Supervisor.rouse, h.watchdog, hkept.isOpen, ho, Bool.false_eq_true, if_false]
    rw [hrouse]
    have hnow := Nat.le_trans h.now (Polling.pollAt_mono hm)
    refine ⟨.polling m (h.later hm (fun j hj hjm => ?_) rfl hnow rfl rfl), by simp⟩
    exact hquiet j hj (.inl hjm)

theorem Kept.rouse (hkept : c.Kept x) (h : c.Phase x.state)
    (hw : x.task.Waits x.state.called) (hnoticed : x.state.watchdog.hasEnded = false) :
    c.Phase (c.supervisor.rouse x.state) ∧
      (c.supervisor.rouse x.state).watchdog ≠ .fresh := by
  rcases h.of_noticed hnoticed with ⟨hfresh, hnow, hu⟩ | ⟨n, hp⟩ | ⟨hnone, hs⟩
  · exact phase_rouse_of_fresh hfresh hkept.isOpen hnow hu
  · exact hp.rouse hkept hw
  · have hrouse : c.supervisor.rouse x.state = x.state := by
      simp only [Supervisor.rouse, hnone]
    rw [hrouse, hnone]
    exact ⟨.alone hnone hs, by simp⟩

/-- The watchdog has come to the first overdue look before anybody else went on. -/
structure Expired (c : Course σ) (x : Session σ) (s : Supervision σ) : Prop where
  kept : c.Kept { x with state := s }
  phase : c.Phase s
  ended : s.watchdog.hasEnded = true

/-- The watchdog has polled for as long as nobody else goes on, and has found nothing. -/
structure Calm (c : Course σ) (x : Session σ) (s : Supervision σ) : Prop where
  unmoved : x.state.Unmoved s
  noticed : s.watchdog.hasEnded = false
  phase : ∀ l, x.task.target? = some l → c.Phase (Supervisor.callAt (max s.now l) s)
  settled : x.task.target? = none → c.Settled x.state

/-- Polling comes to the first overdue look, or there is none as long as nobody goes on. -/
theorem Polls.poll {n : Nat} (h : c.Polls n x.state) (hkept : c.Kept x)
    (hw : x.task.Waits x.state.called) :
    c.Expired x (c.supervisor.poll x.task.target? x.state) ∨
      c.Calm x (c.supervisor.poll x.task.target? x.state) := by
  have hpolled := Polling.before_polled c.supervisor.settings x.state.timers x.task.target?
    c.state.now n x.state.now h.now
  rcases h.outcome hkept hw (fun i hi => hi) hpolled with
    ⟨m, call, ho, hm, hbelow, hfirst⟩ | ⟨m, ho, hm, hreached, hquiet⟩
  · have hnow : x.state.now ≤ c.tick m := Nat.le_trans h.now (Polling.pollAt_mono hm)
    have hpoll : c.supervisor.poll x.task.target? x.state =
        c.supervisor.expire call (Supervisor.callAt (c.tick m) x.state) := by
      simp only [Supervisor.poll, h.watchdog, ho]
    rw [hpoll]
    refine .inl ⟨?_, phase_expire_callAt h.untouched (Nat.le_trans hkept.called hnow) hfirst, ?_⟩
    · have hmoved := hkept.callAt hw hnow fun l hl => Nat.le_of_lt (hbelow l hl)
      exact hmoved.unmoved (unmoved_expire c.supervisor call _)
    · rw [(c.supervisor.expire_eq call _).2.2.2]
      rfl
  · have hpoll : c.supervisor.poll x.task.target? x.state =
        { x.state with
          watchdog := .polling (c.state.now + m * c.supervisor.settings.period) } := by
      simp only [Supervisor.poll, h.watchdog, ho]
    rw [hpoll]
    refine .inr ⟨⟨rfl, rfl, rfl, rfl⟩, rfl, fun l hl => ?_, fun hnone => ?_⟩
    · have hnow : max x.state.now l ≤ c.tick m :=
        Nat.max_le.mpr ⟨Nat.le_trans h.now (Polling.pollAt_mono hm), hreached l hl⟩
      exact .polling m (h.later hm (fun j hj hjm => hquiet j hj (.inl hjm)) rfl hnow rfl rfl)
    · -- nobody ever goes on, so that all polls there are have been made
      refine .quiet (fun i hi => ?_) h.untouched
      obtain ⟨j, hj, rfl⟩ := hi.isTick
      exact hquiet j hj (.inr hnone)

theorem Kept.poll (hkept : c.Kept x) (h : c.Phase x.state) (hw : x.task.Waits x.state.called)
    (hfresh : x.state.watchdog ≠ .fresh) (hnoticed : x.state.watchdog.hasEnded = false) :
    c.Expired x (c.supervisor.poll x.task.target? x.state) ∨
      c.Calm x (c.supervisor.poll x.task.target? x.state) := by
  rcases h.of_noticed hnoticed with ⟨hfresh', _, _⟩ | ⟨n, hp⟩ | ⟨hnone, hs⟩
  · exact absurd hfresh' hfresh
  · exact hp.poll hkept hw
  · have hpoll : c.supervisor.poll x.task.target? x.state = x.state := by
      simp only [Supervisor.poll, hnone]
    rw [hpoll]
    exact .inr ⟨⟨rfl, rfl, rfl, rfl⟩, hnoticed, fun l _ => .alone hnone (hs.congr rfl rfl),
      fun _ => hs⟩

/-! ## What the run makes of it -/

theorem unmoved_attend (sv : Supervisor σ) (s : Supervision σ) : s.Unmoved (sv.attend s).2 := by
  unfold Supervisor.attend
  split
  · simp only
    split <;> exact ⟨rfl, rfl, rfl, rfl⟩
  all_goals exact ⟨rfl, rfl, rfl, rfl⟩

/-- The run is cancelled because of the first overdue look. -/
structure Cancels (c : Course σ) (call : DestinationCall) (d : Nat) (s : Supervision σ) :
    Prop where
  first : c.FirstOverdue call d
  flag : c.evaluation.1 = .ok true
  timeouts : s.timeouts = c.charged call
  flags : s.flags = c.evaluation.2

/-- A failed evaluation does not fail the sync. -/
theorem valueOrDefault_eq_true (r : Except FlagEvaluationError Bool) :
    FlagClient.valueOrDefault .failSyncOnDestinationTimeout r = true ↔ r = .ok true := by
  cases r with
  | ok value => simp [FlagClient.valueOrDefault]
  | error e => simp [FlagClient.valueOrDefault, Flag.default_eq_false]

/-- Taking notice of an overdue call asks the flag. -/
theorem Phase.attend (h : c.Phase s) :
    ((c.supervisor.attend s).1 = none ∧ c.Phase (c.supervisor.attend s).2) ∨
      ∃ call, (c.supervisor.attend s).1 = some call ∧ s.called = s.now ∧
        c.Cancels call s.now (c.supervisor.attend s).2 := by
  cases h with
  | fresh hw hnow hu =>
      have hattend : c.supervisor.attend s = (none, s) := by simp only [Supervisor.attend, hw]
      rw [hattend]
      exact .inl ⟨rfl, .fresh hw hnow hu⟩
  | polling n hp =>
      have hattend : c.supervisor.attend s = (none, s) := by
        simp only [Supervisor.attend, hp.watchdog]
      rw [hattend]
      exact .inl ⟨rfl, .polling n hp⟩
  | overdue call hw hcalled hfirst ht hflags =>
      have hresult : c.supervisor.client.evaluate .failSyncOnDestinationTimeout
          c.supervisor.context s.flags = c.evaluation := by
        rw [hflags, evaluation]
      simp only [Supervisor.attend, hw, FlagClient.evaluateOrDefault, hresult]
      split
      · rename_i hvalue
        exact .inr ⟨call, rfl, hcalled, hfirst, (valueOrDefault_eq_true _).mp hvalue, ht, rfl⟩
      · rename_i hvalue
        have hflag : c.evaluation.1 ≠ .ok true := fun h =>
          hvalue ((valueOrDefault_eq_true _).mpr h)
        exact .inl ⟨rfl, .alone rfl (.tolerated call s.now hfirst hflag ht rfl)⟩
  | failed hw hs =>
      simp only [Supervisor.attend, hw]
      exact .inl ⟨trivial, .alone rfl (hs.congr rfl rfl)⟩
  | alone hw hs =>
      have hattend : c.supervisor.attend s = (none, s) := by simp only [Supervisor.attend, hw]
      rw [hattend]
      exact .inl ⟨rfl, .alone hw hs⟩

end Course

end SyncLedger
