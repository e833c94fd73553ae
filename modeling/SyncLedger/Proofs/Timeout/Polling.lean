import SyncLedger.Timeout.Polling

/-!
# When a watchdog polls

As long as the process is not held up no poll is missed: the polls of a watchdog that begins
at an instant come a period apart, each at the first whole millisecond at or after its due
instant. `Polled` says what came of polling: either some poll is the first to find that a
call takes too long, or none before the limit does.
-/

namespace SyncLedger

/-- A call takes too long exactly after the limit of the timers. -/
theorem Timers.timedOut?_eq_none_iff (ts : Timers) (timeout now : Nat) :
    ts.timedOut? timeout now = none ↔ ∀ limit, ts.limit? timeout = some limit → now ≤ limit := by
  have hover : ∀ t : CallTimer, t.isOver timeout now = true ↔
      ∃ limit, t.limit? timeout = some limit ∧ limit < now := fun t =>
    t.isOver_iff_limit timeout now
  have haccept := hover ts.accept
  have hnotify := hover ts.notifyEndOfInput
  rw [timedOut?, limit?, List.find?_eq_none]
  simp only [DestinationCall.all, List.mem_cons, List.not_mem_nil, or_false, forall_eq_or_imp,
    forall_eq, timer, haccept, hnotify]
  cases ts.accept.limit? timeout with
  | none =>
      cases ts.notifyEndOfInput.limit? timeout with
      | none => simp
      | some b => simp
  | some a =>
      cases ts.notifyEndOfInput.limit? timeout with
      | none => simp
      | some b =>
          simp only [Option.some.injEq, forall_eq', Nat.not_lt, exists_eq_left']
          exact Nat.le_min.symm

namespace Polling

variable {s : TimeoutSettings} {timers : Timers} {start n now : Nat}

/-- The instant of the `n`-th poll of a watchdog that begins at an instant. -/
def pollAt (s : TimeoutSettings) (start n : Nat) : Nat := wakeUp (start + n * s.period)

theorem wakeUp_mono {a b : Nat} (h : a ≤ b) : wakeUp a ≤ wakeUp b := by
  simp only [wakeUp]
  exact Nat.mul_le_mul_right _ (Nat.div_le_div_right (Nat.add_le_add_right h _))

/-- At whole milliseconds nobody has to wait for the next one. -/
theorem wakeUp_of_dvd {instant : Nat} (h : Duration.perMillisecond ∣ instant) :
    wakeUp instant = instant := by
  obtain ⟨millis, rfl⟩ := h
  simp only [wakeUp, Duration.perMillisecond]
  omega

theorem pollAt_mono {m : Nat} (h : n ≤ m) : pollAt s start n ≤ pollAt s start m :=
  wakeUp_mono (Nat.add_le_add_left (Nat.mul_le_mul_right _ h) _)

theorem pollAt_lt_succ (s : TimeoutSettings) (start n : Nat) :
    pollAt s start n < pollAt s start (n + 1) := by
  have hperiod := s.perMillisecond_le_period
  have hdue : start + (n + 1) * s.period = start + n * s.period + s.period := by
    rw [Nat.succ_mul, Nat.add_assoc]
  rw [pollAt, pollAt, hdue]
  generalize start + n * s.period = due
  simp only [wakeUp, Duration.perMillisecond] at hperiod ⊢
  omega

theorem lt_of_pollAt_lt {m : Nat} (h : pollAt s start n < pollAt s start m) : n < m := by
  refine Nat.lt_of_not_le fun hle => ?_
  exact Nat.not_lt.mpr (pollAt_mono hle) h

theorem due_succ (s : TimeoutSettings) (start n : Nat) :
    start + n * s.period + s.period = start + (n + 1) * s.period := by
  rw [Nat.add_assoc, Nat.succ_mul]

theorem comesAt_of_le {due : Nat} (h : now ≤ wakeUp due) : comesAt now due = wakeUp due :=
  Nat.max_eq_right h

/-- A poll that comes when it is due is followed by one a period later. -/
theorem nextDue_wakeUp (period due : Nat) : nextDue period due (wakeUp due) = due + period := by
  have hlate := wakeUp_lt due
  rw [nextDue, if_pos]
  rw [tolerance]
  omega

/-- The `n`-th poll comes before the limit, if there is one, and finds nothing. -/
structure Passes (s : TimeoutSettings) (timers : Timers) (start : Nat) (limit : Option Nat)
    (n : Nat) : Prop where
  below : ∀ l, limit = some l → pollAt s start n < l
  nothing : timers.timedOut? s.timeout.nanos (pollAt s start n) = none

/-- What comes of polling from the `n`-th poll on, before a limit if there is one. -/
inductive Polled (s : TimeoutSettings) (timers : Timers) (start n : Nat) (limit : Option Nat) :
    Outcome → Prop where
  /-- The `m`-th poll is the first that finds something. -/
  | timedOut (m : Nat) (call : DestinationCall) (hm : n ≤ m)
      (hbelow : ∀ l, limit = some l → pollAt s start m < l)
      (hfound : timers.timedOut? s.timeout.nanos (pollAt s start m) = some call)
      (hbefore : ∀ j, n ≤ j → j < m → Passes s timers start limit j) :
      Polled s timers start n limit (.timedOut call (pollAt s start m))
  /-- No poll before the limit finds anything, and the `m`-th one is the next. -/
  | waiting (m : Nat) (hm : n ≤ m) (hreached : ∀ l, limit = some l → l ≤ pollAt s start m)
      (hbefore : ∀ j, n ≤ j → (j < m ∨ limit = none) → Passes s timers start limit j) :
      Polled s timers start n limit (.waiting (start + m * s.period))

theorem Polled.stop {limit : Nat} (h : limit ≤ pollAt s start n) :
    Polled s timers start n (some limit) (.waiting (start + n * s.period)) := by
  refine .waiting n (Nat.le_refl n) (fun l hl => ?_) fun j hj hjn => ?_
  · obtain rfl := Option.some.inj hl
    exact h
  · rcases hjn with hjn | hjn
    · exact absurd hjn (Nat.not_lt.mpr hj)
    · cases hjn

theorem Polled.found {limit : Option Nat} {call : DestinationCall}
    (h : ∀ l, limit = some l → pollAt s start n < l)
    (hfound : timers.timedOut? s.timeout.nanos (pollAt s start n) = some call) :
    Polled s timers start n limit (.timedOut call (pollAt s start n)) := by
  refine .timedOut n call (Nat.le_refl n) h hfound fun j hj hjn => ?_
  exact absurd hjn (Nat.not_lt.mpr hj)

theorem Polled.cons {limit : Option Nat} {o : Outcome} (hpass : Passes s timers start limit n)
    (h : Polled s timers start (n + 1) limit o) : Polled s timers start n limit o := by
  have hextend : ∀ {p : Nat → Prop},
      (∀ j, n + 1 ≤ j → p j → Passes s timers start limit j) →
      ∀ j, n ≤ j → p j → Passes s timers start limit j := by
    intro p hp j hj hpj
    rcases Nat.eq_or_lt_of_le hj with rfl | hj
    · exact hpass
    · exact hp j hj hpj
  cases h with
  | timedOut m call hm hbelow hfound hbefore =>
      exact .timedOut m call (Nat.le_of_succ_le hm) hbelow hfound (hextend hbefore)
  | waiting m hm hreached hbefore =>
      exact .waiting m (Nat.le_of_succ_le hm) hreached (hextend hbefore)

theorem lt_of_eq_some {limit instant : Nat} (h : ¬limit ≤ instant) :
    ∀ l, some limit = some l → instant < l := by
  intro l hl
  obtain rfl := Option.some.inj hl
  exact Nat.lt_of_not_le h

theorem upTo_polled (s : TimeoutSettings) (timers : Timers) (start limit n now : Nat)
    (h : now ≤ pollAt s start n) :
    Polled s timers start n (some limit) (upTo s timers limit now (start + n * s.period)) := by
  induction hleft : limit - (start + n * s.period) using Nat.strongRecOn generalizing n now with
  | ind left ih =>
    subst hleft
    rw [upTo, comesAt_of_le h]
    split
    · rename_i hlimit
      exact .stop hlimit
    · rename_i hlimit
      have hbelow : ∀ l, some limit = some l → pollAt s start n < l := lt_of_eq_some hlimit
      split
      · rename_i call hfound
        exact .found hbelow hfound
      · rename_i hnone
        have hdue := le_wakeUp (start + n * s.period)
        have hperiod := s.period_pos
        rw [nextDue_wakeUp, due_succ]
        refine Polled.cons ⟨hbelow, hnone⟩ (ih _ ?_ (n + 1) _ (pollAt_mono (Nat.le_succ n)) rfl)
        rw [← due_succ]
        omega

/-- Polls without end find something unless no call is being timed. -/
theorem forever_polled (s : TimeoutSettings) (timers : Timers) (start n now : Nat)
    (h : now ≤ pollAt s start n) :
    Polled s timers start n none (forever s timers now (start + n * s.period)) := by
  have hbelow : ∀ instant l : Nat, none = some l → instant < l := by simp
  rw [forever, horizon?]
  cases hlimit : timers.limit? s.timeout.nanos with
  | none =>
      refine .waiting n (Nat.le_refl n) (by simp) fun j _ _ => ⟨hbelow _, ?_⟩
      simp [Timers.timedOut?_eq_none_iff, hlimit]
  | some limit =>
      have hpolled := upTo_polled s timers start (max (max now (start + n * s.period)) limit +
        s.period + 2 * Duration.perMillisecond) n now h
      simp only [Option.map_some]
      generalize upTo s timers _ now (start + n * s.period) = o at hpolled ⊢
      cases hpolled with
      | timedOut m call hm _ hfound hbefore =>
          refine .timedOut m call hm (hbelow _) hfound fun j hj hjm => ?_
          exact ⟨hbelow _, (hbefore j hj hjm).nothing⟩
      | waiting m hm hhorizon hbefore =>
          -- the poll before the horizon would have found a call that takes too long
          exfalso
          have hreached := hhorizon _ rfl
          have hlate := wakeUp_lt (start + m * s.period)
          have hm' : n < m := by
            rcases Nat.eq_or_lt_of_le hm with rfl | hm'
            · rw [pollAt] at hreached
              omega
            · exact hm'
          obtain ⟨j, rfl⟩ : ∃ j, m = j + 1 := ⟨m - 1, by omega⟩
          have hnone := (hbefore j (Nat.le_of_lt_succ hm') (.inl (Nat.lt_succ_self j))).nothing
          have hsoon := (timers.timedOut?_eq_none_iff _ _).mp hnone limit hlimit
          have hdue := le_wakeUp (start + j * s.period)
          rw [pollAt] at hreached hsoon
          rw [← due_succ] at hreached hlate
          omega

theorem before_polled (s : TimeoutSettings) (timers : Timers) (limit : Option Nat)
    (start n now : Nat) (h : now ≤ pollAt s start n) :
    Polled s timers start n limit (before s timers limit now (start + n * s.period)) := by
  cases limit with
  | none => exact forever_polled s timers start n now h
  | some limit => exact upTo_polled s timers start limit n now h

/-- Polls for which the watchdog was called in time: at most one comes now. -/
theorem catchUp_polled (s : TimeoutSettings) (timers : Timers) (start n called now : Nat)
    (hcalled : called ≤ now) (h : now ≤ pollAt s start n) :
    Polled s timers start n (some (called + 1))
      (catchUp s timers called now (start + n * s.period)) := by
  rw [catchUp]
  split
  · rename_i hearly
    exact .stop hearly
  · rename_i hcome
    -- the poll comes at the instant that everybody was called for
    have hpoll : now = pollAt s start n :=
      Nat.le_antisymm h (Nat.le_trans (Nat.le_of_not_lt hcome) hcalled)
    obtain rfl : called = now := Nat.le_antisymm hcalled (hpoll ▸ Nat.le_of_not_lt hcome)
    have hbelow : ∀ l, some (pollAt s start n + 1) = some l → pollAt s start n < l :=
      lt_of_eq_some (Nat.not_le.mpr (Nat.lt_succ_self _))
    split
    · rename_i call hfound
      rw [hpoll] at hfound ⊢
      exact .found hbelow hfound
    · rename_i hnone
      have hnext : pollAt s start n < wakeUp (start + (n + 1) * s.period) :=
        pollAt_lt_succ s start n
      rw [hpoll] at hnone ⊢
      rw [pollAt, nextDue_wakeUp, due_succ, catchUp, ← pollAt, dif_pos hnext]
      exact Polled.cons ⟨hbelow, hnone⟩ (.stop hnext)

end Polling

end SyncLedger
