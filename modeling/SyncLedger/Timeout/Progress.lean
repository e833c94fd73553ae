import SyncLedger.Timeout.Turns

/-!
# The course of a session

Every turn makes a session lighter, so turns can be taken until nobody has anything left
to do, or until it turns out that somebody waits for something that never happens: the
watchdogs have gone on, or a task stood back, or an instant has come that was waited for.
-/

namespace SyncLedger.Supervisor

variable {σ : Type}

/-! ## The watchdogs -/

/-- What the watchdogs use up. If all of them end, or the end of one is to be noticed,
they use up something. -/
structure Watched (s t : Supervision σ) : Prop where
  called : s.called ≤ t.called
  stoodBack : t.stoodBack = true → s.stoodBack = true
  weight : t.weight ≤ s.weight
  ceased : s.hasLiveWatchdog = true → t.hasLiveWatchdog = false → t.weight < s.weight
  ended : s.watchdog.hasEnded = false → t.watchdog.hasEnded = true → t.weight < s.weight

theorem expire_eq (sv : Supervisor σ) (call : DestinationCall) (s : Supervision σ) :
    (sv.expire call s).called = s.called ∧ (sv.expire call s).stoodBack = s.stoodBack ∧
      (sv.expire call s).stopping = s.stopping ∧
      (sv.expire call s).watchdog = .ended (.timedOut call) := by
  unfold expire
  by_cases h : sv.metered = true <;> cases call <;> simp [h, Supervision.count, Supervision.log]

/-- Only the watchdog of the current run has gone on: it is what it was, or nearer to its
end, or it still polls. -/
theorem watched_of_stopping {s t : Supervision σ} (hc : s.called ≤ t.called)
    (hb : t.stoodBack = true → s.stoodBack = true) (hs : t.stopping = s.stopping)
    (hw : t.watchdog = s.watchdog ∨ t.watchdog.weight < s.watchdog.weight ∨
      s.watchdog.weight = 2 ∧ t.watchdog.weight = 2) : Watched s t := by
  have hle : t.watchdog.weight ≤ s.watchdog.weight := by
    rcases hw with hw | hw | hw
    · exact Nat.le_of_eq (congrArg Watchdog.weight hw)
    · exact Nat.le_of_lt hw
    · exact Nat.le_of_eq (hw.2.trans hw.1.symm)
  have hn : t.stoodBack.toNat ≤ s.stoodBack.toNat := by
    cases ht : t.stoodBack with
    | true => simp [hb ht]
    | false => simp
  have hlt : t.watchdog.weight < s.watchdog.weight → t.weight < s.weight := fun h => by
    simp only [Supervision.weight, hs]
    omega
  have hkind : ∀ v w : Watchdog, v.weight = w.weight →
      v.isAlive = w.isAlive ∧ v.hasEnded = w.hasEnded := fun v w => by
    cases v <;> cases w <;> simp [Watchdog.weight, Watchdog.isAlive, Watchdog.hasEnded]
  refine ⟨hc, hb, ?_, fun hl hd => hlt ?_, fun he hf => hlt ?_⟩
  · simp only [Supervision.weight, hs]
    omega
  · refine Nat.lt_of_le_of_ne hle fun h => ?_
    simp only [Supervision.hasLiveWatchdog, hs, (hkind _ _ h).1] at hl hd
    rw [hl] at hd
    cases hd
  · refine Nat.lt_of_le_of_ne hle fun h => ?_
    rw [(hkind _ _ h).2, he] at hf
    cases hf

theorem rouse_watched (sv : Supervisor σ) (s : Supervision σ) : Watched s (sv.rouse s) := by
  unfold rouse
  split
  · rename_i h
    split
    · exact watched_of_stopping (Nat.le_refl _) id rfl (.inr (.inl (by simp [h, Watchdog.weight])))
    · split
      · exact watched_of_stopping (Nat.le_refl _) id rfl
          (.inr (.inl (by simp [h, halt, Watchdog.weight])))
      · exact watched_of_stopping (Nat.le_refl _) id rfl
          (.inr (.inl (by simp [h, Watchdog.weight])))
  · rename_i h
    split
    · exact watched_of_stopping (Nat.le_refl _) id rfl
        (.inr (.inl (by simp [h, halt, Watchdog.weight])))
    · split
      · rename_i call _ _
        obtain ⟨hc, hb, hs, hw⟩ := sv.expire_eq call s
        exact watched_of_stopping (Nat.le_of_eq hc.symm) (hb ▸ id) hs
          (.inr (.inl (by simp [h, hw, Watchdog.weight])))
      · exact watched_of_stopping (Nat.le_refl _) id rfl
          (.inr (.inr (by simp [h, Watchdog.weight])))
  all_goals exact watched_of_stopping (Nat.le_refl _) id rfl (.inl rfl)

theorem endStopping_watched (sv : Supervisor σ) (s : Supervision σ) :
    Watched s (sv.endStopping s) := by
  have hw : (sv.endStopping s).weight = s.watchdog.weight + s.stoodBack.toNat := rfl
  refine ⟨Nat.le_refl _, id, ?_, fun hl hd => ?_, fun he hf => ?_⟩
  · rw [hw, Supervision.weight]
    omega
  · simp only [Supervision.hasLiveWatchdog, endStopping, List.isEmpty_nil, Bool.not_true,
      Bool.or_false] at hl hd
    simp only [hd, Bool.false_or, Bool.not_eq_true', List.isEmpty_eq_false_iff] at hl
    have := List.length_pos_iff.mpr hl
    rw [hw, Supervision.weight]
    omega
  · exact absurd (he.symm.trans hf) (by simp)

theorem Watched.trans {s t u : Supervision σ} (h : Watched s t) (h' : Watched t u) :
    Watched s u := by
  refine ⟨Nat.le_trans h.called h'.called, fun hb => h.stoodBack (h'.stoodBack hb),
    Nat.le_trans h'.weight h.weight, fun hl hd => ?_, fun he hf => ?_⟩
  · cases ht : t.hasLiveWatchdog with
    | false => exact Nat.lt_of_le_of_lt h'.weight (h.ceased hl ht)
    | true => exact Nat.lt_of_lt_of_le (h'.ceased ht hd) h.weight
  · cases ht : t.watchdog.hasEnded with
    | true => exact Nat.lt_of_le_of_lt h'.weight (h.ended he ht)
    | false => exact Nat.lt_of_lt_of_le (h'.ended ht hf) h.weight

theorem watch_watched (sv : Supervisor σ) (s : Supervision σ) : Watched s (sv.watch s) :=
  (sv.endStopping_watched s).trans (sv.rouse_watched _)

theorem poll_watched (sv : Supervisor σ) (limit : Option Nat) (s : Supervision σ) :
    Watched s (sv.poll limit s) := by
  unfold poll
  split
  · rename_i h
    split
    · rename_i call instant _
      obtain ⟨hc, hb, hs, hw⟩ := sv.expire_eq call (callAt instant s)
      exact watched_of_stopping (hc ▸ Nat.le_max_left _ _) (fun h => by rw [hb] at h; cases h) hs
        (.inr (.inl (by simp [h, hw, Watchdog.weight])))
    · exact watched_of_stopping (Nat.le_refl _) id rfl (.inr (.inr (by simp [h, Watchdog.weight])))
  all_goals exact watched_of_stopping (Nat.le_refl _) id rfl (.inl rfl)

/-! ## The passing of time -/

theorem instantWeight_mono {instant called later : Nat} (h : called ≤ later) :
    instantWeight instant later ≤ instantWeight instant called := by
  unfold instantWeight
  split
  · exact Nat.zero_le _
  · split
    · omega
    · exact Nat.le_refl _

/-- An instant that has come weighs less than before. -/
theorem instantWeight_lt {instant called later : Nat} (h : ¬instant ≤ called)
    (h' : instant ≤ later) : instantWeight instant later < instantWeight instant called := by
  simp [instantWeight, h, h']

theorem taskWeight_mono {called later : Nat} (h : called ≤ later) (task : TaskState) :
    task.weight later ≤ task.weight called := by
  cases task with
  | holding hold steps =>
    cases hold with
    | moment instant => exact Nat.add_le_add_right (instantWeight_mono h) _
    | _ => exact Nat.le_refl _
  | _ => exact Nat.le_refl _

theorem closerWeight_mono {called later : Nat} (h : called ≤ later) (closer : Closer) :
    closer.weight later ≤ closer.weight called := by
  cases closer with
  | waiting instant => exact Nat.add_le_add_left (instantWeight_mono h) _
  | _ => exact Nat.le_refl _

/-- A session of which only the supervisor has gone on. -/
structure Later (x y : Session σ) : Prop where
  eq : y = { x with state := y.state }
  called : x.state.called ≤ y.state.called
  weight : y.state.weight ≤ x.state.weight

theorem Later.abandonWeight_le {x y : Session σ} (h : Later x y) :
    y.abandonWeight ≤ x.abandonWeight := by
  rw [h.eq]
  unfold Session.abandonWeight
  cases x.abandonAt with
  | none => exact Nat.le_refl _
  | some instant => exact instantWeight_mono h.called

theorem Later.weight_le {x y : Session σ} (h : Later x y) : y.weight ≤ x.weight := by
  have h₁ := taskWeight_mono h.called x.task
  have h₂ := closerWeight_mono h.called x.closer
  have h₃ := h.abandonWeight_le
  have h₄ := h.weight
  rw [h.eq] at h₃
  rw [h.eq]
  simp only [weight_eq]
  omega

theorem Later.trans {x y z : Session σ} (h : Later x y) (h' : Later y z) : Later x z := by
  refine ⟨?_, Nat.le_trans h.called h'.called, Nat.le_trans h'.weight h.weight⟩
  rw [h'.eq, h.eq]

theorem Watched.later {x : Session σ} {s : Supervision σ} (h : Watched x.state s) :
    Later x { x with state := s } :=
  ⟨rfl, h.called, h.weight⟩

theorem callTurn_later (instant : Nat) (x : Session σ) : Later x (callTurn instant x) :=
  ⟨rfl, Nat.le_max_left _ _, Nat.le_add_right _ _⟩

/-- Whoever stood back is called again. -/
theorem weight_callTurn_lt (instant : Nat) {x : Session σ} (h : x.state.stoodBack = true) :
    (callTurn instant x).weight < x.weight := by
  have h₁ := taskWeight_mono (callTurn_later instant x).called x.task
  have h₂ := closerWeight_mono (callTurn_later instant x).called x.closer
  have h₃ := (callTurn_later instant x).abandonWeight_le
  have h₄ : x.state.weight = (callTurn instant x).state.weight + 1 := by
    simp [Supervision.weight, h, callTurn, callAt]
  have h₅ : (callTurn instant x).task = x.task := rfl
  have h₆ : (callTurn instant x).closer = x.closer := rfl
  rw [weight_eq, weight_eq, h₅, h₆]
  omega

theorem le_called_callTurn (instant : Nat) (x : Session σ) :
    instant ≤ (callTurn instant x).state.called :=
  Nat.le_trans (Nat.le_max_right _ _) (Nat.le_max_right _ _)

/-! ## Every turn makes a session lighter -/

theorem eq_some_of_earlier {a b : Option Nat} {i : Nat} (h : earlier a b = some i) :
    a = some i ∨ b = some i := by
  cases a with
  | none => exact .inr h
  | some a =>
    cases b with
    | none => exact .inl h
    | some b =>
      simp only [earlier, Option.some.injEq, ← h]
      omega

theorem eq_of_target? {task : TaskState} {i : Nat} (h : task.target? = some i) :
    ∃ steps, task = .holding (.moment i) steps := by
  unfold TaskState.target? at h
  split at h
  · cases h
    exact ⟨_, rfl⟩
  · cases h

theorem Closer.eq_of_target? {closer : Closer} {i : Nat} (h : closer.target? = some i) :
    closer = .waiting i := by
  cases closer with
  | waiting => simpa [Closer.target?] using h
  | _ => cases h

/-- An instant that was waited for has come. -/
theorem weight_lt_of_instant {x y z : Session σ} {i : Nat} (h : Turned x y) (h' : Later y z)
    (hn : y.nextInstant? = some i) (hi : i ≤ z.state.called) : z.weight < y.weight := by
  have h₁ := taskWeight_mono h'.called y.task
  have h₂ := closerWeight_mono h'.called y.closer
  have h₃ := h'.abandonWeight_le
  have h₄ := h'.weight
  have ht : z.task = y.task := by rw [h'.eq]
  have hc : z.closer = y.closer := by rw [h'.eq]
  rw [weight_eq, weight_eq, ht, hc]
  unfold Session.nextInstant? at hn
  rcases eq_some_of_earlier hn with hn | hn
  · cases ho : y.outcome with
    | some _ => simp [ho] at hn
    | none =>
      simp only [ho, Option.isNone_none, if_true] at hn
      rcases eq_some_of_earlier hn with hn | hn
      · obtain ⟨steps, he⟩ := eq_of_target? hn
        have hl : ¬i ≤ y.state.called := by simpa [Hold.isOver] using h.waits ho _ _ he
        have := instantWeight_lt hl hi
        rw [he]
        simp only [TaskState.weight, Hold.weight]
        omega
      · have hl : ¬i ≤ y.state.called := by simpa [hasCome, hn] using h.kept ho
        have hw : z.abandonWeight < y.abandonWeight := by
          have ha : z.abandonAt = some i := by rw [h'.eq]; exact hn
          simp only [Session.abandonWeight, hn, ha]
          exact instantWeight_lt hl hi
        omega
  · have he := Closer.eq_of_target? hn
    have := instantWeight_lt (h.sleeps i he) hi
    rw [he]
    simp only [Closer.weight]
    omega

/-- Whoever waits for the end of all watchdogs has not seen it. -/
theorem hasLiveWatchdog_of_awaits {x y : Session σ} (h : Turned x y)
    (ha : y.awaitsWatchdogs = true) : y.state.hasLiveWatchdog = true := by
  simp only [Session.awaitsWatchdogs, Bool.or_eq_true, Bool.and_eq_true, decide_eq_true_eq] at ha
  rcases ha with ⟨ho, ht⟩ | hc
  · have ho : y.outcome = none := by simpa using ho
    unfold TaskState.awaitsWatchdogs at ht
    split at ht
    · rename_i he
      simpa [Hold.isOver] using h.waits ho _ _ he
    · cases ht
  · exact h.closes hc

/-- The watchdogs have made somebody go on. -/
theorem weight_lt_of_isRoused {x y : Session σ} {s : Supervision σ} (h : Turned x y)
    (hw : Watched y.state s) (hr : ({ y with state := s } : Session σ).isRoused = true) :
    ({ y with state := s } : Session σ).weight < x.weight := by
  have h₁ := taskWeight_mono hw.called y.task
  have h₂ := closerWeight_mono hw.called y.closer
  have h₃ := hw.later.abandonWeight_le
  have h₄ := h.weight
  suffices s.weight < y.state.weight by
    simp only [weight_eq] at h₄ ⊢
    omega
  simp only [Session.isRoused, Bool.or_eq_true, Bool.and_eq_true] at hr
  rcases hr with ⟨ho, he⟩ | ⟨hs, hl⟩
  · exact hw.ended (h.noticed (by simpa using ho)) he
  · exact hw.ceased (hasLiveWatchdog_of_awaits h hs) (by simpa using hl)

/-- Every turn makes a session lighter. -/
theorem pass?_weight_lt {sv : Supervisor σ} {x z : Session σ}
    (h : sv.pass? (sv.watchTurn (sv.turn x)) = some z) : z.weight < x.weight := by
  have ht := sv.turn_turned x
  have hw := sv.watch_watched (sv.turn x).state
  unfold pass? at h
  split at h
  · rename_i ha
    cases h
    rcases (Bool.or_eq_true _ _).mp ha with hb | hr
    · exact Nat.lt_of_lt_of_le (weight_callTurn_lt _ hb) (Nat.le_trans hw.later.weight_le ht.weight)
    · exact Nat.lt_of_le_of_lt (callTurn_later _ _).weight_le
        (weight_lt_of_isRoused (y := sv.turn x) ht hw hr)
  · simp only at h
    have hp := hw.trans (sv.poll_watched (sv.watchTurn (sv.turn x)).nextInstant? _)
    split at h
    · rename_i ha
      cases h
      exact weight_lt_of_isRoused (y := sv.turn x) ht hp ha
    · obtain ⟨i, hi, rfl⟩ := Option.map_eq_some_iff.mp h
      exact Nat.lt_of_lt_of_le
        (weight_lt_of_instant ht (hp.later.trans (callTurn_later i _)) hi (le_called_callTurn i _))
        ht.weight

end SyncLedger.Supervisor
