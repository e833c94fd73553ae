import SyncLedger.Timeout.Weight

/-!
# Turns

A turn does not make a session heavier, and after it whoever has not ended waits for
something that is not there. The run and the closer are looked at separately first.
-/

namespace SyncLedger.Supervisor

variable {σ : Type}

/-! ## The run -/

/-- What a part of the turn of a run leaves as it was, and what it uses up. -/
structure RunActed (x y : Session σ) : Prop where
  called : y.state.called = x.state.called
  alive : y.state.hasLiveWatchdog = x.state.hasLiveWatchdog
  closer : y.closer = x.closer
  abandonAt : y.abandonAt = x.abandonAt
  weight : y.task.weight x.state.called + y.state.weight ≤
    x.task.weight x.state.called + x.state.weight

/-- After the whole turn of a run, a run that has not ended waits for something that is
not there. -/
structure RunTurned (x y : Session σ) : Prop extends RunActed x y where
  noticed : y.outcome = none → y.state.watchdog.hasEnded = false
  waits : y.outcome = none → ∀ hold steps, y.task = .holding hold steps →
    hold.isOver y.state = false
  kept : y.outcome = none → hasCome y.abandonAt y.state.called = false

theorem RunActed.trans {x y z : Session σ} (h : RunActed x y) (h' : RunActed y z) :
    RunActed x z := by
  refine ⟨h'.called.trans h.called, h'.alive.trans h.alive, h'.closer.trans h.closer,
    h'.abandonAt.trans h.abandonAt, Nat.le_trans ?_ h.weight⟩
  rw [← h.called]
  exact h'.weight

/-- A run that has ended waits for nothing. -/
theorem RunActed.turned_of_ended {x y : Session σ} (h : RunActed x y) (ho : y.outcome ≠ none) :
    RunTurned x y :=
  ⟨h, fun hn => absurd hn ho, fun hn => absurd hn ho, fun hn => absurd hn ho⟩

theorem runActed_of_acted {x : Session σ} {s : Supervision σ} (h : Acted x.state s) :
    RunActed x { x with state := s } :=
  ⟨h.called, h.alive, rfl, rfl, Nat.add_le_add_left h.weight _⟩

theorem finish_runActed (x : Session σ) (result : Except Interruption Unit) :
    RunActed x (x.finish result) :=
  have h := runActed_of_acted (endRun_acted x.state)
  ⟨h.called, h.alive, rfl, rfl, h.weight⟩

theorem goOn_runActed (sv : Supervisor σ) (x : Session σ) : RunActed x (sv.goOn x) :=
  have h := sv.resume_advanced x.task x.state
  ⟨h.called, h.alive, rfl, rfl, h.weight⟩

/-- Settling ends a run or finds that it goes on waiting. -/
theorem settle_runTurned {x y : Session σ} (h : RunActed x y)
    (noticed : y.task ≠ .finished → y.state.watchdog.hasEnded = false)
    (waits : ∀ hold steps, y.task = .holding hold steps → hold.isOver y.state = false) :
    RunTurned x y.settle := by
  unfold Session.settle
  split
  · exact (h.trans (finish_runActed y _)).turned_of_ended (by simp [Session.finish])
  · rename_i hf
    split
    · exact (h.trans (finish_runActed y _)).turned_of_ended (by simp [Session.finish])
    · rename_i hc
      exact ⟨h, fun _ => noticed hf, fun _ => waits, fun _ => by simpa using hc⟩

theorem heed_runTurned {sv : Supervisor σ} {x y : Session σ} (h : RunActed x y) :
    RunTurned x (sv.heed y) := by
  have ha := h.trans (runActed_of_acted (sv.attend_acted y.state))
  unfold heed
  simp only
  split
  · exact (ha.trans (finish_runActed _ _)).turned_of_ended (by simp [Session.finish])
  · have hr := sv.resume_advanced y.task (sv.attend y.state).2
    refine settle_runTurned (ha.trans (goOn_runActed sv _)) (fun _ => ?_) hr.waits
    exact (congrArg Watchdog.hasEnded hr.watchdog).trans (sv.hasEnded_attend y.state)

theorem runTurn_runTurned (sv : Supervisor σ) (x : Session σ) : RunTurned x (sv.runTurn x) := by
  have h := sv.goOn_runActed x
  unfold runTurn
  split
  · rename_i ho
    exact (RunActed.mk rfl rfl rfl rfl (Nat.le_refl _)).turned_of_ended
      fun hn => by simp [hn] at ho
  · simp only
    split
    · exact heed_runTurned h
    · rename_i he
      refine settle_runTurned h (fun hf => ?_) (sv.resume_advanced x.task x.state).waits
      simpa [hf] using he

/-! ## The closer -/

/-- What the turn of a closer leaves as it was, what it uses up, and that a closer who is
not done waits for something that is not there. -/
structure CloserTurned (x y : Session σ) : Prop where
  same : SameWatch x.state y.state
  task : y.task = x.task
  outcome : y.outcome = x.outcome
  abandonAt : y.abandonAt = x.abandonAt
  weight : y.closer.weight x.state.called ≤ x.closer.weight x.state.called
  sleeps : ∀ instant, y.closer = .waiting instant → ¬instant ≤ x.state.called
  waits : y.closer = .closing → x.state.hasLiveWatchdog = true

theorem instantWeight_le_one (instant called : Nat) : instantWeight instant called ≤ 1 := by
  unfold instantWeight
  split <;> omega

/-- Closing in time takes up the waiting for the instant. -/
theorem closeAt_closerTurned (sv : Supervisor σ) (instant : Nat) (x : Session σ)
    (h : 1 + instantWeight instant x.state.called ≤ x.closer.weight x.state.called) :
    CloserTurned x
      { x with
        closer := (sv.closeAt instant x.state).1
        state := (sv.closeAt instant x.state).2 } := by
  unfold closeAt
  split
  · refine ⟨sv.tellToStop_sameWatch _, rfl, rfl, rfl, ?_, fun i hi => ?_, fun hc => ?_⟩
    · refine Nat.le_trans ?_ (Nat.le_trans (Nat.le_add_right 1 _) h)
      change Closer.weight _ (if _ then _ else _) ≤ 1
      split <;> simp [Closer.weight]
    · simp only at hi
      split at hi <;> cases hi
    · simp only at hc
      split at hc
      · rename_i hw
        simp only [closingWaits, Bool.and_eq_true] at hw
        exact hw.1.2
      · cases hc
  · rename_i hi
    exact ⟨.refl _, rfl, rfl, rfl, h, fun i he => by cases he; exact hi, fun hc => by cases hc⟩

theorem closerTurn_closerTurned (sv : Supervisor σ) (x : Session σ) :
    CloserTurned x (sv.closerTurn x) := by
  unfold closerTurn act
  split
  · rename_i delay h
    have := instantWeight_le_one (x.state.now + delay) x.state.called
    exact sv.closeAt_closerTurned _ x (by simp only [h, Closer.weight]; omega)
  · rename_i instant h
    exact sv.closeAt_closerTurned _ x (by simp [h, Closer.weight])
  · rename_i h
    refine ⟨.refl _, rfl, rfl, rfl, ?_, fun i hi => ?_, fun hc => ?_⟩
    · simp only [h]
      split <;> simp [Closer.weight]
    · simp only at hi
      split at hi <;> cases hi
    · simp only at hc
      split at hc
      · assumption
      · cases hc
  all_goals
    rename_i h
    exact ⟨.refl _, rfl, rfl, rfl, by simp [h], by simp, by simp⟩

/-! ## A turn of both -/

/-- What a turn leaves as it was, what it uses up, and that whoever has not ended waits
for something that is not there. -/
structure Turned (x y : Session σ) : Prop where
  weight : y.weight ≤ x.weight
  noticed : y.outcome = none → y.state.watchdog.hasEnded = false
  waits : y.outcome = none → ∀ hold steps, y.task = .holding hold steps →
    hold.isOver y.state = false
  kept : y.outcome = none → hasCome y.abandonAt y.state.called = false
  sleeps : ∀ instant, y.closer = .waiting instant → ¬instant ≤ y.state.called
  closes : y.closer = .closing → y.state.hasLiveWatchdog = true

theorem weight_eq (x : Session σ) :
    x.weight = x.task.weight x.state.called + x.closer.weight x.state.called + x.abandonWeight +
      x.state.weight := rfl

theorem turned_of_runTurned {x y z : Session σ} (h : RunTurned x y) (h' : CloserTurned y z) :
    Turned x z := by
  have hc : z.state.called = x.state.called := h'.same.called.trans h.called
  have ha : z.abandonWeight = x.abandonWeight := by
    simp [Session.abandonWeight, h'.abandonAt, h.abandonAt, hc]
  have hcl := h'.weight
  rw [h.called, h.closer] at hcl
  have hl := h'.same.hasLiveWatchdog
  refine ⟨?_, fun ho => ?_, fun ho hold steps ht => ?_, fun ho => ?_, fun i hi => ?_,
    fun hi => ?_⟩
  · have := h.weight
    rw [weight_eq, weight_eq, hc, ha, h'.task, h'.same.weight]
    omega
  · rw [h'.same.watchdog]
    exact h.noticed (h'.outcome ▸ ho)
  · rw [isOver_congr h'.same.called hl]
    exact h.waits (h'.outcome ▸ ho) hold steps (h'.task ▸ ht)
  · rw [h'.abandonAt, h'.same.called]
    exact h.kept (h'.outcome ▸ ho)
  · rw [h'.same.called]
    exact h'.sleeps i hi
  · rw [hl]
    exact h'.waits hi

theorem turned_of_closerTurned {x y z : Session σ} (h : CloserTurned x y) (h' : RunTurned y z) :
    Turned x z := by
  have hc : z.state.called = x.state.called := h'.called.trans h.same.called
  have ha : z.abandonWeight = x.abandonWeight := by
    simp [Session.abandonWeight, h'.abandonAt, h.abandonAt, hc]
  have hcl := h.weight
  refine ⟨?_, h'.noticed, h'.waits, h'.kept, fun i hi => ?_, fun hi => ?_⟩
  · have := h'.weight
    rw [h.same.called, h.task, h.same.weight] at this
    rw [weight_eq, weight_eq, hc, ha, h'.closer]
    omega
  · rw [hc]
    exact h.sleeps i (h'.closer ▸ hi)
  · rw [h'.alive, h.same.hasLiveWatchdog]
    exact h.waits (h'.closer ▸ hi)

theorem turn_turned (sv : Supervisor σ) (x : Session σ) : Turned x (sv.turn x) := by
  have h : Turned x (if x.isCloserFirst then sv.runTurn (sv.closerTurn x)
      else sv.closerTurn (sv.runTurn x)) := by
    split
    · exact turned_of_closerTurned (sv.closerTurn_closerTurned x) (sv.runTurn_runTurned _)
    · exact turned_of_runTurned (sv.runTurn_runTurned x) (sv.closerTurn_closerTurned _)
  exact ⟨h.weight, h.noticed, h.waits, h.kept, h.sleeps, h.closes⟩

end SyncLedger.Supervisor
