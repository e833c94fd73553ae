import SyncLedger.Proofs.Timeout.Conclusion
import SyncLedger.Proofs.Timeout.Verdict

/-!
# Supervision that is interrupted

A run under supervision is interrupted when the supervisor is closed, by whomever, or when the
run is dropped. The watchdog of the run learns of it only when it gets to run again, and the
timers go on all the while. If no timeout was reported before, none is counted from then on,
during the run or after it, and no flag is evaluated; closing does not cancel the task.
-/

namespace SyncLedger

variable {σ : Type}

namespace Supervisor

variable {sv : Supervisor σ} {x y z : Session σ} {s : Supervision σ} {plan : RunPlan}

/-! ## The points that a session comes to -/

/-- The session after one more round; none if it comes to its end. -/
def round? (sv : Supervisor σ) (x : Session σ) : Option (Session σ) :=
  if (sv.turn x).isDone then none else sv.pass? (sv.watchTurn (sv.turn x))

/-- A session comes to a point in some number of rounds. -/
inductive ComesTo (sv : Supervisor σ) (x : Session σ) : Session σ → Prop where
  | start : ComesTo sv x x
  | round {y z : Session σ} (h : ComesTo sv x y) (hz : sv.round? y = some z) : ComesTo sv x z

theorem proceed_of_round? (h : sv.round? x = some y) : sv.proceed x = sv.proceed y := by
  unfold round? at h
  split at h
  · cases h
  · rename_i hdone
    rw [proceed]
    simp only [hdone, Bool.false_eq_true, if_false]
    split
    · rename_i z hz
      rw [Option.some.inj (hz.symm.trans h)]
    · rename_i hnone
      cases hnone.symm.trans h

theorem ComesTo.proceed_eq (h : sv.ComesTo x y) : sv.proceed x = sv.proceed y := by
  induction h with
  | start => rfl
  | round _ hz ih => exact ih.trans (proceed_of_round? hz)

theorem ComesTo.underway (h : sv.ComesTo x y) (hx : x.Underway plan s)
    (hf : x.outcome = none → x.task ≠ .finished) :
    y.Underway plan s ∧ (y.outcome = none → y.task ≠ .finished) := by
  induction h with
  | start => exact ⟨hx, hf⟩
  | round h hz ih =>
      obtain ⟨hturn, hrests⟩ := sv.underway_turn ih.1 ih.2
      unfold round? at hz
      split at hz
      · cases hz
      · exact sv.underway_pass? (sv.underway_watchTurn hturn hrests) (sv.rests_watchTurn hrests) hz

/-! ## After the run -/

/-- Carries out single steps outside of a run, one after the other. -/
def performAll (sv : Supervisor σ) (steps : List TaskStep) (s : Supervision σ) : Supervision σ :=
  steps.foldl (fun s step => sv.perform step s) s

/-- Without a watchdog whatever happens, happens in silence. -/
theorem proceed_ofTask_hushed (sv : Supervisor σ) (steps : List TaskStep)
    (h : s.watchdog = .none) :
    (Session.ofTask steps s).Hushed (sv.proceed (.ofTask steps s)) := by
  have hunreported : (Session.ofTask steps s).state.Unreported := by
    intro call hw
    cases h.symm.trans hw
  exact sv.proceed_hushed hunreported (.inr ((sv.hushed_turn hunreported).alone h))

theorem performAll_quiet (sv : Supervisor σ) (steps : List TaskStep) (h : s.watchdog = .none) :
    s.Quiet (sv.performAll steps s) := by
  induction steps generalizing s with
  | nil => exact .refl s
  | cons step steps ih =>
      have hhushed := sv.proceed_ofTask_hushed [step] h
      exact hhushed.quiet.trans (ih (hhushed.alone h))

/-! ## From the interruption on -/

/-- The supervisor is closed, or the run has ended. -/
def IsInterrupted (x : Session σ) : Prop := x.state.closed = true ∨ x.outcome.isSome = true

/-- Once a turn has interrupted the supervision, and the watchdog had no timeout to report before
it, no timeout is counted and no flag is evaluated in the rest of the run, nor by anything
that is done after it. If the run had not ended it is not cancelled either: it ends well when
its last step is done, unless it is dropped or waits for ever. -/
theorem silent_after_interruption (sv : Supervisor σ) (plan : RunPlan) (s : Supervision σ)
    (hy : sv.ComesTo (openRun plan s) y) (hunreported : y.state.Unreported)
    (hinterrupted : IsInterrupted (sv.turn y)) :
    (∀ steps, (sv.performAll steps (sv.run plan s).2).timeouts = y.state.timeouts ∧
        (sv.performAll steps (sv.run plan s).2).flags = y.state.flags) ∧
      (y.outcome = none → (sv.run plan s).1.Concluded plan s.now) := by
  have hrun : sv.run plan s = ((sv.proceed y).report, (sv.proceed y).state) := by
    rw [run, hy.proceed_eq]
  obtain ⟨hunder, hunfinished⟩ := hy.underway (underway_openRun plan s) fun _ hf => by cases hf
  obtain ⟨hend, hsome⟩ := sv.proceed_underway hunder hunfinished
  -- a run that has ended has no watchdog
  have hsilenced : (sv.turn y).state.Silenced :=
    hinterrupted.imp_right (sv.underway_turn hunder hunfinished).1.alone
  have hhushed := sv.proceed_hushed hunreported hsilenced
  rw [hrun]
  constructor
  · intro steps
    have hquiet := hhushed.quiet.trans (sv.performAll_quiet steps (hend.alone hsome))
    exact ⟨hquiet.timeouts, hquiet.flags⟩
  · intro ho
    exact concluded_of_hushed (s := beginRun s) hhushed ho hend hsome

theorem poll_of_early (sv : Supervisor σ) {due limit : Nat} (hw : s.watchdog = .polling due)
    (h : limit ≤ Polling.comesAt s.now due) : sv.poll (some limit) s = s := by
  simp only [poll, hw, Polling.before]
  rw [Polling.upTo, dif_pos h]
  cases s
  subst hw
  rfl

/-- The supervisor of a stalling destination is closed after a millisecond, before the first
look at the timers. -/
def stoppedInTime : RunPlan := ⟨Course.stalling.task, none, some 1⟩

/-- The session in which it is closed, a millisecond after the beginning. -/
def stoppedInTimeSession : Session Nat :=
  let sv := Course.stalling.supervisor
  callTurn 1000000 (sv.watchTurn (sv.turn (openRun stoppedInTime (.initial 0))))

theorem stoppedInTime_round : Course.stalling.supervisor.round?
    (openRun stoppedInTime (.initial 0)) = some stoppedInTimeSession := by
  rw [stoppedInTimeSession]
  set sv := Course.stalling.supervisor
  set y := sv.watchTurn (sv.turn (openRun stoppedInTime (.initial 0))) with hy
  have hw : y.state.watchdog = .polling 2000000 := by decide
  have hnext : y.nextInstant? = some 1000000 := by decide
  have hpoll : sv.pollTurn y = y := by
    rw [pollTurn, hnext, sv.poll_of_early hw (by decide)]
  have hdone : (sv.turn (openRun stoppedInTime (.initial 0))).isDone = false := by decide
  have hawake : y.isAwake = false := by decide
  have hroused : y.isRoused = false := by decide
  rw [round?, hdone, if_neg Bool.false_ne_true, ← hy, pass?, hawake, if_neg Bool.false_ne_true]
  simp only [hpoll, hroused, hnext, Bool.false_eq_true, if_false, Option.map_some]

theorem silent_after_interruption_stoppedInTime :
    let sv := Course.stalling.supervisor
    let y := stoppedInTimeSession
    let ending := sv.run stoppedInTime (.initial 0)
    sv.ComesTo (openRun stoppedInTime (.initial 0)) y ∧ y.state.Unreported ∧
      IsInterrupted (sv.turn y) ∧
      (∀ steps, (sv.performAll steps ending.2).timeouts .accept = ⟨0⟩ ∧
        (sv.performAll steps ending.2).timeouts .notifyEndOfInput = ⟨0⟩ ∧
        (sv.performAll steps ending.2).flags = 0) ∧
      ending.1.result = .ok () := by
  have hcomes : Course.stalling.supervisor.ComesTo (openRun stoppedInTime (.initial 0))
      stoppedInTimeSession :=
    .round .start stoppedInTime_round
  have hw : stoppedInTimeSession.state.watchdog = .polling 2000000 := by decide
  have hunreported : stoppedInTimeSession.state.Unreported := by
    intro call hend
    cases hw.symm.trans hend
  have hinterrupted : IsInterrupted (Course.stalling.supervisor.turn stoppedInTimeSession) :=
    .inl (by decide)
  obtain ⟨hsilent, hconcluded⟩ := silent_after_interruption Course.stalling.supervisor
    stoppedInTime (.initial 0) hcomes hunreported hinterrupted
  refine ⟨hcomes, hunreported, hinterrupted, fun steps => ?_, ?_⟩
  · obtain ⟨htimeouts, hasked⟩ := hsilent steps
    exact ⟨congrFun htimeouts .accept, congrFun htimeouts .notifyEndOfInput, hasked⟩
  · cases hconcluded rfl with
    | through hresult _ _ => exact hresult
    | abandoned _ hplanned _ => cases hplanned
    | unending _ hpending => exact absurd (List.mem_of_getElem? hpending) (by decide)

end Supervisor

end SyncLedger
