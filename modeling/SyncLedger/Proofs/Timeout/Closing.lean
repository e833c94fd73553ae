import SyncLedger.Proofs.Timeout.Interruption

/-!
# What closing a supervisor leaves behind

The token that tells watchdogs to stop is made when the first run begins. A supervisor that is
closed after that stays closed: no later run counts a timeout, asks the flag or is cancelled.
A supervisor that is closed before its first run has nothing to close, and goes on as if
nobody had closed it.
-/

namespace SyncLedger

variable {σ : Type}

/-- What is done to a supervisor, one thing after the other. -/
inductive Deed where
  /-- A single step outside of a run. -/
  | step (step : TaskStep)
  /-- A run, with whoever closes the supervisor beside it. -/
  | run (plan : RunPlan)

def Deed.isRun : Deed → Bool
  | .step _ => false
  | .run _ => true

namespace Supervisor

variable {sv : Supervisor σ} {s : Supervision σ} {x : Session σ} {plan : RunPlan}

/-- The supervision after one more deed. -/
def doDeed (sv : Supervisor σ) (s : Supervision σ) : Deed → Supervision σ
  | .step step => sv.perform step s
  | .run plan => (sv.run plan s).2

def after (sv : Supervisor σ) (deeds : List Deed) (s : Supervision σ) : Supervision σ :=
  deeds.foldl sv.doDeed s

theorem after_append (sv : Supervisor σ) (deeds later : List Deed) (s : Supervision σ) :
    sv.after (deeds ++ later) s = sv.after later (sv.after deeds s) :=
  List.foldl_append

/-- Some call that closes the supervisor has returned when the deed is done: one outside of
runs, the one beside a run, or one that is a step of its task. -/
def Closes (sv : Supervisor σ) (s : Supervision σ) : Deed → Prop
  | .step step => step = .close
  | .run plan => (sv.run plan s).1.closedAt.isSome = true ∨
      ∃ i, plan.task[i]? = some .close ∧ i < (sv.run plan s).1.trace.length

/-! ## A deed -/

theorem perform_underway (sv : Supervisor σ) (step : TaskStep) (s : Supervision σ) :
    (sv.proceed (.ofTask [step] s)).Underway ⟨[step], none, none⟩ s ∧
      (sv.proceed (.ofTask [step] s)).outcome.isSome = true := by
  have hopen : (Session.ofTask [step] s).Underway ⟨[step], none, none⟩ s :=
    Session.underway_ofTask ⟨[step], none, none⟩ s (show Closer.absent.hasTold = false from rfl)
  exact sv.proceed_underway hopen fun _ hf => by cases hf

theorem run_underway (sv : Supervisor σ) (plan : RunPlan) (s : Supervision σ) :
    (sv.proceed (openRun plan s)).Underway plan (beginRun s) ∧
      (sv.proceed (openRun plan s)).outcome.isSome = true :=
  sv.proceed_underway (underway_openRun plan s) fun _ hf => by cases hf

theorem closed_of_done (h : x.Underway plan s) (hrun : s.hasRun = true) {i : Nat}
    (hstep : plan.task[i]? = some .close) (hi : i < x.trace.length) :
    x.state.closed = true := by
  obtain ⟨begun, hleft, hclosed⟩ := h.left
  exact hclosed hrun (hleft.mem_begun hstep hi)

theorem watchdog_doDeed (sv : Supervisor σ) (s : Supervision σ) (d : Deed) :
    (sv.doDeed s d).watchdog = .none := by
  cases d with
  | step step =>
      obtain ⟨hunder, hsome⟩ := sv.perform_underway step s
      exact hunder.alone hsome
  | run plan =>
      obtain ⟨hunder, hsome⟩ := sv.run_underway plan s
      exact hunder.alone hsome

theorem hasRun_doDeed (sv : Supervisor σ) (s : Supervision σ) (d : Deed) :
    (sv.doDeed s d).hasRun = (s.hasRun || d.isRun) := by
  cases d with
  | step step =>
      rw [Deed.isRun, Bool.or_false]
      exact (sv.perform_underway step s).1.onward.hasRun
  | run plan =>
      rw [Deed.isRun, Bool.or_true]
      exact (sv.run_underway plan s).1.onward.hasRun

theorem closed_doDeed (sv : Supervisor σ) (d : Deed) (h : s.closed = true) :
    (sv.doDeed s d).closed = true := by
  cases d with
  | step step => exact (sv.perform_underway step s).1.onward.closed h
  | run plan => exact (sv.run_underway plan s).1.onward.closed h

/-- A call that closes a supervisor with a run, before it or beside it, does close it. -/
theorem closed_of_closes {d : Deed} (h : sv.Closes s d) (hidle : s.watchdog = .none)
    (hrun : s.hasRun = true ∨ d.isRun = true) : (sv.doDeed s d).closed = true := by
  cases d with
  | step step =>
      obtain rfl : step = .close := h
      have hrun : s.hasRun = true := hrun.resolve_right (by simp [Deed.isRun])
      obtain ⟨hunder, hsome⟩ := sv.perform_underway .close s
      -- the only step does not wait for ever, so that it gets done
      have hhushed := sv.proceed_ofTask_hushed [.close] hidle
      cases concluded_of_hushed hhushed rfl hunder hsome with
      | through hresult hdone hended =>
          refine closed_of_done hunder hrun (i := 0) rfl ?_
          change 0 < (sv.proceed (.ofTask [.close] s)).report.trace.length
          rw [hdone]
          exact Nat.one_pos
      | abandoned hresult hplanned _ => cases hplanned
      | unending hresult hpending => exact absurd (List.mem_of_getElem? hpending) (by decide)
  | run plan =>
      obtain ⟨hunder, hsome⟩ := sv.run_underway plan s
      rcases h with hat | ⟨i, hstep, hi⟩
      · refine hunder.told rfl ?_
        change (sv.proceed (openRun plan s)).closer.closedAt?.isSome = true at hat
        revert hat
        cases (sv.proceed (openRun plan s)).closer <;> simp [Closer.closedAt?, Closer.hasTold]
      · exact closed_of_done hunder rfl hstep hi

/-- Before the first run there is nothing to close. -/
theorem perform_close_of_not_hasRun (sv : Supervisor σ) (hrun : s.hasRun = false)
    (hidle : s.watchdog = .none) : sv.perform .close s = s := by
  -- the step is done at once, and with it the session
  have hturn : sv.turn (.ofTask [.close] s) =
      { Session.ofTask [.close] s with
        task := .finished, trace := [s.now], outcome := some ⟨.ok (), s.now⟩,
        isCloserFirst := true } := by
    have htold : sv.tellToStop s = s := by simp [tellToStop, hrun]
    have hend : endRun s = s := by
      cases s
      subst hidle
      simp [endRun, dismissed]
    simp [turn, Session.ofTask, runTurn, goOn, resume, carryOn, beginStep, closingWaits, hrun,
      Hold.isOver, htold, Session.settle, Session.finish, hend, closerTurn, act]
  rw [perform, proceed, hturn]
  rfl

/-! ## Histories -/

theorem hasRun_after (sv : Supervisor σ) (deeds : List Deed) (s : Supervision σ) :
    (sv.after deeds s).hasRun = (s.hasRun || deeds.any Deed.isRun) := by
  induction deeds generalizing s with
  | nil => simp [after]
  | cons d deeds ih =>
      rw [List.any_cons, ← Bool.or_assoc, ← sv.hasRun_doDeed s d]
      exact ih _

theorem watchdog_after (sv : Supervisor σ) (deeds : List Deed) (h : s.watchdog = .none) :
    (sv.after deeds s).watchdog = .none := by
  induction deeds generalizing s with
  | nil => exact h
  | cons d deeds ih => exact ih (sv.watchdog_doDeed s d)

theorem closed_after (sv : Supervisor σ) (deeds : List Deed) (h : s.closed = true) :
    (sv.after deeds s).closed = true := by
  induction deeds generalizing s with
  | nil => exact h
  | cons d deeds ih => exact ih (sv.closed_doDeed d h)

theorem run_of_closed (sv : Supervisor σ) (plan : RunPlan) (h : s.closed = true) :
    (sv.run plan s).2.timeouts = s.timeouts ∧ (sv.run plan s).2.flags = s.flags ∧
      (sv.run plan s).1.Concluded plan s.now := by
  -- the watchdog of the run finds the supervisor closed before it polls
  have hunreported : (openRun plan s).state.Unreported := by
    intro call hw
    cases hw
  have hsilenced : (sv.turn (openRun plan s)).state.Silenced :=
    (sv.hushed_turn hunreported).silenced (.inl h)
  have hhushed := sv.proceed_hushed hunreported hsilenced
  obtain ⟨hunder, hsome⟩ := sv.run_underway plan s
  exact ⟨hhushed.quiet.timeouts, hhushed.quiet.flags,
    concluded_of_hushed (s := beginRun s) hhushed rfl hunder hsome⟩

/-- Closing is permanent if some run has begun before or beside it, and otherwise it does nothing
at all. -/
theorem closing_permanent_once_run (sv : Supervisor σ) (flags : σ) (before : List Deed) (d : Deed)
    (hcloses : sv.Closes (sv.after before (.initial flags)) d) :
    ((before ++ [d]).any Deed.isRun = true → ∀ (later : List Deed) (plan : RunPlan),
      let s := sv.after (before ++ d :: later) (.initial flags)
      (sv.run plan s).2.timeouts = s.timeouts ∧ (sv.run plan s).2.flags = s.flags ∧
        (sv.run plan s).1.Concluded plan s.now) ∧
    ((before ++ [d]).any Deed.isRun = false → ∀ later : List Deed,
      sv.after (before ++ d :: later) (.initial flags) =
        sv.after (before ++ later) (.initial flags)) := by
  have hidle : (sv.after before (.initial flags)).watchdog = .none := sv.watchdog_after before rfl
  have hrun : (sv.after before (.initial flags)).hasRun = before.any Deed.isRun :=
    sv.hasRun_after before (.initial flags)
  simp only [List.any_append, List.any_cons, List.any_nil, Bool.or_false, after_append]
  constructor
  · intro hany later plan
    rw [Bool.or_eq_true, ← hrun] at hany
    have hclosed := closed_of_closes hcloses hidle hany
    exact sv.run_of_closed plan (sv.closed_after later hclosed)
  · intro hnone later
    rw [Bool.or_eq_false_iff, ← hrun] at hnone
    cases d with
    | run plan => cases hnone.2
    | step step =>
        obtain rfl : step = .close := hcloses
        change sv.after later (sv.perform .close (sv.after before (.initial flags))) = _
        rw [sv.perform_close_of_not_hasRun hnone.1 hidle]

theorem closing_permanent_once_run_stalling :
    let sv := Course.stalling.supervisor
    let before : List Deed := [.run ⟨[], none, none⟩]
    let s := sv.after (before ++ .step .close :: [.step (.start .accept)]) (.initial 0)
    sv.Closes (sv.after before (.initial 0)) (.step .close) ∧
      (before ++ [Deed.step .close]).any Deed.isRun = true ∧
      (sv.run ⟨[.sleep 500], none, none⟩ s).2.timeouts = s.timeouts ∧
      (sv.run ⟨[.sleep 500], none, none⟩ s).2.flags = s.flags ∧
      (sv.run ⟨[.sleep 500], none, none⟩ s).1.result = .ok () := by
  have hpermanent := closing_permanent_once_run Course.stalling.supervisor 0
    [.run ⟨[], none, none⟩] (.step .close) rfl
  obtain ⟨htimeouts, hflags, hconcluded⟩ :=
    hpermanent.1 rfl [.step (.start .accept)] ⟨[.sleep 500], none, none⟩
  refine ⟨rfl, rfl, htimeouts, hflags, ?_⟩
  cases hconcluded with
  | through hresult _ _ => exact hresult
  | abandoned _ hplanned _ => cases hplanned
  | unending _ hpending => exact absurd (List.mem_of_getElem? hpending) (by decide)

/-- A supervisor that is closed before its first run still cancels that run: the timeout is
counted, and the flag is asked for. -/
theorem cancelled_after_closing :
    Course.stalling.supervisor.Closes (.initial 0) (.step .close) ∧
      let s := Course.stalling.supervisor.after [.step .close] (.initial 0)
      let r := Course.stalling.supervisor.run ⟨Course.stalling.task, none, none⟩ s
      r.1.result = .error (.timedOut .accept) ∧
        s.timeouts .accept = ⟨0⟩ ∧ r.2.timeouts .accept = ⟨1⟩ ∧ s.flags = 0 ∧ r.2.flags = 1 := by
  have hnothing : Course.stalling.supervisor.after [.step .close] (.initial 0) = .initial 0 :=
    Course.stalling.supervisor.perform_close_of_not_hasRun rfl rfl
  refine ⟨rfl, ?_⟩
  rw [hnothing]
  cases Course.stalling.ending_verdict with
  | carriedOut hsettled hcarried =>
      cases hsettled with
      | quiet hlooks huntouched =>
          have hnone := hlooks _ Course.stalling_firstOverdue.looks
          cases hnone.symm.trans Course.stalling_firstOverdue.overdue
      | tolerated call d hfirst hflag htimeouts hflags => exact absurd rfl hflag
  | cancelled call d hcancels hcancelled =>
      obtain ⟨rfl, rfl⟩ := Course.stalling_firstOverdue.unique hcancels.first
      have htimeouts := congrFun hcancels.timeouts .accept
      exact ⟨hcancelled.result, rfl, htimeouts, rfl, hcancels.flags⟩

end Supervisor

end SyncLedger
