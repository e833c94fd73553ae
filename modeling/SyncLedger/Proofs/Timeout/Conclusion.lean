import SyncLedger.Proofs.Timeout.Silence

/-!
# How runs end

Whatever its task does, a run comes to an end: it is cancelled because of a timeout, or it
carries its task through, or it is given up, or its task waits for something that never
happens (`Supervisor.run_ended`). Up to then its task takes one step after the other
(`Session.Underway`), and the supervisor is closed once a step of the task, or the closer
beside the run, has told the watchdogs to stop.
-/

namespace SyncLedger

variable {σ : Type}

/-! ## The steps of a task -/

namespace TaskState

/-- Which steps of a task have begun and how many of them are done. -/
inductive Left (task : List TaskStep) : List TaskStep → Nat → TaskState → Prop where
  | ready (begun steps : List TaskStep) (htask : task = begun ++ steps) :
      Left task begun begun.length (.ready steps)
  | holding (begun : List TaskStep) (step : TaskStep) (hold : Hold) (steps : List TaskStep)
      (htask : task = begun ++ step :: steps) (hforever : hold = .forever → step = .pending) :
      Left task (begun ++ [step]) begun.length (.holding hold steps)
  | finished : Left task task task.length .finished

/-- The task had its turn; if it only stands back it has said so. -/
def Rests (s : Supervision σ) : TaskState → Prop
  | .ready _ => False
  | .holding (.turns _) _ => s.stoodBack = true
  | .holding (.moment _) _ | .holding .watchdogs _ | .holding .forever _ | .finished => True

theorem Rests.ne_ready {s : Supervision σ} {task : TaskState} (h : task.Rests s)
    (steps : List TaskStep) : task ≠ .ready steps := by
  rintro rfl
  exact h

theorem Left.eq_of_finished {task begun : List TaskStep} {done : Nat}
    (h : TaskState.finished.Left task begun done) : done = task.length := by
  cases h
  rfl

theorem Left.lt_length {task begun : List TaskStep} {done : Nat} {t : TaskState}
    {s : Supervision σ} (h : t.Left task begun done) (hrests : t.Rests s) (hf : t ≠ .finished) :
    done < task.length := by
  cases h with
  | ready begun steps htask => cases hrests
  | holding begun step hold steps htask _ => simp [htask]
  | finished => exact absurd rfl hf

theorem Left.pending_of_forever {task begun steps : List TaskStep} {done : Nat}
    (h : (TaskState.holding .forever steps).Left task begun done) :
    task[done]? = some .pending := by
  cases h with
  | holding begun step _ _ htask hforever => simp [htask, hforever rfl]

/-- Steps are done in order, so that one that is done has begun. -/
theorem Left.mem_begun {task begun : List TaskStep} {done i : Nat} {t : TaskState}
    {step : TaskStep} (h : t.Left task begun done) (hstep : task[i]? = some step)
    (hi : i < done) : step ∈ begun := by
  cases h with
  | ready _ steps htask =>
      rw [htask, List.getElem?_append_left hi] at hstep
      exact List.mem_of_getElem? hstep
  | holding begun current hold steps htask _ =>
      rw [htask, List.getElem?_append_left hi] at hstep
      exact List.mem_append_left _ (List.mem_of_getElem? hstep)
  | finished => exact List.mem_of_getElem? hstep

end TaskState

namespace Supervisor

theorem closed_tellToStop (sv : Supervisor σ) {s : Supervision σ} (h : s.hasRun = true) :
    (sv.tellToStop s).closed = true := by
  unfold tellToStop
  simp only [h, Bool.not_true, Bool.false_eq_true, if_false]
  split <;> rfl

theorem now_tellToStop (sv : Supervisor σ) (s : Supervision σ) :
    (sv.tellToStop s).now = s.now := by
  unfold tellToStop
  split
  · rfl
  · split <;> rfl

/-- What becomes of a task that gets to run: it takes its steps in order, and if it is through
its last step is done now. -/
structure Progressed (task : List TaskStep) (done : Nat) (s : Supervision σ)
    (p : TaskProgress σ) : Prop where
  left : ∃ begun, p.task.Left task begun (done + p.trace.length) ∧
    (s.hasRun = true → .close ∈ begun → p.state.closed = true)
  rests : p.task.Rests p.state
  awaits : p.task.awaitsWatchdogs = true → p.state.closed = true
  last : p.task = .finished → p.state.now = p.trace.getLastD s.now

theorem Progressed.cons {task begun : List TaskStep} {step : TaskStep} {s t : Supervision σ}
    {p : TaskProgress σ} (h : Progressed task (begun ++ [step]).length t p)
    (hrun : t.hasRun = s.hasRun) :
    Progressed task begun.length s { p with trace := t.now :: p.trace } := by
  obtain ⟨begun', hleft, hclosed⟩ := h.left
  refine ⟨⟨begun', ?_, fun hs => hclosed (hrun.trans hs)⟩, h.rests, h.awaits, fun hf => ?_⟩
  · rw [List.length_append, List.length_singleton, Nat.add_assoc, Nat.add_comm 1] at hleft
    exact hleft
  · rw [List.getLastD_cons]
    exact h.last hf

theorem progressed_wait {task begun : List TaskStep} {step : TaskStep} {hold : Hold}
    {steps : List TaskStep} {s : Supervision σ} (htask : task = begun ++ step :: steps)
    (hforever : hold = .forever → step = .pending)
    (hclosed : s.hasRun = true → .close ∈ begun ++ [step] → s.closed = true)
    (hawaits : hold = .watchdogs → s.closed = true) :
    Progressed task begun.length s ⟨.holding hold steps, [], hold.wait s⟩ := by
  have hquiet := quiet_wait hold s
  refine ⟨⟨begun ++ [step], .holding begun step hold steps htask hforever,
    fun hrun hmem => hquiet.closed (hclosed hrun hmem)⟩, ?_, fun hw => ?_, fun hf => by cases hf⟩
  · cases hold with
    | turns count => exact rfl
    | _ => trivial
  · cases hold with
    | watchdogs => exact hawaits rfl
    | _ => cases hw

theorem beginStep_forever (sv : Supervisor σ) {step : TaskStep} {s : Supervision σ}
    (h : (sv.beginStep step s).1 = .forever) : step = .pending := by
  cases step with
  | pending => rfl
  | close =>
      simp only [beginStep] at h
      split at h <;> cases h
  | _ => cases h

theorem beginStep_watchdogs (sv : Supervisor σ) {step : TaskStep} {s : Supervision σ}
    (h : (sv.beginStep step s).1 = .watchdogs) : (sv.beginStep step s).2.closed = true := by
  cases step with
  | close =>
      simp only [beginStep] at h
      split at h
      · rename_i hw
        simp only [closingWaits, Bool.and_eq_true] at hw
        exact sv.closed_tellToStop hw.1.1
      · cases h
  | _ => cases h

theorem carryOn_progressed (sv : Supervisor σ) {task begun : List TaskStep}
    (steps : List TaskStep) (s : Supervision σ) (htask : task = begun ++ steps)
    (hclosed : s.hasRun = true → .close ∈ begun → s.closed = true) :
    Progressed task begun.length s (sv.carryOn steps s) := by
  induction steps generalizing begun s with
  | nil =>
      rw [List.append_nil] at htask
      subst htask
      exact ⟨⟨task, .finished, hclosed⟩, trivial, nofun, fun _ => rfl⟩
  | cons step steps ih =>
      have hquiet := sv.quiet_beginStep step s
      -- closing is the only step that the others have to be told from
      have hbegun : (sv.beginStep step s).2.hasRun = true → .close ∈ begun ++ [step] →
          (sv.beginStep step s).2.closed = true := by
        intro hrun hmem
        rw [hquiet.hasRun] at hrun
        rcases List.mem_append.mp hmem with hmem | hmem
        · exact hquiet.closed (hclosed hrun hmem)
        · obtain rfl := List.mem_singleton.mp hmem
          exact sv.closed_tellToStop hrun
      simp only [carryOn]
      split
      · have htask' : task = (begun ++ [step]) ++ steps := by
          rw [htask, List.append_assoc, List.singleton_append]
        exact (ih (sv.beginStep step s).2 htask' hbegun).cons hquiet.hasRun
      · have h := progressed_wait htask sv.beginStep_forever hbegun sv.beginStep_watchdogs
        obtain ⟨begun', hleft, hcl⟩ := h.left
        exact ⟨⟨begun', hleft, fun hrun => hcl (hquiet.hasRun.trans hrun)⟩, h.rests, h.awaits,
          fun hf => by cases hf⟩

/-- The same of a task that has begun before; when it gets through, it has done a step. -/
theorem resume_progressed (sv : Supervisor σ) {task begun : List TaskStep} {done : Nat}
    {t : TaskState} {s : Supervision σ} (hleft : t.Left task begun done)
    (hclosed : s.hasRun = true → .close ∈ begun → s.closed = true)
    (hawaits : t.awaitsWatchdogs = true → s.closed = true) (hunfinished : t ≠ .finished) :
    Progressed task done s (sv.resume t s) ∧
      ((∃ steps, t = .ready steps) ∨
        ((sv.resume t s).task = .finished → (sv.resume t s).trace ≠ [])) := by
  cases hleft with
  | ready begun steps htask => exact ⟨sv.carryOn_progressed steps s htask hclosed, .inl ⟨_, rfl⟩⟩
  | holding begun step hold steps htask hforever =>
      by_cases hover : hold.next.isOver s = true
      · have htask' : task = (begun ++ [step]) ++ steps := by
          rw [htask, List.append_assoc, List.singleton_append]
        have h := sv.carryOn_progressed steps s htask' hclosed
        simp only [resume, hover, if_true]
        exact ⟨h.cons rfl, .inr fun _ => List.cons_ne_nil _ _⟩
      · have hnext : hold.next = .forever → step = .pending := by
          intro h
          cases hold with
          | forever => exact hforever rfl
          | _ => cases h
        have hwatchdogs : hold.next = .watchdogs → s.closed = true := by
          intro h
          cases hold with
          | watchdogs => exact hawaits rfl
          | _ => cases h
        simp only [resume, hover]
        exact ⟨progressed_wait htask hnext hclosed hwatchdogs, .inr fun hf => by cases hf⟩
  | finished => exact absurd rfl hunfinished

end Supervisor

/-! ## How far a run has come -/

/-- How a run ends that is not cancelled: well, when the last step of its task is done, or before
that because it is given up, or because the next step waits for something that never happens. -/
inductive RunReport.Concluded (plan : RunPlan) (begunAt : Nat) (r : RunReport) : Prop where
  | through (hresult : r.result = .ok ()) (hdone : r.trace.length = plan.task.length)
      (hended : r.endedAt = r.trace.getLastD begunAt)
  | abandoned (hresult : r.result = .error .abandoned)
      (hplanned : plan.abandonAfter.isSome = true) (hopen : r.trace.length < plan.task.length)
  | unending (hresult : r.result = .error .unending)
      (hpending : plan.task[r.trace.length]? = some .pending)

/-- The run was cancelled, or it has ended by itself. -/
def RunReport.Ended (plan : RunPlan) (begunAt : Nat) (r : RunReport) : Prop :=
  (∃ call, r.result = .error (.timedOut call)) ∨ r.Concluded plan begunAt

/-- The closer has told the watchdogs to stop. -/
def Closer.hasTold : Closer → Bool
  | .closing | .done _ => true
  | .absent | .fresh _ | .waiting _ => false

/-- How a session stands that carries out a plan from a state on. -/
structure Session.Underway (plan : RunPlan) (s : Supervision σ) (x : Session σ) : Prop where
  onward : s.Onward x.state
  told : s.hasRun = true → x.closer.hasTold = true → x.state.closed = true
  left : ∃ begun, x.task.Left plan.task begun x.trace.length ∧
    (s.hasRun = true → .close ∈ begun → x.state.closed = true)
  awaits : x.task.awaitsWatchdogs = true → x.state.closed = true
  ready : x.outcome = none → ∀ steps, x.task = .ready steps →
    x.trace = [] ∧ x.state.now = s.now
  abandonAt : x.abandonAt.isSome = true → plan.abandonAfter.isSome = true
  alone : x.outcome.isSome = true → x.state.watchdog = .none
  ended : ∀ o, x.outcome = some o →
    ∀ closedAt, RunReport.Ended plan s.now ⟨o.result, o.endedAt, closedAt, x.trace⟩

/-- The run has ended, or its task had its turn and is not through. -/
def Session.Rests (x : Session σ) : Prop :=
  x.outcome = none → x.task.Rests x.state ∧ x.task ≠ .finished

theorem TaskState.Rests.congr {s t : Supervision σ} {task : TaskState} (h : task.Rests s)
    (hstood : t.stoodBack = s.stoodBack) : task.Rests t := by
  cases task with
  | holding hold steps =>
      cases hold with
      | turns count => exact hstood.trans h
      | _ => trivial
  | ready steps => exact h
  | finished => trivial

namespace Session

variable {plan : RunPlan} {s : Supervision σ} {x y : Session σ}

theorem underway_ofTask (plan : RunPlan) (s : Supervision σ) {closer : Closer}
    (hcloser : closer.hasTold = false) :
    ({ ofTask plan.task s with abandonAt := plan.abandonAfter.map (Supervisor.later s)
                               closer := closer } : Session σ).Underway plan s where
  onward := .refl s
  told _ htold := by cases hcloser.symm.trans htold
  left := ⟨[], .ready [] plan.task rfl, fun _ hmem => by cases hmem⟩
  awaits h := by cases h
  ready _ _ _ := ⟨rfl, rfl⟩
  abandonAt h := by simpa using h
  alone h := by cases h
  ended _ h := by cases h

theorem Underway.finish (h : x.Underway plan s) (result : Except Interruption Unit)
    (hended : ∀ closedAt,
      RunReport.Ended plan s.now ⟨result, x.state.now, closedAt, x.trace⟩) :
    (x.finish result).Underway plan s where
  onward := ⟨h.onward.hasRun, h.onward.closed⟩
  told := h.told
  left := h.left
  awaits := h.awaits
  ready ho := by cases ho
  abandonAt := h.abandonAt
  alone _ := rfl
  ended o ho closedAt := by
    obtain rfl := Option.some.inj ho
    exact hended closedAt

/-- Only the supervisor has gone on, and the task had its turn before. -/
theorem Underway.onto {t : Supervision σ} (h : x.Underway plan s) (ht : x.state.Onward t)
    (hready : x.outcome = none → ∀ steps, x.task ≠ .ready steps)
    (halone : x.state.watchdog = .none → t.watchdog = .none) :
    ({ x with state := t } : Session σ).Underway plan s := by
  obtain ⟨begun, hleft, hclosed⟩ := h.left
  exact {
    onward := h.onward.trans ht
    told := fun hrun htold => ht.closed (h.told hrun htold)
    left := ⟨begun, hleft, fun hrun hmem => ht.closed (hclosed hrun hmem)⟩
    awaits := fun hw => ht.closed (h.awaits hw)
    ready := fun ho steps hsteps => absurd hsteps (hready ho steps)
    abandonAt := h.abandonAt
    alone := fun ho => halone (h.alone ho)
    ended := h.ended }

/-- A run ends when its last step is done, or when its time is over. -/
theorem Underway.settle (h : x.Underway plan s) (hrests : x.task.Rests x.state)
    (hlast : x.task = .finished → x.state.now = x.trace.getLastD s.now) :
    x.settle.Underway plan s ∧ (x.outcome = none → x.settle.Rests) := by
  obtain ⟨begun, hleft, _⟩ := h.left
  unfold Session.settle
  split
  · rename_i hf
    rw [hf] at hleft
    have hdone := hleft.eq_of_finished
    exact ⟨h.finish _ fun _ => .inr (.through rfl hdone (hlast hf)), fun _ ho => by cases ho⟩
  · rename_i hf
    split
    · rename_i hcome
      have hplanned : x.abandonAt.isSome = true := by
        cases hx : x.abandonAt with
        | some instant => rfl
        | none => simp [hx, hasCome] at hcome
      have hopen := hleft.lt_length hrests hf
      exact ⟨h.finish _ fun _ => .inr (.abandoned rfl (h.abandonAt hplanned) hopen),
        fun _ ho => by cases ho⟩
    · exact ⟨h, fun _ _ => ⟨hrests, hf⟩⟩

end Session

namespace Supervisor

variable {plan : RunPlan} {s : Supervision σ} {x y : Session σ}

theorem underway_goOn (sv : Supervisor σ) (h : x.Underway plan s) (ho : x.outcome = none)
    (hf : x.task ≠ .finished) :
    (sv.goOn x).Underway plan s ∧ (sv.goOn x).task.Rests (sv.goOn x).state ∧
      ((sv.goOn x).task = .finished →
        (sv.goOn x).state.now = (sv.goOn x).trace.getLastD s.now) := by
  obtain ⟨begun, hleft, hclosed⟩ := h.left
  have hquiet := sv.quiet_resume x.task x.state
  obtain ⟨hprogressed, hsome⟩ := sv.resume_progressed hleft
    (fun hrun => hclosed (h.onward.hasRun.symm.trans hrun)) h.awaits hf
  obtain ⟨begun', hleft', hclosed'⟩ := hprogressed.left
  have hlast : (sv.goOn x).task = .finished →
      (sv.goOn x).state.now = (x.trace ++ (sv.resume x.task x.state).trace).getLastD s.now := by
    intro hfinished
    have hnow := hprogressed.last hfinished
    rcases hsome with ⟨steps, hready⟩ | hsome
    · obtain ⟨htrace, hstart⟩ := h.ready ho steps hready
      rw [htrace, List.nil_append, ← hstart]
      exact hnow
    · -- the last of all steps done is the last one done now
      obtain ⟨trace, last, htrace⟩ :=
        (List.eq_nil_or_concat _).resolve_left (hsome hfinished)
      rw [htrace, List.concat_eq_append, List.getLastD_concat] at hnow
      rw [htrace, List.concat_eq_append, ← List.append_assoc, List.getLastD_concat]
      exact hnow
  refine ⟨?_, hprogressed.rests, hlast⟩
  exact {
    onward := h.onward.trans hquiet.toOnward
    told := fun hrun htold => hquiet.closed (h.told hrun htold)
    left := by
      refine ⟨begun', ?_, fun hrun => hclosed' (h.onward.hasRun.trans hrun)⟩
      change (sv.resume x.task x.state).task.Left _ _ (x.trace ++ _).length
      rw [List.length_append]
      exact hleft'
    awaits := hprogressed.awaits
    ready := fun _ steps hsteps => absurd hsteps (hprogressed.rests.ne_ready steps)
    abandonAt := h.abandonAt
    alone := fun hx => by
      rw [show (sv.goOn x).outcome = none from ho] at hx
      cases hx
    ended := fun o hx => by cases ho.symm.trans hx }

theorem underway_settle_goOn (sv : Supervisor σ) (h : x.Underway plan s) (ho : x.outcome = none)
    (hf : x.task ≠ .finished) :
    (sv.goOn x).settle.Underway plan s ∧ (sv.goOn x).settle.Rests := by
  obtain ⟨hgone, hrests, hlast⟩ := sv.underway_goOn h ho hf
  obtain ⟨hsettled, hrests'⟩ := hgone.settle hrests hlast
  exact ⟨hsettled, hrests' ho⟩

theorem underway_runTurn (sv : Supervisor σ) (h : x.Underway plan s)
    (hf : x.outcome = none → x.task ≠ .finished) :
    (sv.runTurn x).Underway plan s ∧ (sv.runTurn x).Rests := by
  unfold runTurn
  split
  · rename_i hsome
    exact ⟨h, fun ho => by simp [ho] at hsome⟩
  · rename_i hnone
    have ho : x.outcome = none := by simpa using hnone
    simp only
    split
    · rename_i hended
      obtain ⟨hgone, hrests, _⟩ := sv.underway_goOn h ho (hf ho)
      have hnoticed := hgone.onto (sv.onward_attend _) (fun _ => hrests.ne_ready) fun hw => by
        rw [hw] at hended
        cases hended.2
      unfold heed
      simp only
      split
      · rename_i call hcall
        exact ⟨hnoticed.finish _ fun _ => .inl ⟨call, rfl⟩, fun ho => by cases ho⟩
      · exact sv.underway_settle_goOn hnoticed ho hended.1
    · exact sv.underway_settle_goOn h ho (hf ho)

theorem act_told (sv : Supervisor σ) (closer : Closer) {t : Supervision σ}
    (hrun : t.hasRun = true) (h : closer.hasTold = true → t.closed = true)
    (htold : (sv.act closer t).1.hasTold = true) : (sv.act closer t).2.closed = true := by
  have hcloseAt : ∀ instant, (sv.closeAt instant t).1.hasTold = true →
      (sv.closeAt instant t).2.closed = true := by
    intro instant htold
    unfold closeAt at htold ⊢
    split at htold
    · rename_i hcome
      rw [if_pos hcome]
      exact sv.closed_tellToStop hrun
    · cases htold
  cases closer with
  | fresh delay => exact hcloseAt _ htold
  | waiting instant => exact hcloseAt instant htold
  | absent => cases htold
  | closing => exact h rfl
  | done instant => exact h rfl

theorem now_act (sv : Supervisor σ) (closer : Closer) (t : Supervision σ) :
    (sv.act closer t).2.now = t.now := by
  have hcloseAt : ∀ instant, (sv.closeAt instant t).2.now = t.now := by
    intro instant
    unfold closeAt
    split
    · exact sv.now_tellToStop t
    · rfl
  cases closer with
  | fresh delay => exact hcloseAt _
  | waiting instant => exact hcloseAt instant
  | _ => rfl

theorem underway_closerTurn (sv : Supervisor σ) (h : x.Underway plan s) :
    (sv.closerTurn x).Underway plan s := by
  have hquiet := sv.quiet_act x.closer x.state
  obtain ⟨begun, hleft, hclosed⟩ := h.left
  exact {
    onward := h.onward.trans hquiet.toOnward
    told := fun hrun => sv.act_told x.closer (h.onward.hasRun.trans hrun) (h.told hrun)
    left := ⟨begun, hleft, fun hrun hmem => hquiet.closed (hclosed hrun hmem)⟩
    awaits := fun hw => hquiet.closed (h.awaits hw)
    ready := fun ho steps hsteps => by
      obtain ⟨htrace, hnow⟩ := h.ready ho steps hsteps
      exact ⟨htrace, (sv.now_act x.closer x.state).trans hnow⟩
    abandonAt := h.abandonAt
    alone := fun ho => (sv.closerTurn_closerTurned x).same.watchdog.trans (h.alone ho)
    ended := h.ended }

/-- Before a turn the task may have waited for anything, after it it waits for something that
is not there. -/
theorem underway_turn (sv : Supervisor σ) (h : x.Underway plan s)
    (hf : x.outcome = none → x.task ≠ .finished) :
    (sv.turn x).Underway plan s ∧ (sv.turn x).Rests := by
  have hboth : ∀ y, (if x.isCloserFirst then sv.runTurn (sv.closerTurn x)
      else sv.closerTurn (sv.runTurn x)) = y → y.Underway plan s ∧ y.Rests := by
    rintro y rfl
    split
    · exact sv.underway_runTurn (sv.underway_closerTurn h) hf
    · obtain ⟨hran, hrests⟩ := sv.underway_runTurn h hf
      have hstood := (sv.closerTurn_closerTurned (sv.runTurn x)).same.stoodBack
      exact ⟨sv.underway_closerTurn hran, fun ho => ⟨(hrests ho).1.congr hstood, (hrests ho).2⟩⟩
  obtain ⟨hunder, hrests⟩ := hboth _ rfl
  constructor
  · exact ⟨hunder.onward, hunder.told, hunder.left, hunder.awaits, hunder.ready,
      hunder.abandonAt, hunder.alone, hunder.ended⟩
  · exact hrests

/-! ## Between the turns -/

theorem underway_watchTurn (sv : Supervisor σ) (h : x.Underway plan s) (hrests : x.Rests) :
    (sv.watchTurn x).Underway plan s := by
  refine h.onto (sv.onward_watch x.state) (fun ho => (hrests ho).1.ne_ready) fun hw => ?_
  simp [watch, rouse, endStopping, hw]

theorem underway_pass? (sv : Supervisor σ) (h : x.Underway plan s) (hrests : x.Rests)
    (hy : sv.pass? x = some y) :
    y.Underway plan s ∧ (y.outcome = none → y.task ≠ .finished) := by
  have hready : x.outcome = none → ∀ steps, x.task ≠ .ready steps :=
    fun ho => (hrests ho).1.ne_ready
  have hcall : ∀ (z : Session σ) (instant : Nat), z.Underway plan s →
      (z.outcome = none → ∀ steps, z.task ≠ .ready steps) →
      (callTurn instant z).Underway plan s := fun z instant hz hz' =>
    hz.onto (quiet_callAt _ z.state).toOnward hz' id
  have hpoll : (sv.pollTurn x).Underway plan s := by
    refine h.onto (sv.onward_poll _ x.state) hready fun hw => ?_
    simp [poll, hw]
  unfold pass? at hy
  split at hy
  · cases hy
    exact ⟨hcall x _ h hready, fun ho => (hrests ho).2⟩
  · simp only at hy
    split at hy
    · cases hy
      exact ⟨hpoll, fun ho => (hrests ho).2⟩
    · obtain ⟨instant, _, rfl⟩ := Option.map_eq_some_iff.mp hy
      exact ⟨hcall _ _ hpoll hready, fun ho => (hrests ho).2⟩

theorem watch_eq (sv : Supervisor σ) (t : Supervision σ) :
    (sv.watch t).stoodBack = t.stoodBack ∧ (sv.watch t).stopping = [] := by
  unfold watch rouse
  split
  · split
    · exact ⟨rfl, rfl⟩
    · split <;> exact ⟨rfl, rfl⟩
  · split
    · exact ⟨rfl, rfl⟩
    · split
      · obtain ⟨_, hstood, hstopping, _⟩ := sv.expire_eq ‹_› (sv.endStopping t)
        exact ⟨hstood, hstopping⟩
      · exact ⟨rfl, rfl⟩
  all_goals exact ⟨rfl, rfl⟩

theorem rests_watchTurn (sv : Supervisor σ) (h : x.Rests) : (sv.watchTurn x).Rests :=
  fun ho => ⟨(h ho).1.congr (sv.watch_eq x.state).1, (h ho).2⟩

theorem earlier_ne_none (a : Nat) (b : Option Nat) : earlier (some a) b ≠ none := by
  cases b <;> simp [earlier]

theorem of_pass?_eq_none {sv : Supervisor σ} (h : sv.pass? x = none) :
    x.isAwake = false ∧ x.nextInstant? = none := by
  unfold pass? at h
  split at h
  · cases h
  · rename_i hawake
    simp only at h
    split at h
    · cases h
    · exact ⟨by simpa using hawake, Option.map_eq_none_iff.mp h⟩

/-- If nothing ever happens again, the task has come to a step that waits for ever. -/
theorem pending_of_stuck (sv : Supervisor σ) (h : x.Underway plan s) (hrests : x.Rests)
    (ho : x.outcome = none) (hstuck : sv.pass? (sv.watchTurn x) = none) :
    plan.task[x.trace.length]? = some .pending := by
  obtain ⟨hasleep, hnever⟩ := of_pass?_eq_none hstuck
  simp only [Session.isAwake, Bool.or_eq_false_iff] at hasleep
  obtain ⟨hturn, hunfinished⟩ := hrests ho
  obtain ⟨begun, hleft, _⟩ := h.left
  have hawaits := h.awaits
  cases htask : x.task with
  | ready steps =>
      rw [htask] at hturn
      cases hturn
  | finished => exact absurd htask hunfinished
  | holding hold steps =>
      rw [htask] at hturn hleft hawaits
      cases hold with
      | moment instant =>
          have htarget : (sv.watchTurn x).task.target? = some instant := by
            rw [show (sv.watchTurn x).task = x.task from rfl, htask]
            rfl
          have hopen : (sv.watchTurn x).outcome.isNone = true := by
            rw [show (sv.watchTurn x).outcome = none from ho]
            rfl
          rw [Session.nextInstant?, hopen, if_pos rfl, htarget] at hnever
          cases hearly : earlier (some instant) (sv.watchTurn x).abandonAt with
          | none => exact absurd hearly (earlier_ne_none _ _)
          | some first =>
              rw [hearly] at hnever
              exact absurd hnever (earlier_ne_none _ _)
      | turns count =>
          have hstood : (sv.watchTurn x).state.stoodBack = true :=
            (sv.watch_eq x.state).1.trans hturn
          cases hstood.symm.trans hasleep.1
      | watchdogs =>
          -- it has closed the supervisor, so that no watchdog is left
          have hdead := (sv.hushed_watchTurn (.inl (hawaits rfl))).2
          have hnone : (sv.watchTurn x).state.hasLiveWatchdog = false := by
            have hstopping : (sv.watchTurn x).state.stopping = [] := (sv.watch_eq x.state).2
            simp [Supervision.hasLiveWatchdog, hdead, hstopping]
          have hwaiting : (sv.watchTurn x).awaitsWatchdogs = true := by
            simp [Session.awaitsWatchdogs, watchTurn, ho, htask, TaskState.awaitsWatchdogs]
          have hroused : (sv.watchTurn x).isRoused = true := by
            simp [Session.isRoused, hwaiting, hnone]
          cases hroused.symm.trans hasleep.2
      | forever => exact hleft.pending_of_forever

/-! ## The whole run -/

theorem proceed_underway (sv : Supervisor σ) (h : x.Underway plan s)
    (hf : x.outcome = none → x.task ≠ .finished) :
    (sv.proceed x).Underway plan s ∧ (sv.proceed x).outcome.isSome = true := by
  -- what holds before every round, and after the turn of the parties
  refine sv.proceed_of_rounds
    (fun y => y.Underway plan s ∧ (y.outcome = none → y.task ≠ .finished))
    (fun y => y.Underway plan s ∧ y.Rests)
    (fun y => y.Underway plan s ∧ y.outcome.isSome = true) ?_ ?_ ?_ x ⟨h, hf⟩
  · intro y ⟨hy, hunfinished⟩
    have hturn := sv.underway_turn hy hunfinished
    cases hdone : (sv.turn y).isDone with
    | true =>
        rw [Session.isDone, Bool.and_eq_true] at hdone
        exact .inl ⟨rfl, hturn.1, hdone.1⟩
    | false => exact .inr ⟨rfl, hturn⟩
  · intro y z ⟨hy, hrests⟩ hz
    exact sv.underway_pass? (sv.underway_watchTurn hy hrests) (sv.rests_watchTurn hrests) hz
  · intro y ⟨hy, hrests⟩ hstuck
    have hwatched := sv.underway_watchTurn hy hrests
    unfold Session.giveUp
    split
    · rename_i hsome
      exact ⟨hwatched, hsome⟩
    · rename_i hnone
      have ho : y.outcome = none := Option.not_isSome_iff_eq_none.mp hnone
      have hpending := sv.pending_of_stuck hy hrests ho hstuck
      exact ⟨hwatched.finish _ fun _ => .inr (.unending rfl hpending), rfl⟩

theorem ended_of_underway (h : x.Underway plan s) (ho : x.outcome.isSome = true) :
    x.report.Ended plan s.now := by
  obtain ⟨o, ho⟩ := Option.isSome_iff_exists.mp ho
  have hended := h.ended o ho x.closer.closedAt?
  rw [Session.report, ho]
  exact hended

/-- In silence a run is not cancelled. -/
theorem concluded_of_hushed (h : x.Hushed y) (ho : x.outcome = none) (hy : y.Underway plan s)
    (hsome : y.outcome.isSome = true) : y.report.Concluded plan s.now := by
  rcases ended_of_underway hy hsome with ⟨call, hresult⟩ | hconcluded
  · obtain ⟨o, hlast⟩ := Option.isSome_iff_exists.mp hsome
    rw [Session.report, hlast] at hresult
    rcases h.outcome o hlast with hearlier | hne
    · cases ho.symm.trans hearlier
    · exact absurd hresult (hne call)
  · exact hconcluded

theorem underway_openRun (plan : RunPlan) (s : Supervision σ) :
    (openRun plan s).Underway plan (beginRun s) := by
  refine Session.underway_ofTask plan (beginRun s) ?_
  cases plan.closeAfter <;> rfl

/-- A run is cancelled because of a timeout, or ends by itself: when its last step is done, or
because it is given up, or because its task waits for something that never happens. -/
theorem run_ended (sv : Supervisor σ) (plan : RunPlan) (s : Supervision σ) :
    (sv.run plan s).1.Ended plan s.now := by
  obtain ⟨hunder, hsome⟩ :=
    sv.proceed_underway (underway_openRun plan s) fun _ hf => by cases hf
  exact ended_of_underway (s := beginRun s) hunder hsome

end Supervisor

end SyncLedger
