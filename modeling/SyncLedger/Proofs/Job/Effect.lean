import SyncLedger.Proofs.Job.Trace

/-!
# What an undisturbed reconciliation does

A reconciliation in which no call fails closes the active replication jobs of its connection
and leaves everything else as it was. For each of them the failure summaries of the attempts
that were running are filed, and the others are told about the closed job, in the order in
which the jobs are listed. `run_effect` says so for every store without shared identifiers;
what closing a job means is clear only if no two attempts of a job share a number, since
attempts are failed by their numbers: `outcome_eq_closed`.
-/

namespace SyncLedger

namespace Job

/-- The job moves data for the connection and is not over. -/
def IsActive (connection : Uuid) (j : Job) : Prop :=
  j.connectionId = connection ∧ j.configType.isReplication ∧ ¬ j.status.isTerminal

instance (connection : Uuid) (j : Job) : Decidable (j.IsActive connection) :=
  inferInstanceAs (Decidable (_ ∧ _ ∧ ¬ _))

/-- The job has failed, and so have its attempts that were running. -/
def closed (j : Job) : Job :=
  { j with
    status := .failed
    attempts := j.attempts.map fun a => if a.status = .running then a.fail else a }

theorem status_closed (j : Job) : j.closed.status = .failed := rfl

theorem runningAttempts_closed (j : Job) : j.closed.runningAttempts = [] := by
  rw [runningAttempts, List.filter_eq_nil_iff]
  intro a ha
  obtain ⟨b, -, rfl⟩ := List.mem_map.mp ha
  by_cases hb : b.status = .running
  · simp [hb, Attempt.fail]
  · simp [hb]

end Job

/-- What a summary was filed for. -/
def FiledSummary.place (f : FiledSummary) : JobId × AttemptNumber := (f.job, f.attempt)

namespace JobReconciler

variable {now : DateTime} {connection : Uuid}

theorem active_eq (connection : Uuid) (s : JobStore) :
    active connection s = s.jobs.filter fun job => job.IsActive connection := by
  apply List.filter_congr
  intro job _
  rw [Bool.eq_iff_iff, decide_eq_true_iff, Job.IsActive, Bool.not_eq_true,
    ← JobStatus.mem_nonTerminal_iff]
  simp [JobConfigType.isReplication, and_assoc]

theorem mem_active_iff {s : JobStore} {job : Job} :
    job ∈ active connection s ↔ job ∈ s.jobs ∧ job.IsActive connection := by
  rw [active_eq, List.mem_filter, decide_eq_true_iff]

/-- The summaries that are filed for a job. -/
def filings (now : DateTime) (job : Job) : List FiledSummary :=
  job.runningAttempts.map fun a =>
    ⟨job.id, a.number, .workflowRestarted job.id a.number now⟩

/-- What users and the tracker are told, out of everything that is done. -/
def told (calls : List JobCall) : List JobCall := calls.filter fun d => d.persistence?.isNone

section Outcome

variable {job : Job}

theorem failAttempt_mem_mutations_iff {n : AttemptNumber} :
    .failAttempt job.id n ∈ mutations now job ↔ ∃ a ∈ job.runningAttempts, a.number = n := by
  simp [mutations, attemptCalls, eq_comm]

theorem outcome_eq (now : DateTime) (job : Job) :
    outcome now job = { job with
      status := .failed
      attempts := job.attempts.map fun a =>
        if ∃ b ∈ job.runningAttempts, b.number = a.number then a.fail else a } := by
  rw [outcome, Job.afterAll_eq]
  simp only [failJob_mem_mutations, if_true, failAttempt_mem_mutations_iff]

/-- Attempts are failed by their numbers: with distinct numbers, just the running ones. -/
theorem outcome_eq_closed (hnumbers : (job.attempts.map Attempt.number).Nodup) :
    outcome now job = job.closed := by
  rw [outcome_eq, Job.closed]
  congr 1
  apply List.map_congr_left
  intro a ha
  have hiff : (∃ b ∈ job.runningAttempts, b.number = a.number) ↔ a.status = .running := by
    constructor
    · rintro ⟨b, hb, hnumber⟩
      obtain ⟨hmem, hrun⟩ := List.mem_filter.mp hb
      obtain rfl := List.inj_on_of_nodup_map hnumbers hmem ha hnumber
      simpa using hrun
    · intro hrun
      exact ⟨a, List.mem_filter.mpr ⟨ha, by simpa using hrun⟩, rfl⟩
  simp only [hiff]

theorem afterAll_jobCalls (now : DateTime) (job : Job) :
    job.afterAll (jobCalls now job) = outcome now job := by
  rw [jobCalls, Job.afterAll, List.foldl_append]
  rfl

theorem filed_jobCalls (now : DateTime) (job : Job) :
    (jobCalls now job).filterMap PersistenceCall.filed? = filings now job := by
  have hattempts : ∀ as : List Attempt,
      (as.flatMap fun a => attemptCalls now job.id a.number).filterMap PersistenceCall.filed? =
        as.map fun a => ⟨job.id, a.number, .workflowRestarted job.id a.number now⟩ := by
    intro as
    induction as with
    | nil => rfl
    | cons a as ih =>
        rw [List.flatMap_cons, List.filterMap_append, ih]
        rfl
  rw [jobCalls, mutations, List.cons_append, List.filterMap_cons_none rfl, List.filterMap_append,
    hattempts]
  exact List.append_nil _

theorem told_jobPlan (now : DateTime) (job : Job) :
    told (jobPlan now job) = news (outcome now job) := by
  rw [told, jobPlan, List.filter_append, List.filter_eq_nil_iff.mpr]
  · rfl
  · intro d hd
    obtain ⟨c, -, rfl⟩ := List.mem_map.mp hd
    simp [JobCall.persistence?]

end Outcome

section Plan

variable {jobs : List Job} {s : JobStore}

theorem landed_plan (now : DateTime) (connection : Uuid) (jobs : List Job) :
    landed (plan now connection jobs) = listing connection :: jobs.flatMap (jobCalls now) := by
  have hjobs : landed (jobs.flatMap (jobPlan now)) = jobs.flatMap (jobCalls now) := by
    induction jobs with
    | nil => rfl
    | cons job jobs ih =>
        rw [List.flatMap_cons, List.flatMap_cons, landed_append, landed_jobPlan, ih]
  exact congrArg (listing connection :: ·) hjobs

theorem told_plan (now : DateTime) (connection : Uuid) (jobs : List Job) :
    told (plan now connection jobs) = jobs.flatMap fun job => news (outcome now job) := by
  have hjobs : told (jobs.flatMap (jobPlan now)) =
      jobs.flatMap fun job => news (outcome now job) := by
    induction jobs with
    | nil => rfl
    | cons job jobs ih =>
        rw [List.flatMap_cons, List.flatMap_cons, told, List.filter_append, ← told, ← told, ih,
          told_jobPlan]
  exact hjobs

theorem filed_plan (now : DateTime) (connection : Uuid) (jobs : List Job) :
    (landed (plan now connection jobs)).filterMap PersistenceCall.filed? =
      jobs.flatMap (filings now) := by
  rw [landed_plan, List.filterMap_cons_none rfl, List.filterMap_flatMap]
  simp only [filed_jobCalls]

/-- Of all that is done for some jobs, a job is changed by what is done for it. -/
theorem afterAll_plan_of_mem (hdistinct : (jobs.map Job.id).Nodup) {job : Job} (hjob : job ∈ jobs) :
    job.afterAll (landed (plan now connection jobs)) = outcome now job := by
  rw [← afterAll_jobCalls, landed_plan]
  refine Job.afterAll_congr fun c hc => ?_
  rw [List.mem_cons, List.mem_flatMap]
  constructor
  · rintro (rfl | ⟨other, hother, hmem⟩)
    · cases hc
    · rw [job?_of_mem_jobCalls hmem] at hc
      rwa [List.inj_on_of_nodup_map hdistinct hother hjob (Option.some.inj hc)] at hmem
  · exact fun hmem => .inr ⟨job, hjob, hmem⟩

/-- The plan for the active jobs of a connection changes just these. -/
theorem jobs_afterAll_plan (hids : s.DistinctIds) (hjobs : jobs.Perm (active connection s)) :
    (s.afterAll (landed (plan now connection jobs))).jobs =
      s.jobs.map fun job => if job.IsActive connection then outcome now job else job := by
  rw [JobStore.jobs_afterAll hids]
  apply List.map_congr_left
  intro job hjob
  by_cases hactive : job.IsActive connection
  · have hmem : job ∈ jobs := hjobs.mem_iff.mpr (mem_active_iff.mpr ⟨hjob, hactive⟩)
    rw [if_pos hactive, afterAll_plan_of_mem (distinct_of_perm_active hids hjobs) hmem]
  · rw [if_neg hactive]
    refine Job.afterAll_of_ne fun c hc => job?_ne_of_mem_plan (fun other hother hid => ?_) hc
    obtain ⟨hstored, hother⟩ := mem_active_iff.mp (hjobs.mem_iff.mp hother)
    obtain rfl := List.inj_on_of_nodup_map hids hstored hjob hid
    exact hactive hother

/-- No two of the summaries that are filed for some jobs are for the same attempt. -/
theorem nodup_place_filings (hdistinct : (jobs.map Job.id).Nodup)
    (hnumbers : ∀ job ∈ jobs, (job.attempts.map Attempt.number).Nodup) :
    ((jobs.flatMap (filings now)).map FiledSummary.place).Nodup := by
  have hplaces : ∀ job, (filings now job).map FiledSummary.place =
      (job.runningAttempts.map Attempt.number).map (Prod.mk job.id) := by
    intro job
    rw [filings, List.map_map, List.map_map]
    rfl
  rw [List.map_flatMap, List.nodup_flatMap]
  constructor
  · intro job hjob
    rw [hplaces]
    refine ((hnumbers job hjob).sublist (List.filter_sublist.map _)).map ?_
    exact fun m n h => (Prod.mk.inj h).2
  · refine (List.pairwise_map.mp hdistinct).imp fun {job other} hne => ?_
    change ((filings now job).map FiledSummary.place).Disjoint
      ((filings now other).map FiledSummary.place)
    rw [hplaces, hplaces, List.disjoint_left]
    intro place hjob hother
    obtain ⟨m, -, rfl⟩ := List.mem_map.mp hjob
    obtain ⟨n, -, h⟩ := List.mem_map.mp hother
    exact hne (Prod.mk.inj h).1.symm

end Plan

variable {σ : Type} {layer : JobPersistence σ} {view : σ → JobStore}

theorem run_of_listing_error {s : σ} {e : PersistenceError}
    (h : (layer.perform (listing connection) s).1 = .error e) :
    (run layer now connection s).1 = .error ⟨listing connection, e⟩ := by
  rw [listing] at h
  simp only [run, failNonTerminal, Bind.bind, EStateM.bind, call, h]
  rfl

/-- A reconciliation that succeeds does all of the plan for the jobs that it lists. -/
theorem run_effect (hlayer : layer.Faithful view) {s : σ} (hids : (view s).DistinctIds)
    (hok : (run layer now connection s).1 = .ok ()) :
    ∃ listed : List Job, (layer.perform (listing connection) s).1 = .ok listed ∧
      listed.Perm (active connection (view s)) ∧
      (run layer now connection s).2.calls = plan now connection listed ∧
      view (run layer now connection s).2.store =
        (view s).afterAll (landed (plan now connection listed)) := by
  cases hlist : (layer.perform (listing connection) s).1 with
  | error e =>
      rw [run_of_listing_error hlist] at hok
      cases hok
  | ok listed =>
      refine ⟨listed, rfl, hlayer.listed _ _ _ _ _ hlist, ?_⟩
      have hreply : ∀ reply, (layer.perform (listing connection) s).1 = .ok reply →
          reply = listed := fun _ h => Except.ok.inj (h.symm.trans hlist)
      rcases run_cases_of_listed hlayer now connection hids hreply with
        ⟨-, hcalls, hstore⟩ | ⟨e, p, q, herror, -⟩
      · exact ⟨hcalls, hstore⟩
      · rw [hok] at herror
        cases herror

/-- A reconciliation in which no call fails succeeds. Exactly the active replication jobs of
the connection are closed, one failure summary is filed for each of their attempts that were
running, and then users and the tracker are told about each of them once, as it is after it
was closed, in the order in which they are listed. -/
theorem run_closes_active (hlayer : layer.Faithful view) (now : DateTime) (connection : Uuid)
    (s : σ) (hids : (view s).DistinctIds)
    (hnumbers : ∀ job ∈ (view s).jobs, (job.attempts.map Attempt.number).Nodup)
    (hcalm : layer.allSucceed s (landed (run layer now connection s).2.calls)) :
    let done := run layer now connection s
    done.1 = .ok () ∧
      (view done.2.store).jobs =
        (view s).jobs.map (fun job => if job.IsActive connection then job.closed else job) ∧
      ∃ listed : List Job, (layer.perform (listing connection) s).1 = .ok listed ∧
        listed.Perm ((view s).jobs.filter fun job => job.IsActive connection) ∧
        (listed.map Job.id).Nodup ∧
        (view done.2.store).summaries = (view s).summaries ++ listed.flatMap (filings now) ∧
        ((listed.flatMap (filings now)).map FiledSummary.place).Nodup ∧
        told done.2.calls =
          listed.flatMap (fun job => [.notify reason job.closed, .track job.closed .failed]) ∧
        ∀ job ∈ listed, job.closed.status = .failed ∧ job.closed.runningAttempts = [] := by
  intro done
  have hok : done.1 = .ok () := run_eq_ok_iff.mpr hcalm
  obtain ⟨listed, hlisted, hperm, hcalls, hstore⟩ := run_effect hlayer hids hok
  have hdistinct := distinct_of_perm_active hids hperm
  have hclosed : ∀ job ∈ (view s).jobs, outcome now job = job.closed := fun job hjob =>
    outcome_eq_closed (hnumbers job hjob)
  have hstored : ∀ job ∈ listed, job ∈ (view s).jobs := fun job hjob =>
    (mem_active.mp (hperm.mem_iff.mp hjob)).1
  have hfilter := active_eq connection (view s) ▸ hperm
  refine ⟨hok, ?_, listed, hlisted, hfilter, hdistinct, ?_, ?_, ?_, ?_⟩
  · rw [hstore, jobs_afterAll_plan hids hperm]
    apply List.map_congr_left
    intro job hjob
    rw [hclosed job hjob]
  · rw [hstore, JobStore.summaries_afterAll, filed_plan]
  · exact nodup_place_filings hdistinct fun job hjob => hnumbers job (hstored job hjob)
  · rw [hcalls, told_plan]
    apply List.flatMap_congr
    intro job hjob
    rw [hclosed job (hstored job hjob), news]
  · exact fun job _ => ⟨job.status_closed, job.runningAttempts_closed⟩

/-- Two active jobs of the first connection, one of them without attempts, and three jobs that
are over, move no data or belong to another connection. -/
def mixedStore : JobStore :=
  ⟨[⟨⟨1⟩, .ofNat 1, .sync, .epoch, .running, [⟨0, ⟨1⟩, .failed⟩, ⟨1, ⟨1⟩, .running⟩]⟩,
    ⟨⟨2⟩, .ofNat 1, .refresh, .epoch, .pending, []⟩,
    ⟨⟨3⟩, .ofNat 1, .sync, .epoch, .succeeded, [⟨0, ⟨3⟩, .succeeded⟩]⟩,
    ⟨⟨4⟩, .ofNat 1, .getSpec, .epoch, .running, [⟨0, ⟨4⟩, .running⟩]⟩,
    ⟨⟨5⟩, .ofNat 2, .sync, .epoch, .running, [⟨0, ⟨5⟩, .running⟩]⟩], []⟩

theorem run_closes_active_mixedStore :
    let done := run JobStore.persistence .epoch (.ofNat 1) mixedStore
    mixedStore.DistinctIds ∧ JobStore.persistence.allSucceed mixedStore (landed done.2.calls) ∧
      done.1 = .ok () ∧
      done.2.store.jobs.map Job.status = [.failed, .failed, .succeeded, .running, .running] ∧
      done.2.store.jobs.map (fun job => job.runningAttempts.length) = [0, 0, 0, 1, 1] := by
  have hcalm : JobStore.persistence.allSucceed mixedStore
      (landed (run JobStore.persistence .epoch (.ofNat 1) mixedStore).2.calls) := by
    decide +kernel
  have h := run_closes_active JobStore.persistence_faithful .epoch (.ofNat 1) mixedStore
    (by decide) (by decide) hcalm
  -- nothing below has to evaluate the run again
  generalize run JobStore.persistence .epoch (.ofNat 1) mixedStore = done at h hcalm ⊢
  obtain ⟨hok, hjobs, -⟩ := h
  refine ⟨by decide, hcalm, hok, ?_, ?_⟩
  · rw [show done.2.store.jobs = _ from hjobs]
    decide
  · rw [show done.2.store.jobs = _ from hjobs]
    decide

end JobReconciler

end SyncLedger
