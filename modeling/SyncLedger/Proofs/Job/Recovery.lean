import SyncLedger.Proofs.Job.Reconcile

/-!
# Calling again after a failure

A reconciliation that fails leaves some active jobs finished, some untouched, and at most
one begun: the job that the failing call is about, if that call was not the one that fails
the job. A second call that meets no failure finishes the untouched jobs. It does not list
the begun one any more, because that one has failed already; so the attempts of that job
that are still running stay so, and nobody is told about it. `settled_after_retry_iff` says
that this is the only way in which calling again falls short.
-/

namespace SyncLedger.JobReconciler

/-- Everything that a reconciliation owes to an active job. -/
structure Settled (job : Job) (store : JobStore) (calls : List JobCall) : Prop where
  closed : ∃ current ∈ store.jobs,
    current.id = job.id ∧ current.status = .failed ∧ current.runningAttempts = []
  filed : ∀ a ∈ job.runningAttempts, ∃ now,
    ⟨job.id, a.number, .workflowRestarted job.id a.number now⟩ ∈ store.summaries
  notified : ∃ current, current.id = job.id ∧ current.status = .failed ∧
    .notify reason current ∈ calls
  tracked : ∃ current, current.id = job.id ∧ current.status = .failed ∧
    .track current .failed ∈ calls

/-- A reconciliation stopped in the middle of a job: the call that failed is about the job,
and is not the one that fails it. -/
def Interrupts (id : JobId) : Except FailJobsError Unit → Prop
  | .ok _ => False
  | .error e => e.call.job? = some id ∧ e.call ≠ .failJob id

/-- How far a reconciliation with the result `r` has come with a job, by the calls that had
an effect and by everything that was done. -/
inductive Progress (now : DateTime) (job : Job) (r : Except FailJobsError Unit)
    (cs : List PersistenceCall) (calls : List JobCall) : Prop where
  | finished (result : ¬ Interrupts job.id r) (landed : ∀ c ∈ mutations now job, c ∈ cs)
      (told : ∀ d ∈ news (outcome now job), d ∈ calls)
  | untouched (result : ¬ Interrupts job.id r) (others : ∀ c ∈ cs, c.job? ≠ some job.id)
  | begun (result : Interrupts job.id r) (failed : .failJob job.id ∈ cs)
      (untold : ∀ current, .notify reason current ∈ calls → current.id ≠ job.id)

theorem exists_failed_of_mem {s : JobStore} (hids : s.DistinctIds) {job : Job}
    (hjob : job ∈ s.jobs) {cs : List PersistenceCall} (hcs : .failJob job.id ∈ cs) :
    ∃ current ∈ (s.afterAll cs).jobs, current.id = job.id ∧ current.status = .failed := by
  refine ⟨job.afterAll cs, ?_, job.id_afterAll cs, ?_⟩
  · rw [JobStore.jobs_afterAll hids]
    exact List.mem_map_of_mem hjob
  · rw [Job.status_afterAll, if_pos hcs]

/-- A job with all of its mutations and its news is settled. -/
theorem settled_of_finished {s : JobStore} (hids : s.DistinctIds) {now : DateTime} {job : Job}
    (hjob : job ∈ s.jobs) {cs : List PersistenceCall} {calls : List JobCall}
    (hcs : ∀ c ∈ mutations now job, c ∈ cs) (hcalls : ∀ d ∈ news (outcome now job), d ∈ calls) :
    Settled job (s.afterAll cs) calls where
  closed := by
    refine ⟨job.afterAll cs, ?_, job.id_afterAll cs, ?_, ?_⟩
    · rw [JobStore.jobs_afterAll hids]
      exact List.mem_map_of_mem hjob
    · rw [Job.status_afterAll, if_pos (hcs _ (failJob_mem_mutations now job))]
    · exact Job.runningAttempts_afterAll fun a ha => hcs _ (failAttempt_mem_mutations ha)
  filed a ha := by
    refine ⟨now, ?_⟩
    rw [JobStore.summaries_afterAll]
    exact List.mem_append_right _
      (List.mem_filterMap.mpr ⟨_, hcs _ (writeFailureSummary_mem_mutations ha), rfl⟩)
  notified := by
    refine ⟨outcome now job, id_outcome now job, ?_, hcalls _ List.mem_cons_self⟩
    rw [outcome, Job.status_afterAll, if_pos (failJob_mem_mutations now job)]
  tracked := by
    refine ⟨outcome now job, id_outcome now job, ?_, hcalls _ (List.mem_cons_of_mem _ List.mem_cons_self)⟩
    rw [outcome, Job.status_afterAll, if_pos (failJob_mem_mutations now job)]

section Run

variable {σ : Type} {layer : JobPersistence σ} {view : σ → JobStore}

/-- A reconciliation that does not fail finishes the active jobs and tells about no other. -/
theorem run_finished (hlayer : layer.Faithful view) {now : DateTime} {connection : Uuid} {s : σ}
    (hids : (view s).DistinctIds) (hok : (run layer now connection s).1 = .ok ()) :
    ∃ cs, view (run layer now connection s).2.store = (view s).afterAll cs ∧
      (∀ job ∈ active connection (view s), (∀ c ∈ mutations now job, c ∈ cs) ∧
        ∀ d ∈ news (outcome now job), d ∈ (run layer now connection s).2.calls) ∧
      ∀ current, .notify reason current ∈ (run layer now connection s).2.calls →
        ∃ job ∈ active connection (view s), current.id = job.id := by
  obtain ⟨jobs, hjobs, ⟨-, calls, store⟩ | ⟨e, p, q, herror, -⟩⟩ :=
    run_cases hlayer now connection hids
  · refine ⟨_, store, fun job hjob => ?_, fun current hcurrent => ?_⟩
    · have hmem := hjobs.mem_iff.mpr hjob
      rw [calls]
      exact ⟨fun c hc => List.mem_cons_of_mem _ (mutations_mem_landed hmem hc),
        fun d hd => List.mem_cons_of_mem _ (news_mem_plan hmem hd)⟩
    · rw [calls] at hcurrent
      obtain ⟨job, hjob, hid⟩ := exists_of_notify_mem_plan hcurrent
      exact ⟨job, hjobs.mem_iff.mp hjob, hid⟩
  · rw [hok] at herror
    cases herror

section Stop

variable {now : DateTime} {connection : Uuid} {before : List Job} {here : Job}
  {e : FailJobsError} {cs ds : List PersistenceCall}

/-- A reconciliation that stops in the plan of a job has finished the jobs before it. -/
theorem progress_before (hcalls : jobCalls now here = cs ++ e.call :: ds) {job : Job}
    (hjob : job ∈ before) (hne : job.id ≠ here.id) :
    Progress now job (.error e) (landed (plan now connection before) ++ cs)
      (plan now connection before ++ cs.map .persistence ++ [.persistence e.call]) := by
  refine .finished ?_ ?_ ?_
  · rw [Interrupts, job?_of_split hcalls]
    exact fun h => hne (Option.some.inj h.1).symm
  · intro c hc
    exact List.mem_append_left _ (List.mem_cons_of_mem _ (mutations_mem_landed hjob hc))
  · intro d hd
    rw [List.append_assoc]
    exact List.mem_append_left _ (List.mem_cons_of_mem _ (news_mem_plan hjob hd))

/-- The job itself is untouched if the call that fails it failed, and begun if another did. -/
theorem progress_here (hcalls : jobCalls now here = cs ++ e.call :: ds)
    (hbefore : ∀ j ∈ before, j.id ≠ here.id) :
    Progress now here (.error e) (landed (plan now connection before) ++ cs)
      (plan now connection before ++ cs.map .persistence ++ [.persistence e.call]) := by
  rcases failJob_mem_of_split hcalls with ⟨rfl, hfirst⟩ | ⟨hfailed, hlater⟩
  · refine .untouched (fun h => h.2 hfirst) ?_
    rw [List.append_nil]
    intro c hc
    exact job?_ne_of_mem_plan hbefore hc
  · refine .begun ⟨job?_of_split hcalls, hlater⟩ (List.mem_append_right _ hfailed) ?_
    intro current hcurrent
    rw [List.append_assoc, List.mem_append] at hcurrent
    rcases hcurrent with hcurrent | hcurrent
    · obtain ⟨j, hj, hid⟩ := exists_of_notify_mem_plan hcurrent
      rw [hid]
      exact hbefore j hj
    · simp at hcurrent

/-- The jobs that would have come later are untouched. -/
theorem progress_later (hcalls : jobCalls now here = cs ++ e.call :: ds) {job : Job}
    (hbefore : ∀ j ∈ before, j.id ≠ job.id) (hne : here.id ≠ job.id) :
    Progress now job (.error e) (landed (plan now connection before) ++ cs)
      (plan now connection before ++ cs.map .persistence ++ [.persistence e.call]) := by
  refine .untouched ?_ ?_
  · rw [Interrupts, job?_of_split hcalls]
    exact fun h => hne (Option.some.inj h.1)
  · intro c hc
    rcases List.mem_append.mp hc with hc | hc
    · exact job?_ne_of_mem_plan hbefore hc
    · have hmem : c ∈ jobCalls now here := by
        rw [hcalls]
        exact List.mem_append_left _ hc
      rw [job?_of_mem_jobCalls hmem]
      exact fun h => hne (Option.some.inj h)

end Stop

theorem progress_of_split {now : DateTime} {connection : Uuid} {before after : List Job}
    {here job : Job} (hdistinct : ((before ++ here :: after).map Job.id).Nodup)
    (hjob : job ∈ before ++ here :: after) {e : FailJobsError} {cs ds : List PersistenceCall}
    (hcalls : jobCalls now here = cs ++ e.call :: ds) :
    Progress now job (.error e) (landed (plan now connection before) ++ cs)
      (plan now connection before ++ cs.map .persistence ++ [.persistence e.call]) := by
  rw [List.map_append, List.map_cons, List.nodup_append, List.nodup_cons] at hdistinct
  obtain ⟨-, ⟨hafter, -⟩, hbefore⟩ := hdistinct
  rcases List.mem_append.mp hjob with hjob | hjob
  · exact progress_before hcalls hjob
      (hbefore _ (List.mem_map_of_mem hjob) _ List.mem_cons_self)
  have hids : ∀ j ∈ before, j.id ≠ job.id := fun j hj =>
    hbefore _ (List.mem_map_of_mem hj) _ (List.mem_map_of_mem (f := Job.id) hjob)
  rcases List.mem_cons.mp hjob with rfl | hjob
  · exact progress_here hcalls hids
  · exact progress_later hcalls hids fun h => hafter (h ▸ List.mem_map_of_mem hjob)

/-- A reconciliation finishes an active job, does not touch it, or stops in the middle of
it. -/
theorem run_progress (hlayer : layer.Faithful view) (now : DateTime) (connection : Uuid) {s : σ}
    (hids : (view s).DistinctIds) :
    ∃ cs, view (run layer now connection s).2.store = (view s).afterAll cs ∧
      ∀ job ∈ active connection (view s),
        Progress now job (run layer now connection s).1 cs (run layer now connection s).2.calls := by
  obtain ⟨jobs, hjobs, ⟨hok, -, -⟩ | ⟨e, p, q, herror, hplan, calls, store⟩⟩ :=
    run_cases hlayer now connection hids
  · obtain ⟨cs, store, hfinished, -⟩ := run_finished hlayer hids hok
    refine ⟨cs, store, fun job hjob => .finished ?_ (hfinished job hjob).1 (hfinished job hjob).2⟩
    rw [hok]
    exact id
  · refine ⟨_, store, fun job hjob => ?_⟩
    have hdistinct := distinct_of_perm_active hids hjobs
    have hmem := hjobs.mem_iff.mpr hjob
    rw [herror, calls]
    rcases plan_split hplan with
      ⟨rfl, hlisting⟩ | ⟨before, here, after, cs, ds, rfl, hcalls, rfl⟩
    · -- the listing itself failed
      refine .untouched ?_ (by simp)
      rw [Interrupts, hlisting]
      exact fun h => absurd h.1 (by simp [listing, PersistenceCall.job?])
    · rw [landed_append, landed_map_persistence]
      exact progress_of_split hdistinct hmem hcalls

/-- After a second call that meets no failure every job that was active before the first
call has failed. It is settled by the two calls exactly if the first one did not stop in the
middle of it. -/
theorem settled_after_retry_iff (hlayer : layer.Faithful view) (first second : DateTime)
    (connection : Uuid) (s : σ) (hids : (view s).DistinctIds)
    (hretry : (run layer second connection (run layer first connection s).2.store).1 = .ok ())
    (job : Job) (hjob : job ∈ active connection (view s)) :
    let a := run layer first connection s
    let b := run layer second connection a.2.store
    (∃ current ∈ (view b.2.store).jobs, current.id = job.id ∧ current.status = .failed) ∧
      (Settled job (view b.2.store) (a.2.calls ++ b.2.calls) ↔ ¬ Interrupts job.id a.1) := by
  intro a b
  obtain ⟨cs, hstore, hprogress⟩ := run_progress hlayer first connection hids
  have hmid : (view a.2.store).DistinctIds := by
    rw [hstore]
    exact hids.afterAll cs
  obtain ⟨ds, hstore', hfinished, htold⟩ := run_finished hlayer hmid hretry
  have hfinal : view b.2.store = (view s).afterAll (cs ++ ds) := by
    rw [JobStore.afterAll_append, ← hstore]
    exact hstore'
  have hstored := (mem_active.mp hjob).1
  rw [hfinal]
  have hclosed : .failJob job.id ∈ cs ++ ds → _ := exists_failed_of_mem hids hstored
  cases hprogress job hjob with
  | finished result landed told =>
      refine ⟨hclosed (List.mem_append_left _ (landed _ (failJob_mem_mutations first job))), ?_⟩
      refine iff_of_true ?_ result
      exact settled_of_finished hids hstored (fun c hc => List.mem_append_left _ (landed c hc))
        fun d hd => List.mem_append_left _ (told d hd)
  | untouched result others =>
      -- the second call lists the job again, as it was
      have hagain : job ∈ active connection (view a.2.store) := by
        refine mem_active.mpr ⟨?_, (mem_active.mp hjob).2⟩
        rw [hstore, JobStore.jobs_afterAll hids]
        exact List.mem_map.mpr ⟨job, hstored, Job.afterAll_of_ne others⟩
      obtain ⟨landed, told⟩ := hfinished job hagain
      refine ⟨hclosed (List.mem_append_right _ (landed _ (failJob_mem_mutations second job))), ?_⟩
      refine iff_of_true ?_ result
      exact settled_of_finished hids hstored (fun c hc => List.mem_append_right _ (landed c hc))
        fun d hd => List.mem_append_right _ (told d hd)
  | begun result failed untold =>
      refine ⟨hclosed (List.mem_append_left _ failed), ?_⟩
      refine iff_of_false ?_ (not_not_intro result)
      intro hsettled
      obtain ⟨current, hid, -, hmem⟩ := hsettled.notified
      rcases List.mem_append.mp hmem with hmem | hmem
      · exact untold current hmem hid
      -- the second call tells only about jobs that were still active
      · obtain ⟨other, hother, hsame⟩ := htold current hmem
        obtain ⟨hthere, -, -, hstatus⟩ := mem_active.mp hother
        rw [hstore, JobStore.jobs_afterAll hids, List.mem_map] at hthere
        obtain ⟨j, hj, rfl⟩ := hthere
        rw [Job.id_afterAll, hid] at hsame
        obtain rfl := List.inj_on_of_nodup_map hids hstored hj hsame
        rw [Job.status_afterAll, if_pos failed] at hstatus
        simp [JobStatus.nonTerminal] at hstatus

end Run

/-- A job of the first connection that runs its only attempt. -/
def runningJob (id : JobId) : Job :=
  ⟨id, .ofNat 1, .sync, .epoch, .running, [⟨0, id, .running⟩]⟩

/-- A layer that keeps jobs in a list and makes some calls fail. -/
def faultyLayer : JobPersistence (JobStore × List Fault) :=
  JobStore.persistence.guarded Fault.policy

/-- Two jobs that run an attempt each; the first request to fail an attempt will fail. -/
def interrupted : JobStore × List Fault :=
  (⟨[runningJob ⟨1⟩, runningJob ⟨2⟩], []⟩,
    [⟨.failAttempt, "database unavailable", none, none, some 1⟩])

theorem settled_after_retry_iff_interrupted :
    let a := run faultyLayer .epoch (.ofNat 1) interrupted
    let b := run faultyLayer .epoch (.ofNat 1) a.2.store
    b.1 = .ok () ∧
      Settled (runningJob ⟨2⟩) b.2.store.1 (a.2.calls ++ b.2.calls) ∧
      ¬ Settled (runningJob ⟨1⟩) b.2.store.1 (a.2.calls ++ b.2.calls) := by
  intro a b
  have hstopped : a.1 = .error ⟨.failAttempt ⟨1⟩ 0, ⟨"database unavailable"⟩⟩ := rfl
  have hretry : b.1 = .ok () := rfl
  have h := settled_after_retry_iff (JobStore.persistence_faithful.guarded Fault.policy) .epoch
    .epoch (.ofNat 1) interrupted (by decide) hretry
  refine ⟨hretry, (h _ (by decide)).2.mpr ?_, fun hsettled => (h _ (by decide)).2.mp hsettled ?_⟩
  · change ¬ Interrupts ⟨2⟩ a.1
    rw [hstopped]
    exact fun hstop => absurd hstop.1 (by decide)
  · change Interrupts ⟨1⟩ a.1
    rw [hstopped]
    exact ⟨rfl, by decide⟩

/-- Calling again does not always settle every job that was active: a running attempt of the
job in which the first call stopped is left behind. -/
theorem not_settled_after_retry :
    ¬ ∀ (σ : Type) (layer : JobPersistence σ) (view : σ → JobStore), layer.Faithful view →
      ∀ (first second : DateTime) (connection : Uuid) (s : σ), (view s).DistinctIds →
        (∀ job ∈ (view s).jobs, (job.attempts.map Attempt.number).Nodup) →
        (run layer second connection (run layer first connection s).2.store).1 = .ok () →
        ∀ job ∈ active connection (view s),
          Settled job
            (view (run layer second connection (run layer first connection s).2.store).2.store)
            ((run layer first connection s).2.calls ++
              (run layer second connection (run layer first connection s).2.store).2.calls) := by
  intro h
  have hsettled := h _ faultyLayer _ (JobStore.persistence_faithful.guarded Fault.policy) .epoch
    .epoch (.ofNat 1) interrupted (by decide) (by decide) rfl (runningJob ⟨1⟩) (by decide)
  exact absurd hsettled.closed (by decide)

end SyncLedger.JobReconciler
