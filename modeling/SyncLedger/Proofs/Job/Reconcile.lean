import SyncLedger.Job.Reconcile
import SyncLedger.Proofs.Job.Persistence

/-!
# The script of a reconciliation

What a reconciliation does is fixed by the jobs that it lists: `JobReconciler.plan` is the
list of everything that is done for them, in order. With a faithful layer a reconciliation
either does all of its plan, and the store afterwards is the store after all calls of the
plan, or it stops at a call of the persistence layer that fails: then it did what stands
before that call in the plan, the call itself had no effect, and its error names the call.
`Follows` says this of any part of a reconciliation, and two parts in a row follow the
two plans in a row.
-/

namespace SyncLedger

/-- The call of the persistence layer that something is, if it is one. -/
def JobCall.persistence? : JobCall → Option PersistenceCall
  | .persistence c => some c
  | .notify _ _ => none
  | .track _ _ => none

namespace JobReconciler

variable {σ : Type} {layer : JobPersistence σ} {view : σ → JobStore}

/-- The calls of the persistence layer in a plan. -/
def landed (plan : List JobCall) : List PersistenceCall := plan.filterMap JobCall.persistence?

@[simp] theorem landed_nil : landed [] = [] := rfl

@[simp] theorem landed_cons_persistence (c : PersistenceCall) (q : List JobCall) :
    landed (.persistence c :: q) = c :: landed q := rfl

theorem landed_append (p q : List JobCall) : landed (p ++ q) = landed p ++ landed q :=
  List.filterMap_append

theorem landed_map_persistence (cs : List PersistenceCall) :
    landed (cs.map .persistence) = cs := by
  induction cs with
  | nil => rfl
  | cons c cs ih => exact congrArg (c :: ·) ih

theorem mem_landed {plan : List JobCall} {c : PersistenceCall} :
    c ∈ landed plan ↔ .persistence c ∈ plan := by
  rw [landed, List.mem_filterMap]
  constructor
  · rintro ⟨d, hd, hc⟩
    cases d with
    | persistence d => exact Option.some.inj hc ▸ hd
    | notify => exact absurd hc (by simp [JobCall.persistence?])
    | track => exact absurd hc (by simp [JobCall.persistence?])
  · intro h
    exact ⟨_, h, rfl⟩

/-- A part of a reconciliation that starts in `s` and ends with `r` follows a plan. -/
inductive Follows (view : σ → JobStore) (s : Reconciliation σ) (plan : List JobCall) :
    EStateM.Result FailJobsError (Reconciliation σ) Unit → Prop where
  | done {t : Reconciliation σ} (calls : t.calls = s.calls ++ plan)
      (store : view t.store = (view s.store).afterAll (landed plan)) :
      Follows view s plan (.ok () t)
  | stopped {t : Reconciliation σ} {e : FailJobsError} {p q : List JobCall}
      (split : plan = p ++ .persistence e.call :: q)
      (calls : t.calls = s.calls ++ (p ++ [.persistence e.call]))
      (store : view t.store = (view s.store).afterAll (landed p)) :
      Follows view s plan (.error e t)

theorem Follows.store_eq {s t : Reconciliation σ} {plan : List JobCall}
    (h : Follows view s plan (.ok () t)) :
    view t.store = (view s.store).afterAll (landed plan) := by
  cases h with
  | done _ store => exact store

/-- Two parts in a row follow the two plans in a row. -/
theorem Follows.bind {s : Reconciliation σ} {p q : List JobCall} {x : Work σ Unit}
    {f : Unit → Work σ Unit} (hx : Follows view s p (x s))
    (hf : ∀ t, Follows view s p (.ok () t) → Follows view t q (f () t)) :
    Follows view s (p ++ q) ((x >>= f) s) := by
  simp only [Bind.bind, EStateM.bind]
  generalize hr : x s = r at hx
  cases hx with
  | @done t calls store =>
      have ht := hf t (.done calls store)
      generalize hr' : f () t = r' at ht
      cases ht with
      | done calls' store' =>
          simp only [hr']
          refine .done ?_ ?_
          · rw [calls', calls, List.append_assoc]
          · rw [store', store, landed_append, JobStore.afterAll_append]
      | @stopped u e p' q' split calls' store' =>
          simp only [hr']
          refine .stopped (p := p ++ p') (q := q') ?_ ?_ ?_
          · rw [split, List.append_assoc]
          · rw [calls', calls]
            simp only [List.append_assoc]
          · rw [store', store, landed_append, JobStore.afterAll_append]
  | @stopped t e p' q' split calls store =>
      exact .stopped (q := q' ++ q) (by rw [split]; simp) calls store

theorem Follows.pure (s : Reconciliation σ) : Follows view s [] ((Pure.pure () : Work σ Unit) s) :=
  .done (List.append_nil _).symm rfl

/-- A call comes first in the plan of what it is followed by. The rest may count on the
reply of the layer and on the effect of the call. -/
theorem Follows.call_bind (hlayer : layer.Faithful view) {c : PersistenceCall}
    {s : Reconciliation σ} {q : List JobCall} {f : c.Reply → Work σ Unit}
    (hf : ∀ r t, (layer.perform c s.store).1 = .ok r → view t.store = (view s.store).after c →
      Follows view t q (f r t)) :
    Follows view s (.persistence c :: q) ((call layer c >>= f) s) := by
  simp only [Bind.bind, EStateM.bind, call]
  cases hr : (layer.perform c s.store).1 with
  | error e => exact .stopped (p := []) rfl rfl (hlayer.failed c s.store e hr)
  | ok r =>
      have hstore := hlayer.done c s.store r hr
      have ht := hf r ⟨(layer.perform c s.store).2, s.calls ++ [.persistence c], s.events⟩ hr hstore
      simp only
      generalize f r _ = r' at ht
      cases ht with
      | done calls store =>
          refine .done ?_ ?_
          · rw [calls, List.append_assoc, List.singleton_append]
          · rw [store, hstore]
            rfl
      | @stopped u e p' q' split calls store =>
          refine .stopped (p := .persistence c :: p') (q := q') ?_ ?_ ?_
          · rw [split, List.cons_append]
          · rw [calls, List.append_assoc, List.singleton_append, List.cons_append]
          · rw [store, hstore]
            rfl

/-- The calls that fail an attempt and file why. -/
def attemptCalls (now : DateTime) (id : JobId) (n : AttemptNumber) : List PersistenceCall :=
  [.failAttempt id n, .writeFailureSummary id n (.workflowRestarted id n now)]

/-- The calls that change the store when a job is failed. -/
def mutations (now : DateTime) (job : Job) : List PersistenceCall :=
  .failJob job.id :: job.runningAttempts.flatMap fun a => attemptCalls now job.id a.number

/-- A job after it was failed. -/
def outcome (now : DateTime) (job : Job) : Job := job.afterAll (mutations now job)

/-- The calls of the persistence layer that are made for a job. -/
def jobCalls (now : DateTime) (job : Job) : List PersistenceCall :=
  mutations now job ++ [.getJob job.id]

/-- What others are told about a job in the end. -/
def news (job : Job) : List JobCall := [.notify reason job, .track job .failed]

/-- Everything that is done for a job. -/
def jobPlan (now : DateTime) (job : Job) : List JobCall :=
  (jobCalls now job).map .persistence ++ news (outcome now job)

/-- The call that lists the jobs of a reconciliation. -/
def listing (connection : Uuid) : PersistenceCall :=
  .listJobs connection JobConfigType.replicationTypes JobStatus.nonTerminal

/-- Everything that is done when some jobs are listed. -/
def plan (now : DateTime) (connection : Uuid) (jobs : List Job) : List JobCall :=
  .persistence (listing connection) :: jobs.flatMap (jobPlan now)

@[simp] theorem id_outcome (now : DateTime) (job : Job) : (outcome now job).id = job.id :=
  job.id_afterAll _

theorem landed_jobPlan (now : DateTime) (job : Job) :
    landed (jobPlan now job) = jobCalls now job := by
  rw [jobPlan, landed_append, landed_map_persistence]
  exact List.append_nil _

section Plan

variable {now : DateTime} {job : Job}

theorem failJob_mem_mutations (now : DateTime) (job : Job) :
    .failJob job.id ∈ mutations now job :=
  List.mem_cons_self

theorem failAttempt_mem_mutations {a : Attempt} (ha : a ∈ job.runningAttempts) :
    .failAttempt job.id a.number ∈ mutations now job :=
  List.mem_cons_of_mem _ (List.mem_flatMap.mpr ⟨a, ha, List.mem_cons_self⟩)

theorem writeFailureSummary_mem_mutations {a : Attempt} (ha : a ∈ job.runningAttempts) :
    .writeFailureSummary job.id a.number (.workflowRestarted job.id a.number now) ∈
      mutations now job := by
  refine List.mem_cons_of_mem _ (List.mem_flatMap.mpr ⟨a, ha, ?_⟩)
  exact List.mem_cons_of_mem _ List.mem_cons_self

/-- All calls for a job are about it. -/
theorem job?_of_mem_jobCalls {c : PersistenceCall} (hc : c ∈ jobCalls now job) :
    c.job? = some job.id := by
  rw [jobCalls, mutations, List.mem_append, List.mem_cons, List.mem_singleton] at hc
  rcases hc with (rfl | hc) | rfl
  · rfl
  · obtain ⟨a, -, hc⟩ := List.mem_flatMap.mp hc
    simp only [attemptCalls, List.mem_cons, List.not_mem_nil, or_false] at hc
    rcases hc with rfl | rfl <;> rfl
  · rfl

theorem job?_of_split {c : PersistenceCall} {cs ds : List PersistenceCall}
    (h : jobCalls now job = cs ++ c :: ds) : c.job? = some job.id := by
  have hmem : c ∈ jobCalls now job := by
    rw [h]
    exact List.mem_append_right cs List.mem_cons_self
  exact job?_of_mem_jobCalls hmem

theorem persistence_not_mem_news (c : PersistenceCall) : .persistence c ∉ news job := by
  simp [news]

/-- Users are told about a job by its own plan only. -/
theorem id_of_notify_mem_jobPlan {current : Job}
    (h : .notify reason current ∈ jobPlan now job) : current.id = job.id := by
  rw [jobPlan, List.mem_append] at h
  rcases h with h | h
  · obtain ⟨c, -, hc⟩ := List.mem_map.mp h
    cases hc
  · simp only [news, List.mem_cons, JobCall.notify.injEq, true_and, reduceCtorEq,
      List.not_mem_nil, or_false] at h
    rw [h, id_outcome]

theorem mutations_mem_landed {jobs : List Job} (hjob : job ∈ jobs) {c : PersistenceCall}
    (hc : c ∈ mutations now job) : c ∈ landed (jobs.flatMap (jobPlan now)) := by
  refine mem_landed.mpr (List.mem_flatMap.mpr ⟨job, hjob, ?_⟩)
  exact List.mem_append_left _ (List.mem_map_of_mem (List.mem_append_left _ hc))

theorem news_mem_plan {jobs : List Job} (hjob : job ∈ jobs) {d : JobCall}
    (hd : d ∈ news (outcome now job)) : d ∈ jobs.flatMap (jobPlan now) :=
  List.mem_flatMap.mpr ⟨job, hjob, List.mem_append_right _ hd⟩

/-- No call of a plan is about a job that the plan does not list. -/
theorem job?_ne_of_mem_plan {connection : Uuid} {jobs : List Job} {id : JobId}
    (hjobs : ∀ j ∈ jobs, j.id ≠ id) {c : PersistenceCall}
    (hc : c ∈ landed (plan now connection jobs)) : c.job? ≠ some id := by
  rcases List.mem_cons.mp hc with rfl | hc
  · simp [listing, PersistenceCall.job?]
  · obtain ⟨j, hj, hcj⟩ := List.mem_flatMap.mp (mem_landed.mp hc)
    rw [← mem_landed, landed_jobPlan] at hcj
    rw [job?_of_mem_jobCalls hcj]
    exact fun h => hjobs j hj (Option.some.inj h)

theorem exists_of_notify_mem_plan {connection : Uuid} {jobs : List Job} {current : Job}
    (h : .notify reason current ∈ plan now connection jobs) :
    ∃ job ∈ jobs, current.id = job.id := by
  rcases List.mem_cons.mp h with h | h
  · cases h
  · obtain ⟨job, hjob, hnews⟩ := List.mem_flatMap.mp h
    exact ⟨job, hjob, id_of_notify_mem_jobPlan hnews⟩

/-- A call in the plan of a job comes before the news. -/
theorem jobCalls_split {c : PersistenceCall} {p q : List JobCall}
    (h : jobPlan now job = p ++ .persistence c :: q) :
    ∃ cs ds, jobCalls now job = cs ++ c :: ds ∧ p = cs.map .persistence := by
  rw [jobPlan, List.append_eq_append_iff] at h
  rcases h with ⟨r, -, hnews⟩ | ⟨r, hcalls, hnews⟩
  · have hmem : .persistence c ∈ news (outcome now job) := by
      rw [hnews]
      exact List.mem_append_right r List.mem_cons_self
    exact absurd hmem (persistence_not_mem_news c)
  · cases r with
    | nil =>
        have hmem : .persistence c ∈ news (outcome now job) := by
          rw [← List.nil_append (news _), ← hnews]
          exact List.mem_cons_self
        exact absurd hmem (persistence_not_mem_news c)
    | cons d r =>
        obtain ⟨rfl, -⟩ := List.cons.inj hnews
        obtain ⟨cs, ds, hcs, hp, hds⟩ := List.map_eq_append_iff.mp hcalls
        obtain ⟨c', ds', rfl, hc, -⟩ := List.map_eq_cons_iff.mp hds
        obtain rfl := JobCall.persistence.inj hc
        exact ⟨cs, ds', hcs, hp.symm⟩

/-- A split of several lists in a row is a split of one of them. -/
theorem flatMap_split {α β : Type} {f : α → List β} {l : List α} {p q : List β} {x : β}
    (h : l.flatMap f = p ++ x :: q) :
    ∃ l₁ a l₂ u v, l = l₁ ++ a :: l₂ ∧ f a = u ++ x :: v ∧ p = l₁.flatMap f ++ u := by
  induction l generalizing p with
  | nil => simp at h
  | cons a l ih =>
      rw [List.flatMap_cons, List.append_eq_append_iff] at h
      rcases h with ⟨r, rfl, hr⟩ | ⟨r, ha, hr⟩
      · obtain ⟨l₁, b, l₂, u, v, rfl, hb, rfl⟩ := ih hr
        exact ⟨a :: l₁, b, l₂, u, v, rfl, hb, by rw [List.flatMap_cons, List.append_assoc]⟩
      · cases r with
        | nil =>
            obtain ⟨l₁, b, l₂, u, v, rfl, hb, hu⟩ := ih (p := []) hr.symm
            refine ⟨a :: l₁, b, l₂, u, v, rfl, hb, ?_⟩
            rw [List.flatMap_cons, List.append_assoc, ← hu, ha, List.append_nil, List.append_nil]
        | cons y r =>
            obtain ⟨rfl, -⟩ := List.cons.inj hr
            exact ⟨[], a, l, p, r, rfl, ha, rfl⟩

/-- A call of a plan is the listing, or one of the calls for a job that is listed: then the
plan before it is that of the jobs listed earlier, with the calls for this job before it. -/
theorem plan_split {connection : Uuid} {jobs : List Job} {c : PersistenceCall} {p q : List JobCall}
    (h : plan now connection jobs = p ++ .persistence c :: q) :
    (p = [] ∧ c = listing connection) ∨
      ∃ before here after cs ds, jobs = before ++ here :: after ∧
        jobCalls now here = cs ++ c :: ds ∧
        p = plan now connection before ++ cs.map .persistence := by
  cases p with
  | nil => exact .inl ⟨rfl, (JobCall.persistence.inj (List.cons.inj h).1).symm⟩
  | cons d p =>
      obtain ⟨rfl, hrest⟩ := List.cons.inj h
      obtain ⟨before, here, after, u, v, rfl, hsplit, rfl⟩ := flatMap_split hrest
      obtain ⟨cs, ds, hcalls, rfl⟩ := jobCalls_split hsplit
      exact .inr ⟨before, here, after, cs, ds, rfl, hcalls, rfl⟩

theorem failJob_not_mem_attemptCalls (id : JobId) (as : List Attempt) :
    .failJob id ∉ as.flatMap fun a => attemptCalls now id a.number := by
  intro h
  obtain ⟨a, -, ha⟩ := List.mem_flatMap.mp h
  simp [attemptCalls] at ha

/-- Before the first call for a job nothing was done for it; before any other call the job
has failed already. -/
theorem failJob_mem_of_split {c : PersistenceCall} {cs ds : List PersistenceCall}
    (h : jobCalls now job = cs ++ c :: ds) :
    (cs = [] ∧ c = .failJob job.id) ∨ (.failJob job.id ∈ cs ∧ c ≠ .failJob job.id) := by
  rw [jobCalls, mutations, List.cons_append] at h
  cases cs with
  | nil => exact .inl ⟨rfl, (List.cons.inj h).1.symm⟩
  | cons d cs =>
      rw [List.cons_append] at h
      obtain ⟨rfl, hrest⟩ := List.cons.inj h
      refine .inr ⟨List.mem_cons_self, ?_⟩
      rintro rfl
      have hmem : .failJob job.id ∈ cs ++ .failJob job.id :: ds :=
        List.mem_append_right cs List.mem_cons_self
      rw [← hrest, List.mem_append] at hmem
      rcases hmem with hmem | hmem
      · exact failJob_not_mem_attemptCalls job.id _ hmem
      · simp at hmem

end Plan

theorem failAttempt_follows (hlayer : layer.Faithful view) (now : DateTime) (id : JobId)
    (n : AttemptNumber) (s : Reconciliation σ) :
    Follows view s ((attemptCalls now id n).map .persistence) (failAttempt layer now id n s) := by
  refine Follows.call_bind hlayer fun _ t _ _ => ?_
  rw [← bind_pure_unit (x := call layer (.writeFailureSummary id n _))]
  exact Follows.call_bind hlayer fun _ u _ _ => Follows.pure u

theorem failAttempts_follows (hlayer : layer.Faithful view) (now : DateTime) (id : JobId)
    (as : List Attempt) (s : Reconciliation σ) :
    Follows view s ((as.flatMap fun a => attemptCalls now id a.number).map .persistence)
      (as.forM (fun a => failAttempt layer now id a.number) s) := by
  induction as generalizing s with
  | nil => exact Follows.pure s
  | cons a as ih =>
      rw [List.flatMap_cons, List.map_append]
      exact Follows.bind (failAttempt_follows hlayer now id a.number s) fun t _ => ih t

/-- The job that is fetched in the end is the one that others are told about. -/
theorem news_follows (hlayer : layer.Faithful view) {job : Job} {s : Reconciliation σ}
    (hjob : Job.find? (view s.store).jobs job.id = some job) :
    Follows view s (.persistence (.getJob job.id) :: news job)
      ((do
        let current ← call layer (.getJob job.id)
        act (.notify reason current)
        act (.track current .failed)
        log (failed job.id current) : Work σ Unit) s) := by
  refine Follows.call_bind hlayer fun current t hcurrent _ => ?_
  have hfound := hlayer.got job.id s.store current hcurrent
  rw [hjob] at hfound
  obtain rfl : job = current := Option.some.inj hfound
  exact .done (List.append_assoc _ _ _) rfl

/-- A job that is in the store is failed by its plan. -/
theorem failJob_follows (hlayer : layer.Faithful view) (now : DateTime) {job : Job}
    {s : Reconciliation σ} (hids : (view s.store).DistinctIds) (hjob : job ∈ (view s.store).jobs) :
    Follows view s (jobPlan now job) (failJob layer now job s) := by
  rw [jobPlan, jobCalls, List.map_append, List.append_assoc]
  refine Follows.call_bind hlayer fun _ t _ ht => ?_
  refine Follows.bind (failAttempts_follows hlayer now job.id job.runningAttempts t) ?_
  intro u hu
  have hstore : view u.store = (view s.store).afterAll (mutations now job) := by
    rw [hu.store_eq, ht, landed_map_persistence]
    rfl
  have hfind : Job.find? (view u.store).jobs (outcome now job).id = some (outcome now job) := by
    rw [hstore]
    refine Job.find?_eq_some_of_mem (hids.afterAll _) ?_
    rw [JobStore.jobs_afterAll hids]
    exact List.mem_map_of_mem hjob
  have hnews := news_follows hlayer hfind
  rw [id_outcome] at hnews
  exact hnews

/-- What is done for a job leaves the other jobs of the store alone. -/
theorem mem_jobs_afterAll {s : JobStore} (hids : s.DistinctIds) {now : DateTime} {job other : Job}
    (hother : other ∈ s.jobs) (hne : other.id ≠ job.id) :
    other ∈ (s.afterAll (landed (jobPlan now job))).jobs := by
  rw [JobStore.jobs_afterAll hids]
  refine List.mem_map.mpr ⟨other, hother, Job.afterAll_of_ne fun c hc => ?_⟩
  rw [landed_jobPlan] at hc
  rw [job?_of_mem_jobCalls hc]
  exact fun h => hne (Option.some.inj h).symm

theorem forM_failJob_follows (hlayer : layer.Faithful view) (now : DateTime) {jobs : List Job}
    {s : Reconciliation σ} (hids : (view s.store).DistinctIds)
    (hjobs : ∀ job ∈ jobs, job ∈ (view s.store).jobs) (hdistinct : (jobs.map Job.id).Nodup) :
    Follows view s (jobs.flatMap (jobPlan now)) (jobs.forM (failJob layer now) s) := by
  induction jobs generalizing s with
  | nil => exact Follows.pure s
  | cons job jobs ih =>
      rw [List.map_cons, List.nodup_cons] at hdistinct
      have hjob := hjobs job List.mem_cons_self
      rw [List.flatMap_cons]
      refine Follows.bind (failJob_follows hlayer now hids hjob) fun t ht => ?_
      refine ih ?_ ?_ hdistinct.2
      · rw [ht.store_eq]
        exact hids.afterAll _
      · intro other hother
        rw [ht.store_eq]
        refine mem_jobs_afterAll hids (hjobs other (List.mem_cons_of_mem job hother)) ?_
        exact fun h => hdistinct.1 (h ▸ List.mem_map_of_mem hother)

/-- The active replication jobs of a connection. -/
def active (connection : Uuid) (s : JobStore) : List Job :=
  JobStore.select connection JobConfigType.replicationTypes JobStatus.nonTerminal s.jobs

theorem mem_active {connection : Uuid} {s : JobStore} {job : Job} :
    job ∈ active connection s ↔
      job ∈ s.jobs ∧ job.connectionId = connection ∧
        job.configType ∈ JobConfigType.replicationTypes ∧ job.status ∈ JobStatus.nonTerminal :=
  JobStore.mem_select

theorem distinct_of_perm_active {connection : Uuid} {s : JobStore} (hids : s.DistinctIds)
    {jobs : List Job} (hjobs : jobs.Perm (active connection s)) : (jobs.map Job.id).Nodup :=
  (hjobs.map Job.id).nodup_iff.mpr (hids.sublist (List.filter_sublist.map Job.id))

theorem failJobs_follows (hlayer : layer.Faithful view) (now : DateTime) (connection : Uuid)
    {jobs : List Job} {s : Reconciliation σ} (hids : (view s.store).DistinctIds)
    (hjobs : ∀ job ∈ jobs, job ∈ (view s.store).jobs) (hdistinct : (jobs.map Job.id).Nodup) :
    Follows view s (jobs.flatMap (jobPlan now)) (failJobs layer now connection jobs s) := by
  have hloop := fun t (ht : view t.store = view s.store) =>
    forM_failJob_follows (s := t) hlayer now (ht ▸ hids) (ht ▸ hjobs) hdistinct
  cases jobs with
  | nil => exact Follows.pure s
  | cons job jobs =>
      refine Follows.bind (p := []) (x := log (failing connection (job :: jobs).length)) ?_ ?_
      · exact .done (List.append_nil _).symm rfl
      · intro t ht
        exact hloop t ht.store_eq

/-- A reconciliation follows the plan for the jobs that are listed, in their order. -/
theorem failNonTerminal_follows (hlayer : layer.Faithful view) (now : DateTime)
    (connection : Uuid) {s : Reconciliation σ} (hids : (view s.store).DistinctIds)
    {jobs : List Job}
    (hlist : ∀ reply, (layer.perform (listing connection) s.store).1 = .ok reply → reply = jobs) :
    Follows view s (plan now connection jobs) (failNonTerminal layer now connection s) := by
  refine Follows.call_bind hlayer fun reply t hreply ht => ?_
  obtain rfl := hlist reply hreply
  have hperm := hlayer.listed _ _ _ _ _ hreply
  have hstore : view t.store = view s.store := ht
  refine failJobs_follows hlayer now connection ?_ ?_ (distinct_of_perm_active hids hperm)
  · rw [hstore]
    exact hids
  · rw [hstore]
    exact fun job hjob => (mem_active.mp (hperm.mem_iff.mp hjob)).1

/-- A reconciliation does all of the plan for the jobs that are listed, or stops at a call
that fails. -/
theorem run_cases_of_listed (hlayer : layer.Faithful view) (now : DateTime) (connection : Uuid)
    {s : σ} (hids : (view s).DistinctIds) {jobs : List Job}
    (hlist : ∀ reply, (layer.perform (listing connection) s).1 = .ok reply → reply = jobs) :
    ((run layer now connection s).1 = .ok () ∧
        (run layer now connection s).2.calls = plan now connection jobs ∧
        view (run layer now connection s).2.store =
          (view s).afterAll (landed (plan now connection jobs))) ∨
      ∃ e p q, (run layer now connection s).1 = .error e ∧
        plan now connection jobs = p ++ .persistence e.call :: q ∧
        (run layer now connection s).2.calls = p ++ [.persistence e.call] ∧
        view (run layer now connection s).2.store = (view s).afterAll (landed p) := by
  have hfollows := failNonTerminal_follows (s := ⟨s, [], []⟩) hlayer now connection hids hlist
  rw [run]
  generalize failNonTerminal layer now connection ⟨s, [], []⟩ = r at hfollows
  cases hfollows with
  | done calls store => exact .inl ⟨rfl, calls, store⟩
  | stopped split calls store => exact .inr ⟨_, _, _, rfl, split, calls, store⟩

/-- A reconciliation does all of the plan for the active jobs of the store, in some order,
or stops at a call that fails. -/
theorem run_cases (hlayer : layer.Faithful view) (now : DateTime) (connection : Uuid) {s : σ}
    (hids : (view s).DistinctIds) :
    ∃ jobs, jobs.Perm (active connection (view s)) ∧
      (((run layer now connection s).1 = .ok () ∧
          (run layer now connection s).2.calls = plan now connection jobs ∧
          view (run layer now connection s).2.store =
            (view s).afterAll (landed (plan now connection jobs))) ∨
        ∃ e p q, (run layer now connection s).1 = .error e ∧
          plan now connection jobs = p ++ .persistence e.call :: q ∧
          (run layer now connection s).2.calls = p ++ [.persistence e.call] ∧
          view (run layer now connection s).2.store = (view s).afterAll (landed p)) := by
  cases hlist : (layer.perform (listing connection) s).1 with
  | error e =>
      refine ⟨_, List.Perm.refl _, run_cases_of_listed hlayer now connection hids ?_⟩
      intro reply hreply
      rw [hlist] at hreply
      cases hreply
  | ok jobs =>
      refine ⟨jobs, hlayer.listed _ _ _ _ _ hlist,
        run_cases_of_listed hlayer now connection hids ?_⟩
      intro reply hreply
      rw [hlist] at hreply
      exact (Except.ok.inj hreply).symm

end JobReconciler

end SyncLedger
