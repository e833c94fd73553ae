import SyncLedger.Proofs.Job.Effect

/-!
# Several reconciliations in a row

What a reconciliation does to a job depends on this job alone, and a closed job is active for
no connection. So a second reconciliation of a connection finds nothing to do but to list, and
the reconciliations of two connections may change places: a job is closed by whichever of them
it is active for, and its summaries are filed by the same one.
-/

namespace SyncLedger

/-- The attempts of a job for which summaries were filed, in the order of the filing. -/
def JobStore.summarised (s : JobStore) (id : JobId) : List AttemptNumber :=
  (s.summaries.filter fun f => f.job = id).map FiledSummary.attempt

namespace JobReconciler

variable {now : DateTime} {connection other : Uuid} {job : Job} {jobs : List Job}

/-- A job after a reconciliation of a connection. -/
def reconciled (now : DateTime) (connection : Uuid) (job : Job) : Job :=
  if job.IsActive connection then outcome now job else job

theorem not_isActive_outcome : ¬ (outcome now job).IsActive connection := by
  rw [outcome_eq]
  exact fun h => h.2.2 rfl

theorem outcome_eq_outcome (first second : DateTime) (job : Job) :
    outcome first job = outcome second job := by
  rw [outcome_eq, outcome_eq]

theorem id_reconciled : (reconciled now connection job).id = job.id := by
  rw [reconciled]
  split
  · exact id_outcome now job
  · rfl

theorem reconciled_of_not_isActive (h : ¬ job.IsActive connection) :
    reconciled now connection job = job := if_neg h

theorem isActive_reconciled_iff :
    (reconciled now connection job).IsActive other ↔
      ¬ job.IsActive connection ∧ job.IsActive other := by
  by_cases h : job.IsActive connection
  · rw [reconciled, if_pos h]
    exact iff_of_false not_isActive_outcome fun hboth => hboth.1 h
  · rw [reconciled_of_not_isActive h]
    exact (and_iff_right h).symm

/-- After two reconciliations a job is closed if it was active for one of the connections. -/
theorem reconciled_reconciled (first second : DateTime) :
    reconciled second other (reconciled first connection job) =
      if job.IsActive connection ∨ job.IsActive other then outcome now job else job := by
  by_cases hconnection : job.IsActive connection
  · rw [if_pos (.inl hconnection), reconciled_of_not_isActive, reconciled, if_pos hconnection]
    · exact outcome_eq_outcome first now job
    · rw [isActive_reconciled_iff]
      exact fun h => h.1 hconnection
  · rw [reconciled_of_not_isActive hconnection, reconciled, outcome_eq_outcome second now]
    by_cases hother : job.IsActive other
    · rw [if_pos hother, if_pos (.inr hother)]
    · rw [if_neg hother, if_neg (not_or.mpr ⟨hconnection, hother⟩)]

theorem filter_filings (now : DateTime) (job : Job) (id : JobId) :
    (filings now job).filter (fun f => f.job = id) =
      if job.id = id then filings now job else [] := by
  by_cases h : job.id = id
  · rw [if_pos h, List.filter_eq_self]
    intro f hf
    obtain ⟨a, -, rfl⟩ := List.mem_map.mp hf
    exact decide_eq_true h
  · rw [if_neg h, List.filter_eq_nil_iff]
    intro f hf
    obtain ⟨a, -, rfl⟩ := List.mem_map.mp hf
    simpa using h

theorem filter_flatMap_filings_of_ne {id : JobId} (h : ∀ j ∈ jobs, j.id ≠ id) :
    (jobs.flatMap (filings now)).filter (fun f => f.job = id) = [] := by
  rw [List.filter_flatMap, List.flatMap_eq_nil_iff]
  intro j hj
  rw [filter_filings, if_neg (h j hj)]

/-- Of the summaries that are filed for some jobs, those of one job. -/
theorem filter_flatMap_filings_of_mem (hdistinct : (jobs.map Job.id).Nodup) (hjob : job ∈ jobs) :
    (jobs.flatMap (filings now)).filter (fun f => f.job = job.id) = filings now job := by
  induction jobs with
  | nil => cases hjob
  | cons j jobs ih =>
      rw [List.map_cons, List.nodup_cons] at hdistinct
      rw [List.flatMap_cons, List.filter_append, filter_filings]
      rcases List.mem_cons.mp hjob with rfl | hlater
      · have hrest : ∀ k ∈ jobs, k.id ≠ job.id := fun k hk h =>
          hdistinct.1 (h ▸ List.mem_map_of_mem hk)
        rw [if_pos rfl, filter_flatMap_filings_of_ne hrest, List.append_nil]
      · have hne : j.id ≠ job.id := fun h => hdistinct.1 (h ▸ List.mem_map_of_mem hlater)
        rw [if_neg hne, ih hdistinct.2 hlater, List.nil_append]

section Run

variable {σ : Type} {layer : JobPersistence σ} {view : σ → JobStore} {s : σ}

/-- What a reconciliation that succeeds leaves of the jobs, and which summaries it adds for
each of them. -/
theorem run_reconciled (hlayer : layer.Faithful view) (hids : (view s).DistinctIds)
    (hok : (run layer now connection s).1 = .ok ()) :
    (view (run layer now connection s).2.store).DistinctIds ∧
      (view (run layer now connection s).2.store).jobs =
        (view s).jobs.map (reconciled now connection) ∧
      ∀ job ∈ (view s).jobs,
        (view (run layer now connection s).2.store).summarised job.id =
          (view s).summarised job.id ++
            if job.IsActive connection then job.runningAttempts.map Attempt.number else [] := by
  obtain ⟨listed, -, hperm, -, hstore⟩ := run_effect hlayer hids hok
  rw [hstore]
  refine ⟨hids.afterAll _, jobs_afterAll_plan hids hperm, fun job hjob => ?_⟩
  rw [JobStore.summarised, JobStore.summaries_afterAll, filed_plan, List.filter_append,
    List.map_append]
  congr 1
  by_cases hactive : job.IsActive connection
  · have hmem : job ∈ listed := hperm.mem_iff.mpr (mem_active_iff.mpr ⟨hjob, hactive⟩)
    rw [if_pos hactive, filter_flatMap_filings_of_mem (distinct_of_perm_active hids hperm) hmem,
      filings, List.map_map]
    rfl
  · rw [if_neg hactive, filter_flatMap_filings_of_ne]
    · rfl
    · intro j hj hid
      obtain ⟨hstored, hj⟩ := mem_active_iff.mp (hperm.mem_iff.mp hj)
      obtain rfl := List.inj_on_of_nodup_map hids hstored hjob hid
      exact hactive hj

/-- A second reconciliation of a connection lists its jobs and does nothing else. -/
theorem run_again (hlayer : layer.Faithful view) (hids : (view s).DistinctIds)
    (hnone : active connection (view s) = []) :
    (run layer now connection s).2.calls = [.persistence (listing connection)] ∧
      view (run layer now connection s).2.store = view s ∧
      ((run layer now connection s).1 = .ok () ↔
        (layer.perform (listing connection) s).1.isOk) := by
  have hdone : (run layer now connection s).2.calls = [.persistence (listing connection)] ∧
      view (run layer now connection s).2.store = view s := by
    obtain ⟨jobs, hjobs, hcases⟩ := run_cases hlayer now connection hids
    rw [hnone] at hjobs
    obtain rfl := List.perm_nil.mp hjobs
    rcases hcases with ⟨-, hcalls, hstore⟩ | ⟨e, p, q, -, hplan, hcalls, hstore⟩
    · exact ⟨hcalls, hstore⟩
    · rcases plan_split hplan with ⟨rfl, hlisting⟩ | ⟨before, here, after, -, -, hlisted, -⟩
      · rw [hlisting] at hcalls
        exact ⟨hcalls, hstore⟩
      · exact absurd hlisted (by simp)
  refine ⟨hdone.1, hdone.2, ?_⟩
  rw [run_eq_ok_iff, hdone.1, landed_cons_persistence, landed_nil, JobPersistence.allSucceed_cons,
    JobPersistence.allSucceed_nil, Bool.and_true]

/-- After the reconciliations of two connections a job is closed, and its running attempts are
summarised, if it was active for one of them. -/
theorem run_run_reconciled (hlayer : layer.Faithful view) (hids : (view s).DistinctIds)
    (now first second : DateTime)
    (hfirst : (run layer first connection s).1 = .ok ())
    (hsecond : (run layer second other (run layer first connection s).2.store).1 = .ok ()) :
    (view (run layer second other (run layer first connection s).2.store).2.store).jobs =
        (view s).jobs.map (fun job =>
          if job.IsActive connection ∨ job.IsActive other then outcome now job else job) ∧
      ∀ job ∈ (view s).jobs,
        (view (run layer second other (run layer first connection s).2.store).2.store).summarised
            job.id =
          (view s).summarised job.id ++
            if job.IsActive connection ∨ job.IsActive other then
              job.runningAttempts.map Attempt.number else [] := by
  obtain ⟨hmid, hjobs, hsummarised⟩ := run_reconciled hlayer hids hfirst
  obtain ⟨-, hjobs', hsummarised'⟩ := run_reconciled hlayer hmid hsecond
  constructor
  · rw [hjobs', hjobs, List.map_map]
    apply List.map_congr_left
    intro job _
    exact reconciled_reconciled first second
  · intro job hjob
    have hthere : reconciled first connection job ∈
        (view (run layer first connection s).2.store).jobs := by
      rw [hjobs]
      exact List.mem_map_of_mem hjob
    have hlater := hsummarised' _ hthere
    simp only [id_reconciled, isActive_reconciled_iff] at hlater
    rw [hlater, hsummarised job hjob, List.append_assoc]
    congr 1
    by_cases hconnection : job.IsActive connection
    · simp [hconnection]
    · simp [hconnection, reconciled_of_not_isActive]

theorem active_eq_nil_of_run (hlayer : layer.Faithful view) (hids : (view s).DistinctIds)
    (hok : (run layer now connection s).1 = .ok ()) :
    active connection (view (run layer now connection s).2.store) = [] := by
  obtain ⟨-, hjobs, -⟩ := run_reconciled hlayer hids hok
  rw [List.eq_nil_iff_forall_not_mem]
  intro job hjob
  obtain ⟨hstored, hactive⟩ := mem_active_iff.mp hjob
  rw [hjobs] at hstored
  obtain ⟨original, -, rfl⟩ := List.mem_map.mp hstored
  obtain ⟨hnot, hactive⟩ := isActive_reconciled_iff.mp hactive
  exact hnot hactive

end Run

/-- After a reconciliation of a connection that succeeded, another one lists the jobs of this
connection, does nothing else and succeeds if the listing does. Reconciliations of two
connections leave the same jobs and the same summarised attempts of each job in either order. -/
theorem idempotent_and_commuting {σ : Type} {layer : JobPersistence σ} {view : σ → JobStore}
    (hlayer : layer.Faithful view) (s : σ) (hids : (view s).DistinctIds) :
    (∀ (first second : DateTime) (connection : Uuid),
      (run layer first connection s).1 = .ok () →
        let mid := (run layer first connection s).2.store
        let again := run layer second connection mid
        again.2.calls = [.persistence (listing connection)] ∧
          view again.2.store = view mid ∧
          (again.1 = .ok () ↔ (layer.perform (listing connection) mid).1.isOk)) ∧
    ∀ (t₁ t₂ t₃ t₄ : DateTime) (c d : Uuid),
      let one := run layer t₁ c s
      let oneTwo := run layer t₂ d one.2.store
      let two := run layer t₃ d s
      let twoOne := run layer t₄ c two.2.store
      one.1 = .ok () → oneTwo.1 = .ok () → two.1 = .ok () → twoOne.1 = .ok () →
        (view oneTwo.2.store).jobs = (view twoOne.2.store).jobs ∧
          ∀ job ∈ (view s).jobs, (view oneTwo.2.store).summarised job.id =
            (view twoOne.2.store).summarised job.id := by
  constructor
  · intro first second connection hok
    obtain ⟨hmid, -, -⟩ := run_reconciled hlayer hids hok
    exact run_again hlayer hmid (active_eq_nil_of_run hlayer hids hok)
  · intro t₁ t₂ t₃ t₄ c d one oneTwo two twoOne hone honeTwo htwo htwoOne
    obtain ⟨hjobs, hsummarised⟩ := run_run_reconciled hlayer hids t₁ t₁ t₂ hone honeTwo
    obtain ⟨hjobs', hsummarised'⟩ := run_run_reconciled hlayer hids t₁ t₃ t₄ htwo htwoOne
    simp only [or_comm (a := Job.IsActive d _)] at hjobs' hsummarised'
    refine ⟨hjobs.trans hjobs'.symm, fun job hjob => ?_⟩
    exact (hsummarised job hjob).trans (hsummarised' job hjob).symm

theorem idempotent_and_commuting_mixedStore :
    let one := run JobStore.persistence .epoch (.ofNat 1) mixedStore
    let again := run JobStore.persistence .epoch (.ofNat 1) one.2.store
    let oneTwo := run JobStore.persistence .epoch (.ofNat 2) one.2.store
    let two := run JobStore.persistence .epoch (.ofNat 2) mixedStore
    let twoOne := run JobStore.persistence .epoch (.ofNat 1) two.2.store
    (again.1 = .ok () ∧ again.2.calls = [.persistence (listing (.ofNat 1))] ∧
        again.2.store = one.2.store) ∧
      oneTwo.2.store.jobs = twoOne.2.store.jobs ∧
      ∀ job ∈ mixedStore.jobs,
        oneTwo.2.store.summarised job.id = twoOne.2.store.summarised job.id := by
  have hone : (run JobStore.persistence .epoch (.ofNat 1) mixedStore).1 = .ok () :=
    run_eq_ok_iff.mpr (by decide +kernel)
  have honeTwo : (run JobStore.persistence .epoch (.ofNat 2)
      (run JobStore.persistence .epoch (.ofNat 1) mixedStore).2.store).1 = .ok () :=
    run_eq_ok_iff.mpr (by decide +kernel)
  have htwo : (run JobStore.persistence .epoch (.ofNat 2) mixedStore).1 = .ok () :=
    run_eq_ok_iff.mpr (by decide +kernel)
  have htwoOne : (run JobStore.persistence .epoch (.ofNat 1)
      (run JobStore.persistence .epoch (.ofNat 2) mixedStore).2.store).1 = .ok () :=
    run_eq_ok_iff.mpr (by decide +kernel)
  have h := idempotent_and_commuting JobStore.persistence_faithful mixedStore (by decide)
  have hidempotent := h.1 .epoch .epoch (.ofNat 1) hone
  have hcommuting := h.2 .epoch .epoch .epoch .epoch (.ofNat 1) (.ofNat 2) hone honeTwo htwo htwoOne
  -- nothing below has to evaluate the runs again
  generalize run JobStore.persistence .epoch (.ofNat 1) mixedStore = one at *
  generalize run JobStore.persistence .epoch (.ofNat 2) mixedStore = two at *
  generalize run JobStore.persistence .epoch (.ofNat 1) one.2.store = again at *
  obtain ⟨hcalls, hstore, hok⟩ := hidempotent
  exact ⟨⟨hok.mpr rfl, hcalls, hstore⟩, hcommuting⟩

end JobReconciler

end SyncLedger
