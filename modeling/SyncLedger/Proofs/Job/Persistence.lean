import Mathlib.Data.List.Nodup
import SyncLedger.Job.Fault

/-!
# What calls do to a store

A call of a persistence layer concerns one job: `Job.after` is what a job is after a
call, and `Job.afterAll` what it is after several. When no two jobs share an identifier
the store after some calls is the store before with every job changed on its own, so the
order of calls that concern different jobs does not matter. The status of a job after some
calls depends only on which calls are among them, and so does every one of its attempts.

A layer is faithful if what it keeps can be read as a store of jobs that a call changes as
`JobStore.after` says when it succeeds and leaves alone when it fails. The order in which
jobs are listed is left open.
-/

namespace SyncLedger

namespace Job

theorem find?_cons (j : Job) (js : List Job) (id : JobId) :
    find? (j :: js) id = if j.id = id then some j else find? js id := by
  by_cases h : j.id = id <;> simp [find?, h]

/-- With distinct identifiers a job is found under its own. -/
theorem find?_eq_some_of_mem {jobs : List Job} (hids : (jobs.map Job.id).Nodup) {j : Job}
    (hj : j ∈ jobs) : find? jobs j.id = some j := by
  induction jobs with
  | nil => simp at hj
  | cons k ks ih =>
      rw [List.map_cons, List.nodup_cons] at hids
      rw [find?_cons]
      rcases List.mem_cons.mp hj with rfl | hj
      · rw [if_pos rfl]
      · have hne : k.id ≠ j.id := fun h => hids.1 (h ▸ List.mem_map_of_mem hj)
        rw [if_neg hne, ih hids.2 hj]

/-- A job after a call. -/
def after (j : Job) : PersistenceCall → Job
  | .failJob id => if j.id = id then j.fail else j
  | .failAttempt id n => if j.id = id then j.failAttempt n else j
  | .listJobs _ _ _ => j
  | .getJob _ => j
  | .writeFailureSummary _ _ _ => j

/-- A job after some calls. -/
def afterAll (j : Job) (cs : List PersistenceCall) : Job := cs.foldl after j

@[simp] theorem afterAll_nil (j : Job) : j.afterAll [] = j := rfl

theorem afterAll_cons (j : Job) (c : PersistenceCall) (cs : List PersistenceCall) :
    j.afterAll (c :: cs) = (j.after c).afterAll cs := rfl

@[simp] theorem id_after (j : Job) (c : PersistenceCall) : (j.after c).id = j.id := by
  cases c <;> simp only [after] <;> split <;> rfl

theorem after_of_ne {j : Job} {c : PersistenceCall} (h : c.job? ≠ some j.id) : j.after c = j := by
  cases c with
  | listJobs => rfl
  | getJob => rfl
  | writeFailureSummary => rfl
  | failJob id => exact if_neg fun hid => h (congrArg some hid.symm)
  | failAttempt id n => exact if_neg fun hid => h (congrArg some hid.symm)

theorem status_after (j : Job) (c : PersistenceCall) :
    (j.after c).status = if c = .failJob j.id then .failed else j.status := by
  cases c with
  | failJob id =>
      by_cases h : j.id = id
      · simp [after, fail, h]
      · simp [after, h, Ne.symm h]
  | failAttempt id n => by_cases h : j.id = id <;> simp [after, failAttempt, h]
  | listJobs => simp [after]
  | getJob => simp [after]
  | writeFailureSummary => simp [after]

theorem attempts_after (j : Job) (c : PersistenceCall) :
    (j.after c).attempts =
      j.attempts.map fun a => if c = .failAttempt j.id a.number then a.fail else a := by
  cases c with
  | failAttempt id n =>
      by_cases h : j.id = id
      · simp [after, failAttempt, h, eq_comm]
      · simp [after, h, Ne.symm h]
  | failJob id => by_cases h : j.id = id <;> simp [after, fail, h]
  | listJobs => simp [after]
  | getJob => simp [after]
  | writeFailureSummary => simp [after]

@[simp] theorem id_afterAll (j : Job) (cs : List PersistenceCall) : (j.afterAll cs).id = j.id := by
  induction cs generalizing j with
  | nil => rfl
  | cons c cs ih => rw [afterAll_cons, ih, id_after]

/-- Calls that concern other jobs leave a job alone. -/
theorem afterAll_of_ne {j : Job} {cs : List PersistenceCall}
    (h : ∀ c ∈ cs, c.job? ≠ some j.id) : j.afterAll cs = j := by
  induction cs with
  | nil => rfl
  | cons c cs ih =>
      rw [afterAll_cons, after_of_ne (h c List.mem_cons_self)]
      exact ih fun d hd => h d (List.mem_cons_of_mem c hd)

/-- A job has failed after some calls if one of them failed it, and else is as it was. -/
theorem status_afterAll (j : Job) (cs : List PersistenceCall) :
    (j.afterAll cs).status = if .failJob j.id ∈ cs then .failed else j.status := by
  induction cs generalizing j with
  | nil => simp
  | cons c cs ih =>
      rw [afterAll_cons, ih, id_after, status_after]
      by_cases hc : c = .failJob j.id
      · simp [hc]
      · simp [hc, eq_comm]

/-- An attempt has failed after some calls if one of them failed its number, and else is as
it was. -/
theorem attempts_afterAll (j : Job) (cs : List PersistenceCall) :
    (j.afterAll cs).attempts =
      j.attempts.map fun a => if .failAttempt j.id a.number ∈ cs then a.fail else a := by
  induction cs generalizing j with
  | nil => simp
  | cons c cs ih =>
      rw [afterAll_cons, ih, id_after, attempts_after, List.map_map]
      apply List.map_congr_left
      intro a _
      by_cases hc : c = .failAttempt j.id a.number
      · simp [hc, Attempt.fail]
      · simp [hc, eq_comm]

theorem afterAll_frame (j : Job) (cs : List PersistenceCall) :
    { j.afterAll cs with status := j.status, attempts := j.attempts } = j := by
  induction cs generalizing j with
  | nil => rfl
  | cons c cs ih =>
      have hafter : { j.after c with status := j.status, attempts := j.attempts } = j := by
        cases c <;> simp only [after] <;> split <;> rfl
      have hrest := congrArg (fun k : Job => { k with status := j.status, attempts := j.attempts })
        (ih (j.after c))
      rw [afterAll_cons]
      exact hrest.trans hafter

/-- Calls change the status of a job and those of its attempts, and nothing else of it. -/
theorem afterAll_eq (j : Job) (cs : List PersistenceCall) :
    j.afterAll cs = { j with
      status := if .failJob j.id ∈ cs then .failed else j.status
      attempts := j.attempts.map fun a =>
        if .failAttempt j.id a.number ∈ cs then a.fail else a } := by
  calc j.afterAll cs
      = { ({ j.afterAll cs with status := j.status, attempts := j.attempts } : Job) with
          status := (j.afterAll cs).status, attempts := (j.afterAll cs).attempts } := rfl
    _ = _ := by rw [afterAll_frame, status_afterAll, attempts_afterAll]

/-- What a job is after some calls depends only on those that concern it, in any order. -/
theorem afterAll_congr {j : Job} {cs ds : List PersistenceCall}
    (h : ∀ c, c.job? = some j.id → (c ∈ cs ↔ c ∈ ds)) : j.afterAll cs = j.afterAll ds := by
  simp only [afterAll_eq, h (.failJob j.id) rfl, h (.failAttempt j.id _) rfl]

/-- No attempt runs after some calls that failed every attempt that was running. -/
theorem runningAttempts_afterAll {j : Job} {cs : List PersistenceCall}
    (h : ∀ a ∈ j.runningAttempts, .failAttempt j.id a.number ∈ cs) :
    (j.afterAll cs).runningAttempts = [] := by
  rw [runningAttempts, attempts_afterAll, List.filter_eq_nil_iff]
  intro a ha
  obtain ⟨b, hb, rfl⟩ := List.mem_map.mp ha
  by_cases hrun : b.status = .running
  · have hmem : b ∈ j.runningAttempts := List.mem_filter.mpr ⟨hb, by simpa using hrun⟩
    simp [h b hmem, Attempt.fail]
  · split
    · simp [Attempt.fail]
    · simpa using hrun

end Job

/-- The failure summary that a call files. -/
def PersistenceCall.filed? : PersistenceCall → Option FiledSummary
  | .writeFailureSummary id n summary => some ⟨id, n, summary⟩
  | .listJobs _ _ _ => none
  | .getJob _ => none
  | .failJob _ => none
  | .failAttempt _ _ => none

namespace JobStore

/-- No two jobs share an identifier. -/
def DistinctIds (s : JobStore) : Prop := (s.jobs.map Job.id).Nodup

instance (s : JobStore) : Decidable s.DistinctIds :=
  inferInstanceAs (Decidable (s.jobs.map Job.id).Nodup)

/-- The store after some calls. -/
def afterAll (s : JobStore) (cs : List PersistenceCall) : JobStore := cs.foldl after s

@[simp] theorem afterAll_nil (s : JobStore) : s.afterAll [] = s := rfl

theorem afterAll_cons (s : JobStore) (c : PersistenceCall) (cs : List PersistenceCall) :
    s.afterAll (c :: cs) = (s.after c).afterAll cs := rfl

theorem afterAll_append (s : JobStore) (cs ds : List PersistenceCall) :
    s.afterAll (cs ++ ds) = (s.afterAll cs).afterAll ds :=
  List.foldl_append

theorem modify_eq_map {jobs : List Job} (hids : (jobs.map Job.id).Nodup) (id : JobId)
    (f : Job → Job) :
    Job.modify id f jobs = jobs.map fun j => if j.id = id then f j else j := by
  induction jobs with
  | nil => rfl
  | cons j js ih =>
      rw [List.map_cons, List.nodup_cons] at hids
      by_cases h : j.id = id
      · have hrest : js.map (fun k => if k.id = id then f k else k) = js := by
          conv_rhs => rw [← List.map_id js]
          apply List.map_congr_left
          intro k hk
          have hne : k.id ≠ id := fun hid =>
            hids.1 ((hid.trans h.symm) ▸ List.mem_map_of_mem hk)
          rw [if_neg hne, id_eq]
        rw [Job.modify, if_pos h, List.map_cons, if_pos h, hrest]
      · rw [Job.modify, if_neg h, List.map_cons, if_neg h, ih hids.2]

/-- A call changes every job of a store on its own. -/
theorem jobs_after {s : JobStore} (hids : s.DistinctIds) (c : PersistenceCall) :
    (s.after c).jobs = s.jobs.map (Job.after · c) := by
  cases c with
  | listJobs => exact (List.map_id _).symm
  | getJob => exact (List.map_id _).symm
  | writeFailureSummary => exact (List.map_id _).symm
  | failJob id => exact modify_eq_map hids id Job.fail
  | failAttempt id n => exact modify_eq_map hids id (Job.failAttempt · n)

theorem DistinctIds.after {s : JobStore} (hids : s.DistinctIds) (c : PersistenceCall) :
    (s.after c).DistinctIds := by
  have hmap : (Job.id ∘ fun j : Job => j.after c) = Job.id := funext fun j => j.id_after c
  rw [DistinctIds, jobs_after hids, List.map_map, hmap]
  exact hids

theorem DistinctIds.afterAll {s : JobStore} (hids : s.DistinctIds) (cs : List PersistenceCall) :
    (s.afterAll cs).DistinctIds := by
  induction cs generalizing s with
  | nil => exact hids
  | cons c cs ih => exact ih (hids.after c)

theorem jobs_afterAll {s : JobStore} (hids : s.DistinctIds) (cs : List PersistenceCall) :
    (s.afterAll cs).jobs = s.jobs.map (Job.afterAll · cs) := by
  induction cs generalizing s with
  | nil => exact (List.map_id _).symm
  | cons c cs ih =>
      rw [afterAll_cons, ih (hids.after c), jobs_after hids, List.map_map]
      rfl

/-- The summaries that calls file are appended in their order. -/
theorem summaries_afterAll (s : JobStore) (cs : List PersistenceCall) :
    (s.afterAll cs).summaries = s.summaries ++ cs.filterMap PersistenceCall.filed? := by
  induction cs generalizing s with
  | nil => simp
  | cons c cs ih =>
      rw [afterAll_cons, ih]
      cases c <;> simp [after, List.filterMap_cons, PersistenceCall.filed?]

/-- The jobs that a reconciliation of a connection is about. -/
theorem mem_select {connection : Uuid} {types : List JobConfigType} {statuses : List JobStatus}
    {jobs : List Job} {j : Job} :
    j ∈ select connection types statuses jobs ↔
      j ∈ jobs ∧ j.connectionId = connection ∧ j.configType ∈ types ∧ j.status ∈ statuses := by
  simp [select, and_assoc]

end JobStore

/-- What a layer keeps can be read as a store of jobs. A call that fails changes nothing, and
a call that succeeds does what is asked and answers from the store. -/
structure JobPersistence.Faithful {σ : Type} (layer : JobPersistence σ) (view : σ → JobStore) :
    Prop where
  failed : ∀ c s e, (layer.perform c s).1 = .error e → view (layer.perform c s).2 = view s
  done : ∀ c s r, (layer.perform c s).1 = .ok r → view (layer.perform c s).2 = (view s).after c
  listed : ∀ connection types statuses s jobs,
    (layer.perform (.listJobs connection types statuses) s).1 = .ok jobs →
      jobs.Perm (JobStore.select connection types statuses (view s).jobs)
  got : ∀ id s job, (layer.perform (.getJob id) s).1 = .ok job →
    Job.find? (view s).jobs id = some job

/-- Jobs in a list are kept faithfully. -/
theorem JobStore.persistence_faithful : JobStore.persistence.Faithful id where
  failed c s e h := by
    cases c with
    | listJobs => rfl
    | getJob => rfl
    | failJob => exact absurd h (by simp [JobStore.persistence, JobStore.answer])
    | failAttempt => exact absurd h (by simp [JobStore.persistence, JobStore.answer])
    | writeFailureSummary => exact absurd h (by simp [JobStore.persistence, JobStore.answer])
  done c s r h := rfl
  listed connection types statuses s jobs h := by
    obtain rfl := Except.ok.inj h
    exact List.Perm.refl _
  got id s job h := by
    simp only [JobStore.persistence, JobStore.answer, JobStore.lookup] at h
    split at h
    · rename_i j hj
      obtain rfl := Except.ok.inj h
      exact hj
    · simp at h

/-- A layer stays faithful when some of its calls are made to fail. -/
theorem JobPersistence.Faithful.guarded {σ φ : Type} {layer : JobPersistence σ}
    {view : σ → JobStore} (hlayer : layer.Faithful view) (policy : FaultPolicy φ) :
    (layer.guarded policy).Faithful fun s => view s.1 where
  failed c s e h := by
    simp only [JobPersistence.guarded] at h ⊢
    split
    · rfl
    · rename_i hstrike
      simp only [hstrike] at h
      exact hlayer.failed c s.1 e h
  done c s r h := by
    simp only [JobPersistence.guarded] at h ⊢
    split
    · rename_i hstrike
      simp [hstrike] at h
    · rename_i hstrike
      simp only [hstrike] at h
      exact hlayer.done c s.1 r h
  listed connection types statuses s jobs h := by
    simp only [JobPersistence.guarded] at h
    split at h
    · simp at h
    · exact hlayer.listed connection types statuses s.1 jobs h
  got id s job h := by
    simp only [JobPersistence.guarded] at h
    split at h
    · simp at h
    · exact hlayer.got id s.1 job h

end SyncLedger
