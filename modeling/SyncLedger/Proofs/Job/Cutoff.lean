import SyncLedger.Proofs.Job.Effect
import SyncLedger.Proofs.Job.Recovery

/-!
# A reconciliation that is cut off

A policy in front of a layer goes through the calls of a reconciliation one by one. As long
as it spares them the layer answers as it would on its own, so the reconciliation does what
it would do without the policy; at the first call that the policy strikes it ends. What was
done is therefore what the undisturbed reconciliation does up to that call, `upTo`, and its
place there tells how far the jobs have come: those listed before the one that the call is
about are settled, and those listed after it are untouched.
-/

namespace SyncLedger

namespace FaultPolicy

variable {φ : Type} (policy : FaultPolicy φ)

/-- The errors with which a policy strikes some calls, made one after another. -/
def verdicts : φ → List PersistenceCall → List (Option PersistenceError)
  | _, [] => []
  | f, c :: cs => (policy.strike c f).1 :: verdicts (policy.strike c f).2 cs

/-- The state of a policy after some calls. -/
def stateAfter (f : φ) (cs : List PersistenceCall) : φ :=
  cs.foldl (fun f c => (policy.strike c f).2) f

theorem verdicts_cons (f : φ) (c : PersistenceCall) (cs : List PersistenceCall) :
    policy.verdicts f (c :: cs) =
      (policy.strike c f).1 :: policy.verdicts (policy.strike c f).2 cs := rfl

theorem verdicts_append (f : φ) (cs ds : List PersistenceCall) :
    policy.verdicts f (cs ++ ds) =
      policy.verdicts f cs ++ policy.verdicts (policy.stateAfter f cs) ds := by
  induction cs generalizing f with
  | nil => rfl
  | cons c cs ih =>
      rw [List.cons_append, verdicts_cons, verdicts_cons, ih, List.cons_append]
      rfl

end FaultPolicy

namespace JobPersistence

variable {σ φ : Type} {layer : JobPersistence σ} {policy : FaultPolicy φ}

theorem guarded_of_spared {c : PersistenceCall} {s : σ} {f : φ} (h : (policy.strike c f).1 = none) :
    (layer.guarded policy).perform c (s, f) =
      ((layer.perform c s).1, (layer.perform c s).2, (policy.strike c f).2) := by
  simp only [guarded, h]

theorem guarded_of_struck {c : PersistenceCall} {s : σ} {f : φ} {e : PersistenceError}
    (h : (policy.strike c f).1 = some e) :
    (layer.guarded policy).perform c (s, f) = (.error e, s, (policy.strike c f).2) := by
  simp only [guarded, h]

/-- What a layer replies behind a policy it replies without it. -/
theorem ok_of_guarded {c : PersistenceCall} {s : σ} {f : φ} {r : c.Reply}
    (h : ((layer.guarded policy).perform c (s, f)).1 = .ok r) : (layer.perform c s).1 = .ok r := by
  cases hstrike : (policy.strike c f).1 with
  | some e =>
      rw [guarded_of_struck hstrike] at h
      cases h
  | none =>
      rw [guarded_of_spared hstrike] at h
      exact h

/-- Calls that all succeed behind a policy are spared by it, and leave behind what they would
have left behind without it. -/
theorem guarded_of_allSucceed {s : σ} {f : φ} {cs : List PersistenceCall}
    (h : (layer.guarded policy).allSucceed (s, f) cs) :
    policy.verdicts f cs = List.replicate cs.length none ∧
      (layer.guarded policy).stateAfter (s, f) cs =
        (layer.stateAfter s cs, policy.stateAfter f cs) := by
  induction cs generalizing s f with
  | nil => exact ⟨rfl, rfl⟩
  | cons c cs ih =>
      rw [allSucceed_cons, Bool.and_eq_true] at h
      cases hstrike : (policy.strike c f).1 with
      | some e =>
          rw [guarded_of_struck hstrike] at h
          exact absurd h.1 Bool.false_ne_true
      | none =>
          rw [guarded_of_spared hstrike] at h
          obtain ⟨hverdicts, hstate⟩ := ih h.2
          refine ⟨?_, ?_⟩
          · rw [FaultPolicy.verdicts_cons, hstrike, hverdicts]
            rfl
          · rw [stateAfter_cons, guarded_of_spared hstrike, hstate]
            rfl

theorem not_allSucceed_of_struck {s : σ} {f : φ} {cs : List PersistenceCall} {n : Nat}
    {e : PersistenceError} {rest : List (Option PersistenceError)}
    (h : policy.verdicts f cs = List.replicate n none ++ some e :: rest) :
    ¬ (layer.guarded policy).allSucceed (s, f) cs := by
  intro hsucceed
  have hstruck : some e ∈ policy.verdicts f cs := by
    rw [h]
    exact List.mem_append_right _ List.mem_cons_self
  rw [(guarded_of_allSucceed hsucceed).1] at hstruck
  cases List.eq_of_mem_replicate hstruck

/-- If the layer on its own lets some calls succeed, the first one that fails behind a policy
is the first one that the policy strikes. -/
theorem verdicts_of_error {s : σ} {f : φ} {cs ds : List PersistenceCall} {c : PersistenceCall}
    {e : PersistenceError} (hfree : layer.allSucceed s (cs ++ c :: ds))
    (hcs : (layer.guarded policy).allSucceed (s, f) cs)
    (herror : ((layer.guarded policy).perform c
      ((layer.guarded policy).stateAfter (s, f) cs)).1 = .error e) :
    ∃ rest, policy.verdicts f (cs ++ c :: ds) =
      List.replicate cs.length none ++ some e :: rest := by
  obtain ⟨hverdicts, hstate⟩ := guarded_of_allSucceed hcs
  rw [allSucceed_append, allSucceed_cons, Bool.and_eq_true, Bool.and_eq_true] at hfree
  rw [hstate] at herror
  have hstrike : (policy.strike c (policy.stateAfter f cs)).1 = some e := by
    cases hstrike : (policy.strike c (policy.stateAfter f cs)).1 with
    | none =>
        rw [guarded_of_spared hstrike] at herror
        change (layer.perform c (layer.stateAfter s cs)).1 = .error e at herror
        rw [herror] at hfree
        exact absurd hfree.2.1 Bool.false_ne_true
    | some cause =>
        rw [guarded_of_struck hstrike] at herror
        exact congrArg some (Except.error.inj herror)
  refine ⟨policy.verdicts (policy.strike c (policy.stateAfter f cs)).2 ds, ?_⟩
  rw [FaultPolicy.verdicts_append, FaultPolicy.verdicts_cons, hverdicts, hstrike]

end JobPersistence

/-- The job that something done is about, if there is one. -/
def JobCall.job? : JobCall → Option JobId
  | .persistence c => c.job?
  | .notify _ job => some job.id
  | .track job _ => some job.id

/-- Nothing was done about a job: it is kept as it was, and so are its summaries. -/
structure Job.Untouched (job : Job) (old new : JobStore) (calls : List JobCall) : Prop where
  kept : job ∈ old.jobs ∧ job ∈ new.jobs
  unfiled : new.summaries.filter (fun f => f.job = job.id) =
    old.summaries.filter (fun f => f.job = job.id)
  unmentioned : ∀ d ∈ calls, d.job? ≠ some job.id

/-- The summaries of a job are kept by calls that do not concern it. -/
theorem JobStore.filter_summaries_afterAll {s : JobStore} {id : JobId}
    {cs : List PersistenceCall} (h : ∀ c ∈ cs, c.job? ≠ some id) :
    (s.afterAll cs).summaries.filter (fun f => f.job = id) =
      s.summaries.filter (fun f => f.job = id) := by
  have hnone : (cs.filterMap PersistenceCall.filed?).filter (fun f => f.job = id) = [] := by
    rw [List.filter_eq_nil_iff]
    intro f hf
    obtain ⟨c, hc, hfiled⟩ := List.mem_filterMap.mp hf
    cases c with
    | writeFailureSummary job n summary =>
        obtain rfl := Option.some.inj hfiled
        simpa [PersistenceCall.job?] using h _ hc
    | listJobs | getJob | failJob | failAttempt => cases hfiled
  rw [summaries_afterAll, List.filter_append, hnone, List.append_nil]

namespace JobReconciler

/-- What is done up to a call of the persistence layer, the call included. The calls of the
layer are counted from zero. -/
def upTo : Nat → List JobCall → List JobCall
  | _, [] => []
  | 0, .persistence c :: _ => [.persistence c]
  | n + 1, .persistence c :: ds => .persistence c :: upTo n ds
  | n, .notify text job :: ds => .notify text job :: upTo n ds
  | n, .track job state :: ds => .track job state :: upTo n ds

theorem upTo_length_landed (p q : List JobCall) (c : PersistenceCall) :
    upTo (landed p).length (p ++ .persistence c :: q) = p ++ [.persistence c] := by
  induction p with
  | nil => rfl
  | cons d p ih =>
      cases d with
      | persistence d => exact congrArg (.persistence d :: ·) ih
      | notify text job =>
          change upTo (landed p).length (.notify text job :: (p ++ .persistence c :: q)) = _
          rw [upTo, ih, List.cons_append]
      | track job state =>
          change upTo (landed p).length (.track job state :: (p ++ .persistence c :: q)) = _
          rw [upTo, ih, List.cons_append]

/-- Where the first error stands among some verdicts, and which one it is. -/
theorem first_error_unique {α : Type} {m n : Nat} {a b : α} {l r : List (Option α)}
    (h : List.replicate m none ++ some a :: l = List.replicate n none ++ some b :: r) :
    m = n ∧ a = b := by
  induction m generalizing n with
  | zero =>
      cases n with
      | zero => exact ⟨rfl, Option.some.inj (List.cons.inj h).1⟩
      | succ n => exact nomatch (List.cons.inj h).1
  | succ m ih =>
      cases n with
      | zero => exact nomatch (List.cons.inj h).1
      | succ n =>
          obtain ⟨hcount, herror⟩ := ih (List.cons.inj h).2
          exact ⟨congrArg (· + 1) hcount, herror⟩

variable {σ φ : Type} {layer : JobPersistence σ} {view : σ → JobStore} {policy : FaultPolicy φ}
  {now : DateTime} {connection : Uuid}

/-- Behind a policy whose first error strikes a call of the plan, a reconciliation does what
stands in the plan up to that call. -/
theorem run_guarded (hlayer : layer.Faithful view) {s : σ} (hids : (view s).DistinctIds)
    (hfree : (run layer now connection s).1 = .ok ()) {f : φ} {n : Nat} {cause : PersistenceError}
    {rest : List (Option PersistenceError)}
    (hstruck : policy.verdicts f (landed (run layer now connection s).2.calls) =
      List.replicate n none ++ some cause :: rest) :
    ∃ (listed : List Job) (p q : List JobCall) (c : PersistenceCall),
      (layer.perform (listing connection) s).1 = .ok listed ∧
      listed.Perm (active connection (view s)) ∧
      (run layer now connection s).2.calls = plan now connection listed ∧
      plan now connection listed = p ++ .persistence c :: q ∧ (landed p).length = n ∧
      (run (layer.guarded policy) now connection (s, f)).1 = .error ⟨c, cause⟩ ∧
      (run (layer.guarded policy) now connection (s, f)).2.calls = p ++ [.persistence c] ∧
      view (run (layer.guarded policy) now connection (s, f)).2.store.1 =
        (view s).afterAll (landed p) := by
  obtain ⟨listed, hlisted, hperm, hcalls, -⟩ := run_effect hlayer hids hfree
  rw [hcalls] at hstruck
  have hreply : ∀ reply, ((layer.guarded policy).perform (listing connection) (s, f)).1 =
      .ok reply → reply = listed := fun _ h =>
    Except.ok.inj ((JobPersistence.ok_of_guarded h).symm.trans hlisted)
  have hsucceed : layer.allSucceed s (landed (plan now connection listed)) := by
    rw [← hcalls]
    exact run_eq_ok_iff.mp hfree
  rcases run_cases_of_listed (hlayer.guarded policy) now connection hids hreply with
    ⟨hok, hmade, -⟩ | ⟨e, p, q, herror, hplan, hmade, hstore⟩
  · have hspared := run_eq_ok_iff.mp hok
    rw [hmade] at hspared
    exact absurd hspared (JobPersistence.not_allSucceed_of_struck hstruck)
  · have hlanded : landed (plan now connection listed) = landed p ++ e.call :: landed q := by
      rw [hplan, landed_append, landed_cons_persistence]
    rcases run_traced (layer.guarded policy) now connection (s, f) with
      ⟨hok, -⟩ | ⟨e', p', herror', hmade', hcs, hfailed⟩
    · rw [herror] at hok
      cases hok
    · obtain rfl : e = e' := Except.error.inj (herror.symm.trans herror')
      obtain rfl : p = p' := List.append_cancel_right (hmade.symm.trans hmade')
      rw [hlanded] at hsucceed hstruck
      obtain ⟨rest', hfirst⟩ := JobPersistence.verdicts_of_error hsucceed hcs hfailed
      obtain ⟨hcount, hcause⟩ := first_error_unique (hfirst.symm.trans hstruck)
      refine ⟨listed, p, q, e.call, hlisted, hperm, hcalls, hplan, hcount, ?_, hmade, hstore⟩
      rw [herror, ← hcause]

section Cut

variable {jobs before after : List Job} {here : Job} {c : PersistenceCall}
  {cs ds : List PersistenceCall}

theorem job?_of_mem_jobPlan {job : Job} {d : JobCall} (hd : d ∈ jobPlan now job) :
    d.job? = some job.id := by
  rw [jobPlan, List.mem_append] at hd
  rcases hd with hd | hd
  · obtain ⟨c, hc, rfl⟩ := List.mem_map.mp hd
    exact job?_of_mem_jobCalls hc
  · simp only [news, List.mem_cons, List.not_mem_nil, or_false] at hd
    rcases hd with rfl | rfl
    · exact congrArg some (id_outcome now job)
    · exact congrArg some (id_outcome now job)

theorem job?_of_mem_plan {d : JobCall} (hd : d ∈ plan now connection jobs) :
    d.job? = none ∨ ∃ job ∈ jobs, d.job? = some job.id := by
  rcases List.mem_cons.mp hd with rfl | hd
  · exact .inl rfl
  · obtain ⟨job, hjob, hd⟩ := List.mem_flatMap.mp hd
    exact .inr ⟨job, hjob, job?_of_mem_jobPlan hd⟩

/-- What is done up to a call for a job. -/
def cutPlan (now : DateTime) (connection : Uuid) (before : List Job) (cs : List PersistenceCall)
    (c : PersistenceCall) : List JobCall :=
  plan now connection before ++ cs.map .persistence ++ [.persistence c]

theorem mem_cutPlan (hcalls : jobCalls now here = cs ++ c :: ds) {d : JobCall}
    (hd : d ∈ cutPlan now connection before cs c) :
    d ∈ plan now connection before ∨ d.job? = some here.id ∧ ∃ c', d = .persistence c' := by
  rw [cutPlan, List.append_assoc, List.mem_append] at hd
  refine hd.imp id fun hd => ?_
  have hmem : d ∈ (jobCalls now here).map JobCall.persistence := by
    rw [hcalls, List.map_append, List.map_cons]
    rcases List.mem_append.mp hd with hd | hd
    · exact List.mem_append_left _ hd
    · exact List.mem_append_right _ (List.mem_singleton.mp hd ▸ List.mem_cons_self)
  obtain ⟨c', hc', rfl⟩ := List.mem_map.mp hmem
  exact ⟨job?_of_mem_jobCalls hc', c', rfl⟩

/-- The jobs listed before the one at which a reconciliation is cut off are settled. -/
theorem settled_of_cut {s : JobStore} (hids : s.DistinctIds) {job : Job} (hstored : job ∈ s.jobs)
    (hjob : job ∈ before) :
    Settled job (s.afterAll (landed (plan now connection before ++ cs.map .persistence)))
      (cutPlan now connection before cs c) := by
  have hmutations : ∀ d ∈ mutations now job,
      d ∈ landed (plan now connection before ++ cs.map .persistence) := by
    intro d hd
    rw [landed_append]
    exact List.mem_append_left _ (List.mem_cons_of_mem _ (mutations_mem_landed hjob hd))
  have hnews : ∀ d ∈ news (outcome now job), d ∈ cutPlan now connection before cs c := by
    intro d hd
    rw [cutPlan, List.append_assoc]
    exact List.mem_append_left _ (List.mem_cons_of_mem _ (news_mem_plan hjob hd))
  exact settled_of_finished hids hstored hmutations hnews

section Distinct

variable (hdistinct : ((before ++ here :: after).map Job.id).Nodup)
include hdistinct

/-- Everything that is done about the jobs listed earlier is done. -/
theorem mem_cutPlan_of_job? {job : Job} (hjob : job ∈ before) {d : JobCall}
    (hd : d ∈ plan now connection (before ++ here :: after)) (hid : d.job? = some job.id) :
    d ∈ cutPlan now connection before cs c := by
  rw [cutPlan, List.append_assoc]
  rcases List.mem_cons.mp hd with rfl | hd
  · cases hid
  · obtain ⟨other, hother, hd⟩ := List.mem_flatMap.mp hd
    rw [job?_of_mem_jobPlan hd] at hid
    obtain rfl := List.inj_on_of_nodup_map hdistinct hother (List.mem_append_left _ hjob)
      (Option.some.inj hid)
    exact List.mem_append_left _
      (List.mem_cons_of_mem _ (List.mem_flatMap.mpr ⟨other, hjob, hd⟩))

/-- Nobody is told about the job at which a reconciliation is cut off. -/
theorem exists_persistence_of_cut (hcalls : jobCalls now here = cs ++ c :: ds) {d : JobCall}
    (hd : d ∈ cutPlan now connection before cs c) (hid : d.job? = some here.id) :
    ∃ c', d = .persistence c' := by
  rw [List.map_append, List.map_cons, List.nodup_append] at hdistinct
  rcases mem_cutPlan hcalls hd with hd | ⟨-, hd⟩
  · rcases job?_of_mem_plan hd with hnone | ⟨job, hjob, hsome⟩
    · rw [hnone] at hid
      cases hid
    · rw [hsome] at hid
      exact absurd (Option.some.inj hid)
        (hdistinct.2.2 _ (List.mem_map_of_mem hjob) _ List.mem_cons_self)
  · exact hd

/-- Nothing is done about the jobs that would have come later. -/
theorem job?_ne_of_mem_cutPlan (hcalls : jobCalls now here = cs ++ c :: ds) {job : Job}
    (hjob : job ∈ after) {d : JobCall} (hd : d ∈ cutPlan now connection before cs c) :
    d.job? ≠ some job.id := by
  rw [List.map_append, List.map_cons, List.nodup_append, List.nodup_cons] at hdistinct
  obtain ⟨-, ⟨hafter, -⟩, hbefore⟩ := hdistinct
  intro hid
  rcases mem_cutPlan hcalls hd with hd | ⟨hsome, -⟩
  · rcases job?_of_mem_plan hd with hnone | ⟨other, hother, hsome⟩
    · rw [hnone] at hid
      cases hid
    · rw [hsome] at hid
      exact hbefore _ (List.mem_map_of_mem hother) _
        (List.mem_cons_of_mem _ (List.mem_map_of_mem hjob)) (Option.some.inj hid)
  · rw [hsome] at hid
    exact hafter (Option.some.inj hid ▸ List.mem_map_of_mem hjob)

theorem untouched_of_cut (hcalls : jobCalls now here = cs ++ c :: ds) {s : JobStore}
    (hids : s.DistinctIds) {job : Job} (hstored : job ∈ s.jobs) (hjob : job ∈ after) :
    job.Untouched s (s.afterAll (landed (plan now connection before ++ cs.map .persistence)))
      (cutPlan now connection before cs c) := by
  have hunmentioned := fun d (hd : d ∈ cutPlan now connection before cs c) =>
    job?_ne_of_mem_cutPlan hdistinct hcalls hjob hd
  have hlanded : ∀ d ∈ landed (plan now connection before ++ cs.map .persistence),
      d.job? ≠ some job.id := fun d hd =>
    hunmentioned (.persistence d) (List.mem_append_left _ (mem_landed.mp hd))
  refine ⟨⟨hstored, ?_⟩, JobStore.filter_summaries_afterAll hlanded, hunmentioned⟩
  rw [JobStore.jobs_afterAll hids]
  exact List.mem_map.mpr ⟨job, hstored, Job.afterAll_of_ne hlanded⟩

end Distinct

end Cut

/-- If a policy spares the first calls that an undisturbed reconciliation makes and strikes
the next one, then exactly what comes up to this call is done, and the error names the call.
Unless that is the listing, the call is about one of the jobs that are listed: all before that
one are settled, nobody is told about it, and all after it are untouched. -/
theorem cut_off_at_struck (hlayer : layer.Faithful view) (now : DateTime) (connection : Uuid)
    (s : σ) (hids : (view s).DistinctIds) (hfree : (run layer now connection s).1 = .ok ())
    (policy : FaultPolicy φ) (f : φ) (n : Nat) (cause : PersistenceError)
    (rest : List (Option PersistenceError))
    (hstruck : policy.verdicts f (landed (run layer now connection s).2.calls) =
      List.replicate n none ++ some cause :: rest) :
    let free := run layer now connection s
    let cut := run (layer.guarded policy) now connection (s, f)
    cut.2.calls = upTo n free.2.calls ∧
      view cut.2.store.1 = (view s).afterAll ((landed free.2.calls).take n) ∧
      ∃ (call : PersistenceCall) (listed : List Job),
        (landed free.2.calls)[n]? = some call ∧ cut.1 = .error ⟨call, cause⟩ ∧
        (layer.perform (listing connection) s).1 = .ok listed ∧
        (call = listing connection ∧ view cut.2.store.1 = view s ∨
          ∃ before here after, listed = before ++ here :: after ∧ call.job? = some here.id ∧
            (∀ job ∈ before, Settled job (view cut.2.store.1) cut.2.calls ∧
              ∀ d ∈ free.2.calls, d.job? = some job.id → d ∈ cut.2.calls) ∧
            (∀ d ∈ cut.2.calls, d.job? = some here.id → ∃ c, d = .persistence c) ∧
            ∀ job ∈ after, job.Untouched (view s) (view cut.2.store.1) cut.2.calls) := by
  intro free cut
  obtain ⟨listed, p, q, c, hlisted, hperm, hcalls, hplan, hcount, herror, hmade, hstore⟩ :=
    run_guarded hlayer hids hfree hstruck
  have hlanded : landed free.2.calls = landed p ++ c :: landed q := by
    rw [hcalls, hplan, landed_append, landed_cons_persistence]
  have hstored : ∀ job ∈ listed, job ∈ (view s).jobs := fun job hjob =>
    (mem_active.mp (hperm.mem_iff.mp hjob)).1
  have hdistinct := distinct_of_perm_active hids hperm
  refine ⟨?_, ?_, c, listed, ?_, herror, hlisted, ?_⟩
  · rw [hmade, hcalls, hplan, ← hcount, upTo_length_landed]
  · rw [hstore, hlanded, ← hcount, List.take_left]
  · rw [hlanded, ← hcount, List.getElem?_append_right (Nat.le_refl _), Nat.sub_self,
      List.getElem?_cons_zero]
  · rw [hcalls, hmade, hstore]
    rcases plan_split hplan with ⟨rfl, hlisting⟩ | ⟨before, here, after, cs, ds, rfl, hhere, rfl⟩
    · exact .inl ⟨hlisting, rfl⟩
    · refine .inr ⟨before, here, after, rfl, job?_of_split hhere, fun job hjob => ⟨?_, ?_⟩, ?_, ?_⟩
      · exact settled_of_cut hids (hstored job (List.mem_append_left _ hjob)) hjob
      · exact fun d hd hid => mem_cutPlan_of_job? hdistinct hjob hd hid
      · exact fun d hd hid => exists_persistence_of_cut hdistinct hhere hd hid
      · intro job hjob
        have hmem : job ∈ before ++ here :: after :=
          List.mem_append_right _ (List.mem_cons_of_mem _ hjob)
        exact untouched_of_cut hdistinct hhere hids (hstored job hmem) hjob

/-- Two jobs that run an attempt each. -/
def twoRunning : JobStore := ⟨[runningJob ⟨1⟩, runningJob ⟨2⟩], []⟩

/-- The first request to fail an attempt of the second job will fail. -/
def secondAttemptFault : List Fault :=
  [⟨.failAttempt, "database unavailable", some ⟨2⟩, none, some 1⟩]

theorem cut_off_at_struck_twoRunning :
    (run JobStore.persistence .epoch (.ofNat 1) twoRunning).1 = .ok () ∧
      Fault.policy.verdicts secondAttemptFault
          (landed (run JobStore.persistence .epoch (.ofNat 1) twoRunning).2.calls) =
        List.replicate 6 none ++ some ⟨"database unavailable"⟩ :: [none, none] ∧
      (run faultyLayer .epoch (.ofNat 1) (twoRunning, secondAttemptFault)).1 =
        .error ⟨.failAttempt ⟨2⟩ 0, ⟨"database unavailable"⟩⟩ ∧
      (run faultyLayer .epoch (.ofNat 1) (twoRunning, secondAttemptFault)).2.calls =
        upTo 6 (run JobStore.persistence .epoch (.ofNat 1) twoRunning).2.calls := by
  have hfree : (run JobStore.persistence .epoch (.ofNat 1) twoRunning).1 = .ok () :=
    run_eq_ok_iff.mpr (by decide +kernel)
  have hstruck : Fault.policy.verdicts secondAttemptFault
      (landed (run JobStore.persistence .epoch (.ofNat 1) twoRunning).2.calls) =
        List.replicate 6 none ++ some ⟨"database unavailable"⟩ :: [none, none] := by
    decide +kernel
  have hsixth : (landed (run JobStore.persistence .epoch (.ofNat 1) twoRunning).2.calls)[6]? =
      some (.failAttempt ⟨2⟩ 0) := by
    decide +kernel
  have h := cut_off_at_struck JobStore.persistence_faithful .epoch (.ofNat 1) twoRunning
    (by decide) hfree Fault.policy secondAttemptFault 6 ⟨"database unavailable"⟩ [none, none]
    hstruck
  refine ⟨hfree, hstruck, ?_⟩
  -- nothing below has to evaluate the runs again
  rw [← faultyLayer] at h
  generalize run faultyLayer .epoch (.ofNat 1) (twoRunning, secondAttemptFault) = cut at h ⊢
  generalize run JobStore.persistence .epoch (.ofNat 1) twoRunning = free at h hsixth ⊢
  obtain ⟨hcalls, -, call, -, hcall, herror, -⟩ := h
  obtain rfl := Option.some.inj (hsixth.symm.trans hcall)
  exact ⟨herror, hcalls⟩

end JobReconciler

end SyncLedger
