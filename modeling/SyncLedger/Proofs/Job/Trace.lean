import SyncLedger.Proofs.Job.Reconcile

/-!
# Which call fails

A reconciliation makes its calls one after another, each in the state that the calls before
it left, and ends at the first one that fails. So its result can be told from its calls:
made again, from the same state, they all succeed if it succeeded, and if it failed all but
the last one do. Nothing is asked of the layer here.
-/

namespace SyncLedger

namespace JobPersistence

variable {σ : Type} (layer : JobPersistence σ)

/-- The state after some calls, made one after another. -/
def stateAfter (s : σ) (cs : List PersistenceCall) : σ :=
  cs.foldl (fun s c => (layer.perform c s).2) s

/-- None of some calls fails when they are made one after another. -/
def allSucceed : σ → List PersistenceCall → Bool
  | _, [] => true
  | s, c :: cs => (layer.perform c s).1.isOk && allSucceed (layer.perform c s).2 cs

@[simp] theorem allSucceed_nil (s : σ) : layer.allSucceed s [] = true := rfl

theorem allSucceed_cons (s : σ) (c : PersistenceCall) (cs : List PersistenceCall) :
    layer.allSucceed s (c :: cs) =
      ((layer.perform c s).1.isOk && layer.allSucceed (layer.perform c s).2 cs) := rfl

theorem stateAfter_cons (s : σ) (c : PersistenceCall) (cs : List PersistenceCall) :
    layer.stateAfter s (c :: cs) = layer.stateAfter (layer.perform c s).2 cs := rfl

theorem stateAfter_append (s : σ) (cs ds : List PersistenceCall) :
    layer.stateAfter s (cs ++ ds) = layer.stateAfter (layer.stateAfter s cs) ds :=
  List.foldl_append

theorem allSucceed_append (s : σ) (cs ds : List PersistenceCall) :
    layer.allSucceed s (cs ++ ds) =
      (layer.allSucceed s cs && layer.allSucceed (layer.stateAfter s cs) ds) := by
  induction cs generalizing s with
  | nil => rfl
  | cons c cs ih =>
      rw [List.cons_append, allSucceed_cons, allSucceed_cons, stateAfter_cons, ih, Bool.and_assoc]

end JobPersistence

namespace JobReconciler

variable {σ α β : Type} {layer : JobPersistence σ}

/-- A part of a reconciliation that starts in `s` and ends with `r` makes calls of the layer
one after another until one of them fails. -/
inductive Traced (layer : JobPersistence σ) (s : Reconciliation σ) :
    EStateM.Result FailJobsError (Reconciliation σ) α → Prop where
  | done {a : α} {t : Reconciliation σ} (made : List JobCall) (calls : t.calls = s.calls ++ made)
      (succeeded : layer.allSucceed s.store (landed made))
      (store : t.store = layer.stateAfter s.store (landed made)) : Traced layer s (.ok a t)
  | stopped {e : FailJobsError} {t : Reconciliation σ} (made : List JobCall)
      (calls : t.calls = s.calls ++ (made ++ [.persistence e.call]))
      (succeeded : layer.allSucceed s.store (landed made))
      (failed : (layer.perform e.call (layer.stateAfter s.store (landed made))).1 =
        .error e.cause) : Traced layer s (.error e t)

theorem traced_call (c : PersistenceCall) (s : Reconciliation σ) :
    Traced layer s (call layer c s) := by
  rw [call]
  cases hr : (layer.perform c s.store).1 with
  | ok r =>
      refine .done [.persistence c] rfl ?_ rfl
      change layer.allSucceed s.store [c] = true
      rw [JobPersistence.allSucceed_cons, hr]
      rfl
  | error e => exact .stopped [] rfl rfl hr

theorem traced_pure (a : α) (s : Reconciliation σ) :
    Traced layer s ((pure a : Work σ α) s) :=
  .done [] (List.append_nil _).symm rfl rfl

theorem Traced.bind {x : Work σ α} {f : α → Work σ β} {s : Reconciliation σ}
    (hx : Traced layer s (x s)) (hf : ∀ a t, Traced layer t (f a t)) :
    Traced layer s ((x >>= f) s) := by
  simp only [Bind.bind, EStateM.bind]
  generalize x s = r at hx
  cases hx with
  | @done a t p calls succeeded store =>
      have ht := hf a t
      simp only
      generalize f a t = r' at ht
      cases ht with
      | done q calls' succeeded' store' =>
          refine .done (p ++ q) ?_ ?_ ?_
          · rw [calls', calls, List.append_assoc]
          · rw [landed_append, JobPersistence.allSucceed_append, succeeded, ← store, succeeded']
            rfl
          · rw [store', store, landed_append, JobPersistence.stateAfter_append]
      | stopped q calls' succeeded' failed =>
          refine .stopped (p ++ q) ?_ ?_ ?_
          · rw [calls', calls, List.append_assoc, List.append_assoc]
          · rw [landed_append, JobPersistence.allSucceed_append, succeeded, ← store, succeeded']
            rfl
          · rw [landed_append, JobPersistence.stateAfter_append, ← store, failed]
  | stopped p calls succeeded failed => exact .stopped p calls succeeded failed

theorem traced_forM {f : α → Work σ Unit} (hf : ∀ a s, Traced layer s (f a s)) (as : List α)
    (s : Reconciliation σ) : Traced layer s (as.forM f s) := by
  induction as generalizing s with
  | nil => exact traced_pure () s
  | cons a as ih => exact Traced.bind (hf a s) fun _ => ih

theorem traced_failAttempt (now : DateTime) (job : JobId) (n : AttemptNumber)
    (s : Reconciliation σ) : Traced layer s (failAttempt layer now job n s) :=
  Traced.bind (traced_call _ s) fun _ => traced_call _

theorem traced_failJob (now : DateTime) (job : Job) (s : Reconciliation σ) :
    Traced layer s (failJob layer now job s) := by
  refine Traced.bind (traced_call _ s) fun _ t => ?_
  have hattempt (a : Attempt) (u : Reconciliation σ) :
      Traced layer u (failAttempt layer now job.id a.number u) := traced_failAttempt _ _ _ u
  refine Traced.bind (traced_forM hattempt _ t) fun _ u => ?_
  refine Traced.bind (traced_call _ u) fun current v => ?_
  exact .done (news current) (List.append_assoc _ _ _) rfl rfl

theorem traced_failJobs (now : DateTime) (connection : Uuid) (jobs : List Job)
    (s : Reconciliation σ) : Traced layer s (failJobs layer now connection jobs s) := by
  cases jobs with
  | nil => exact traced_pure () s
  | cons job jobs =>
      refine Traced.bind (x := log _) ?_ fun _ => traced_forM (traced_failJob now) _
      exact .done [] (List.append_nil _).symm rfl rfl

/-- A reconciliation succeeds with all of its calls, or fails with the last one. -/
theorem run_traced (layer : JobPersistence σ) (now : DateTime) (connection : Uuid) (s : σ) :
    ((run layer now connection s).1 = .ok () ∧
        layer.allSucceed s (landed (run layer now connection s).2.calls)) ∨
      ∃ e made, (run layer now connection s).1 = .error e ∧
        (run layer now connection s).2.calls = made ++ [.persistence e.call] ∧
        layer.allSucceed s (landed made) ∧
        (layer.perform e.call (layer.stateAfter s (landed made))).1 = .error e.cause := by
  have htraced : Traced layer ⟨s, [], []⟩ (failNonTerminal layer now connection ⟨s, [], []⟩) :=
    Traced.bind (traced_call _ _) fun jobs => traced_failJobs now connection jobs
  rw [run]
  generalize failNonTerminal layer now connection ⟨s, [], []⟩ = r at htraced
  cases htraced with
  | done made calls succeeded store =>
      refine .inl ⟨rfl, ?_⟩
      rw [calls]
      exact succeeded
  | stopped made calls succeeded failed => exact .inr ⟨_, made, rfl, calls, succeeded, failed⟩

/-- A reconciliation succeeds exactly if none of its calls fails. -/
theorem run_eq_ok_iff {now : DateTime} {connection : Uuid} {s : σ} :
    (run layer now connection s).1 = .ok () ↔
      layer.allSucceed s (landed (run layer now connection s).2.calls) := by
  rcases run_traced layer now connection s with
    ⟨hok, hsucceed⟩ | ⟨e, made, herror, hcalls, -, hfailed⟩
  · exact iff_of_true hok hsucceed
  · refine iff_of_false ?_ ?_
    · rw [herror]
      exact fun h => nomatch h
    · rw [hcalls, landed_append, landed_cons_persistence, JobPersistence.allSucceed_append,
        JobPersistence.allSucceed_cons, hfailed, Bool.and_eq_true]
      exact fun h => Bool.false_ne_true h.2

end JobReconciler

end SyncLedger
