import SyncLedger.Proofs.Stream.Throttle

/-!
# Ended streams stay as they are

A stream that has ended keeps its whole status, and nothing more is reported of it, whatever
is tracked afterwards. Only ended streams are safe from the messages to come: a source can
always give up an open one.
-/

namespace SyncLedger

namespace Tracker

variable {σ ε : Type}

/-- Whatever comes after a run, the stream keeps its status and nothing is reported of it. -/
structure Frozen (t : Tracker σ ε) (flags : σ) (emitter : ε) (k : StreamKey)
    (as : List Arrival) : Prop where
  status : ∀ bs, (t.after flags emitter (as ++ bs)).store.get? k =
    (t.after flags emitter as).store.get? k
  updates : ∀ bs, updatesOf k (t.updates flags emitter (as ++ bs)) =
    updatesOf k (t.updates flags emitter as)

variable {t : Tracker σ ε} {flags : σ} {emitter : ε} {k : StreamKey} {as : List Arrival}

theorem get?_of_isTerminal (h : (t.statusAfter flags emitter k as).runState.isTerminal = true) :
    (t.after flags emitter as).store.get? k = some (t.statusAfter flags emitter k as) := by
  rw [statusAfter, StatusStore.status] at h ⊢
  cases hget : (t.after flags emitter as).store.get? k with
  | none =>
      rw [hget] at h
      cases h
  | some s => rfl

theorem connectionId_of_isTerminal
    (h : (t.statusAfter flags emitter k as).runState.isTerminal = true) :
    k.connectionId = t.context.connectionId := by
  have hsome : ((t.after flags emitter as).store.get? k).isSome = true := by
    rw [get?_of_isTerminal h]
    rfl
  obtain ⟨m, -, haddresses⟩ := (t.isSome_get?_run flags emitter as k).mp hsome
  obtain ⟨stream, -, rfl⟩ := Message.addresses_iff.mp haddresses
  rfl

/-- A message reports nothing of a stream that has ended. -/
theorem updatesOf_append_singleton_of_isTerminal (a : Arrival)
    (h : (t.statusAfter flags emitter k as).runState.isTerminal = true) :
    updatesOf k (t.updates flags emitter (as ++ [a])) =
      updatesOf k (t.updates flags emitter as) := by
  have hnews := t.announces_track a (t.after flags emitter as)
  rw [updates_append_singleton, updatesOf_append]
  rcases hnews.updatesOf_cases k with ⟨hnone, -⟩ | ⟨u, -, -, hmoved, -⟩
  · rw [hnone, List.append_nil]
  · rw [Moved, status_track_of_isTerminal t a h] at hmoved
    exact absurd rfl hmoved

theorem frozen_of_isTerminal
    (h : (t.statusAfter flags emitter k as).runState.isTerminal = true) :
    t.Frozen flags emitter k as := by
  have hstatus : ∀ bs, t.statusAfter flags emitter k (as ++ bs) =
      t.statusAfter flags emitter k as := fun bs =>
    statusAfter_eq_of_ended h (List.prefix_append as bs)
  refine ⟨fun bs => ?_, fun bs => ?_⟩
  · rw [get?_of_isTerminal h, get?_of_isTerminal, hstatus]
    rwa [hstatus]
  · induction bs using List.reverseRecOn with
    | nil => rw [List.append_nil]
    | append_singleton bs b ih =>
        rw [← List.append_assoc, updatesOf_append_singleton_of_isTerminal, ih]
        rwa [hstatus]

/-- The source gives the stream up. -/
def givingUp (stream : StreamDescriptor) : Arrival :=
  ⟨.trace ⟨.streamStatus, default, some ⟨stream, .incomplete, []⟩⟩, default⟩

theorem statusAfter_givingUp (hk : k.connectionId = t.context.connectionId)
    (hopen : (t.statusAfter flags emitter k as).runState.isTerminal = false) :
    (t.statusAfter flags emitter k (as ++ [givingUp k.descriptor])).runState = .incomplete := by
  have hkey : StreamKey.ofDescriptor t.context.connectionId k.descriptor = k := by
    rw [← hk]
    rfl
  have hobs : (t.hear (givingUp k.descriptor).message
      (t.after flags emitter as).flags).1.observationOf? t.context.connectionId k =
        some .incomplete := by
    have hsome : (t.hear (givingUp k.descriptor).message
        (t.after flags emitter as).flags).1.observation? = some (k.descriptor, .incomplete) := rfl
    rw [Heard.observationOf?_of_some hsome, if_pos hkey]
  rw [statusAfter, after_append_singleton, status_track_of_open t _ hopen, hobs]
  rfl

/-- The streams of the connection that have ended are exactly those that nothing to come can
change or report anything of. -/
theorem isTerminal_iff_frozen (t : Tracker σ ε) (flags : σ) (emitter : ε) (k : StreamKey)
    (as : List Arrival) :
    (t.statusAfter flags emitter k as).runState.isTerminal = true ↔
      k.connectionId = t.context.connectionId ∧ t.Frozen flags emitter k as := by
  constructor
  · intro h
    exact ⟨connectionId_of_isTerminal h, frozen_of_isTerminal h⟩
  · rintro ⟨hk, hfrozen⟩
    by_contra hopen
    have hend := statusAfter_givingUp hk (Bool.of_not_eq_true hopen)
    rw [statusAfter, StatusStore.status, hfrozen.status, ← StatusStore.status] at hend
    rw [statusAfter, hend] at hopen
    exact hopen rfl

end Tracker

end SyncLedger
