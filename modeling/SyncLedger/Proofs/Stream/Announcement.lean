import Mathlib.Data.List.Chain
import SyncLedger.Proofs.Stream.History

/-!
# Every move is announced

The emitter is told of a stream exactly when a message has moved it to another run state,
and a message moves one stream at most. So the updates of a stream, in their order, are
the run states that it went through, and the last of them is the one that the store holds.
-/

namespace SyncLedger

variable {σ ε : Type}

/-- The same emitter with a list of the updates that it was told, the latest one last. -/
def Emitter.recorded (e : Emitter ε) : Emitter (ε × List StreamStatusUpdate) where
  emit u s :=
    let result := e.emit u s.1
    (result.1, result.2, s.2 ++ [u])

/-- What is kept, without the list of updates. -/
def Tracking.forget (s : Tracking σ (ε × List StreamStatusUpdate)) : Tracking σ ε :=
  ⟨s.store, s.flags, s.emitter.1⟩

namespace Tracker

/-- The same tracker with a list of the updates that its emitter was told. -/
def recorded (t : Tracker σ ε) : Tracker σ (ε × List StreamStatusUpdate) :=
  ⟨t.client, t.emitter.recorded, t.context⟩

/-- The updates of a run that begins with nothing. -/
def updates (t : Tracker σ ε) (flags : σ) (emitter : ε) (as : List Arrival) :
    List StreamStatusUpdate :=
  (t.recorded.after flags (emitter, []) as).emitter.2

/-- The update that a message causes, if any. -/
def news? (t : Tracker σ ε) (a : Arrival) (store : StatusStore) (flags : σ) :
    Option StreamStatusUpdate :=
  (t.hear a.message flags).1.observation?.bind fun p =>
    updateOf? t.context a.instant
      (store.change (.ofDescriptor t.context.connectionId p.1) p.2)

theorem announce_recorded (t : Tracker σ ε) (instant : DateTime) (c : StatusChange)
    (s : ε × List StreamStatusUpdate) :
    (t.recorded.announce instant c s).2 =
      ((t.announce instant c s.1).2, s.2 ++ (updateOf? t.context instant c).toList) := by
  simp only [announce, recorded, Emitter.recorded]
  cases updateOf? t.context instant c with
  | none => simp
  | some u => simp

theorem track_recorded (t : Tracker σ ε) (a : Arrival)
    (s : Tracking σ (ε × List StreamStatusUpdate)) :
    (t.recorded.track a s).2.forget = (t.track a s.forget).2 ∧
      (t.recorded.track a s).2.emitter.2 = s.emitter.2 ++ (t.news? a s.store s.flags).toList := by
  have hhear : t.recorded.hear a.message s.flags = t.hear a.message s.flags := rfl
  have hflags : s.forget.flags = s.flags := rfl
  rw [track_eq, track_eq, news?, hhear, hflags]
  cases (t.hear a.message s.flags).1.observation? with
  | none => exact ⟨rfl, (List.append_nil _).symm⟩
  | some p =>
      have htold := t.announce_recorded a.instant
        (s.store.change (.ofDescriptor t.context.connectionId p.1) p.2) s.emitter
      constructor
      · exact congrArg (fun e => (⟨_, _, e.1⟩ : Tracking σ ε)) htold
      · exact congrArg Prod.snd htold

theorem trackAll_recorded (t : Tracker σ ε) (as : List Arrival)
    (s : Tracking σ (ε × List StreamStatusUpdate)) :
    (t.recorded.trackAll as s).2.forget = (t.trackAll as s.forget).2 := by
  induction as generalizing s with
  | nil => rfl
  | cons a as ih =>
      rw [trackAll, trackAll, ← (t.track_recorded a s).1]
      exact ih (t.recorded.track a s).2

/-- A record of the updates does not change the run. -/
theorem after_recorded (t : Tracker σ ε) (flags : σ) (emitter : ε) (as : List Arrival) :
    (t.recorded.after flags (emitter, []) as).forget = t.after flags emitter as :=
  t.trackAll_recorded as ⟨.empty, flags, (emitter, [])⟩

theorem store_after (t : Tracker σ ε) (flags : σ) (emitter : ε) (as : List Arrival) :
    (t.after flags emitter as).store = (t.recorded.after flags (emitter, []) as).store :=
  congrArg Tracking.store (t.after_recorded flags emitter as).symm

theorem updates_append_singleton (t : Tracker σ ε) (flags : σ) (emitter : ε) (as : List Arrival)
    (a : Arrival) :
    t.updates flags emitter (as ++ [a]) = t.updates flags emitter as ++
      (t.news? a (t.after flags emitter as).store (t.after flags emitter as).flags).toList := by
  rw [updates, after_append_singleton, (t.track_recorded a _).2,
    ← t.after_recorded flags emitter as]
  rfl

end Tracker

/-- The stream has another run state than before. A stream without a status is pending. -/
def Moved (before after : StatusStore) (k : StreamKey) : Prop :=
  (before.status k).runState ≠ (after.status k).runState

/-- A step from one store to the next announces what it did. -/
structure Announces (context : RunContext) (before after : StatusStore)
    (news : List StreamStatusUpdate) : Prop where
  moved : (∃ k, Moved before after k) → ∃ u, news = [u]
  still : (¬ ∃ k, Moved before after k) → news = []
  single : ∀ a b, after.get? a ≠ before.get? a → after.get? b ≠ before.get? b → a = b
  faithful : ∀ u ∈ news, Moved before after u.key ∧ u.context = context ∧
    ∃ s, after.get? u.key = some s ∧ u.runState = s.runState ∧ u.metadata = s.metadata

/-- The updates of one stream, the latest one last. -/
def updatesOf (k : StreamKey) (us : List StreamStatusUpdate) : List StreamStatusUpdate :=
  us.filter fun u => u.key = k

/-- The updates of a run and the store agree about every stream. -/
structure Mirrors (us : List StreamStatusUpdate) (store : StatusStore) : Prop where
  last : ∀ k u, (updatesOf k us).getLast? = some u →
    ∃ s, store.get? k = some s ∧ s.runState = u.runState
  silent : ∀ k, updatesOf k us = [] → ∀ s, store.get? k = some s → s.runState = .pending
  alternating : ∀ k, ((updatesOf k us).map StreamStatusUpdate.runState).IsChain (· ≠ ·)
  neverPending : ∀ u ∈ us, u.runState ≠ .pending

theorem StatusStore.status_of_get? {store : StatusStore} {k : StreamKey} {s : TrackedStatus}
    (h : store.get? k = some s) : store.status k = s := by
  rw [StatusStore.status, h, Option.getD_some]

/-- Nothing leads a stream back to the beginning. -/
theorem TrackedStatus.pending_of_observe {s : TrackedStatus} {o : Observation}
    (h : (s.observe o).runState = .pending) : s.runState = .pending := by
  rw [observe] at h
  split_ifs at h
  · exact h
  · cases o with
    | sourceComplete => exact h
    | checkpoint id =>
        rw [apply] at h
        split_ifs at h
        exact h
    | running | rateLimited info | incomplete | record => cases h

section Step

variable {context : RunContext} {before after : StatusStore} {news us : List StreamStatusUpdate}

theorem updatesOf_append (k : StreamKey) (us news : List StreamStatusUpdate) :
    updatesOf k (us ++ news) = updatesOf k us ++ updatesOf k news :=
  List.filter_append us news

/-- The run state that the last update of a stream gives; without one it is pending. -/
def lastState (k : StreamKey) (us : List StreamStatusUpdate) : RunState :=
  ((updatesOf k us).getLast?.map StreamStatusUpdate.runState).getD .pending

theorem Mirrors.lastState_eq (h : Mirrors us before) (k : StreamKey) :
    lastState k us = (before.status k).runState := by
  rw [lastState, StatusStore.status]
  cases hlast : (updatesOf k us).getLast? with
  | none =>
      have hsilent := h.silent k (List.getLast?_eq_none_iff.mp hlast)
      cases hget : before.get? k with
      | none => rfl
      | some s => exact (hsilent s hget).symm
  | some u =>
      obtain ⟨s, hget, hstate⟩ := h.last k u hlast
      rw [hget]
      exact hstate.symm

/-- What an announcing step adds to the updates of a stream. -/
theorem Announces.updatesOf_cases (h : Announces context before after news) (k : StreamKey) :
    (updatesOf k news = [] ∧ (after.status k).runState = (before.status k).runState) ∨
      ∃ u, updatesOf k news = [u] ∧ u.runState = (after.status k).runState ∧
        Moved before after k ∧ ∃ s, after.get? k = some s ∧ s.runState = u.runState := by
  by_cases hmoved : Moved before after k
  · right
    obtain ⟨u, rfl⟩ := h.moved ⟨k, hmoved⟩
    obtain ⟨hmoved', -, s, hget, hstate, -⟩ := h.faithful u (List.mem_singleton_self u)
    have hvalue : ∀ j, Moved before after j → after.get? j ≠ before.get? j := by
      intro j hj heq
      rw [Moved, StatusStore.status, StatusStore.status, heq] at hj
      exact hj rfl
    have hkey : u.key = k := h.single _ _ (hvalue _ hmoved') (hvalue _ hmoved)
    rw [hkey] at hget
    refine ⟨u, ?_, ?_, hmoved, s, hget, hstate.symm⟩
    · simp [updatesOf, hkey]
    · rw [StatusStore.status, hget]
      exact hstate
  · left
    refine ⟨List.filter_eq_nil_iff.mpr fun u hu => ?_, (not_not.mp hmoved).symm⟩
    have hmoved' := (h.faithful u hu).1
    rw [decide_eq_true_iff]
    rintro rfl
    exact hmoved hmoved'

/-- The updates go on mirroring the store if a step announces what it does and leads no
stream back to the beginning. -/
theorem Mirrors.append (h : Mirrors us before) (hnews : Announces context before after news)
    (hforward : ∀ k, (after.status k).runState = .pending →
      (before.status k).runState = .pending) :
    Mirrors (us ++ news) after where
  last k u hlast := by
    rw [updatesOf_append] at hlast
    rcases hnews.updatesOf_cases k with ⟨hnone, hstate⟩ | ⟨v, hone, -, -, s, hget, hstate⟩
    · rw [hnone, List.append_nil] at hlast
      obtain ⟨s, hget, hs⟩ := h.last k u hlast
      rw [StatusStore.status_of_get? hget, hs] at hstate
      cases hafter : after.get? k with
      | none =>
          have hmem : u ∈ us := (List.mem_filter.mp (List.mem_of_getLast? hlast)).1
          rw [StatusStore.status, hafter] at hstate
          exact absurd hstate.symm (h.neverPending u hmem)
      | some s' =>
          rw [StatusStore.status_of_get? hafter] at hstate
          exact ⟨s', rfl, hstate⟩
    · rw [hone, List.getLast?_append, List.getLast?_singleton] at hlast
      obtain rfl := Option.some.inj hlast
      exact ⟨s, hget, hstate⟩
  silent k hnil s hget := by
    rw [updatesOf_append, List.append_eq_nil_iff] at hnil
    rcases hnews.updatesOf_cases k with ⟨-, hstate⟩ | ⟨v, hone, -⟩
    · have hpending := h.lastState_eq k
      rw [lastState, hnil.1] at hpending
      rw [StatusStore.status_of_get? hget] at hstate
      rw [hstate, ← hpending]
      rfl
    · rw [hone] at hnil
      cases hnil.2
  alternating k := by
    rw [updatesOf_append]
    rcases hnews.updatesOf_cases k with ⟨hnone, -⟩ | ⟨v, hone, hstate, hmoved, -⟩
    · rw [hnone, List.append_nil]
      exact h.alternating k
    · rw [hone, List.map_append]
      refine (h.alternating k).append (List.isChain_singleton _) ?_
      intro x hx y hy
      -- the last update so far gives the run state that the stream has left
      have hleft : x = (before.status k).runState := by
        rw [← h.lastState_eq k, lastState, ← List.getLast?_map, Option.mem_def.mp hx]
        rfl
      obtain rfl : v.runState = y := Option.some.inj hy
      rw [hleft, hstate]
      exact hmoved
  neverPending u hu := by
    rcases List.mem_append.mp hu with hu | hu
    · exact h.neverPending u hu
    · obtain ⟨hmoved, -, s, hget, hstate, -⟩ := hnews.faithful u hu
      intro hpending
      apply hmoved
      rw [hstate, ← StatusStore.status_of_get? hget] at hpending
      rw [hpending, hforward u.key hpending]

end Step

/-- An update of one stream is announced exactly if it is a transition. -/
theorem StatusStore.announces_update (s : StatusStore) (context : RunContext)
    (instant : DateTime) (k : StreamKey) (o : Observation) :
    Announces context s (s.update k o)
      (Tracker.updateOf? context instant (s.change k o)).toList := by
  have hother : ∀ {j}, Moved s (s.update k o) j → j = k := by
    intro j hj
    by_contra hne
    exact hj (by rw [status_update_of_ne s o hne])
  have htransition : (s.change k o).isTransition = true ↔ Moved s (s.update k o) k := by
    rw [StatusChange.isTransition, decide_eq_true_iff, Moved, status_update_self]
    rfl
  have hsingle : ∀ j, (s.update k o).get? j ≠ s.get? j → j = k := by
    intro j hj
    by_contra hne
    exact hj (by rw [get?_update, if_neg hne])
  rw [Tracker.updateOf?]
  by_cases hmoved : Moved s (s.update k o) k
  · rw [if_pos (htransition.mpr hmoved)]
    refine ⟨fun _ => ⟨_, rfl⟩, fun hstill => absurd ⟨k, hmoved⟩ hstill, ?_, ?_⟩
    · intro i j hi hj
      rw [hsingle i hi, hsingle j hj]
    · intro u hu
      obtain rfl := List.mem_singleton.mp hu
      refine ⟨hmoved, rfl, (s.status k).observe o, ?_, rfl, rfl⟩
      change (s.update k o).get? k = _
      rw [get?_update, if_pos rfl]
  · rw [if_neg (mt htransition.mp hmoved)]
    refine ⟨?_, fun _ => rfl, ?_, ?_⟩
    · rintro ⟨j, hj⟩
      obtain rfl := hother hj
      exact absurd hj hmoved
    · intro i j hi hj
      rw [hsingle i hi, hsingle j hj]
    · intro u hu
      cases hu

namespace Tracker

/-- A message announces what it does. -/
theorem announces_track (t : Tracker σ ε) (a : Arrival) (s : Tracking σ ε) :
    Announces t.context s.store (t.track a s).2.store (t.news? a s.store s.flags).toList := by
  rw [track_eq, news?]
  cases (t.hear a.message s.flags).1.observation? with
  | none =>
      refine ⟨fun ⟨_, hmoved⟩ => absurd rfl hmoved, fun _ => rfl, fun _ _ h => absurd rfl h, ?_⟩
      intro u hu
      cases hu
  | some p =>
      exact s.store.announces_update t.context a.instant
        (.ofDescriptor t.context.connectionId p.1) p.2

theorem pending_of_pending_track {t : Tracker σ ε} {a : Arrival} {s : Tracking σ ε}
    {k : StreamKey} (h : ((t.track a s).2.store.status k).runState = .pending) :
    (s.store.status k).runState = .pending := by
  rw [status_track] at h
  cases hobs : (t.hear a.message s.flags).1.observationOf? t.context.connectionId k with
  | none => rwa [hobs] at h
  | some o =>
      rw [hobs] at h
      exact TrackedStatus.pending_of_observe h

theorem mirrors_updates (t : Tracker σ ε) (flags : σ) (emitter : ε) (as : List Arrival) :
    Mirrors (t.updates flags emitter as) (t.after flags emitter as).store := by
  induction as using List.reverseRecOn with
  | nil =>
      refine ⟨?_, ?_, fun _ => List.isChain_nil, ?_⟩
      · intro k u hlast
        cases hlast
      · intro k _ s hget
        cases hget
      · intro u hu
        cases hu
  | append_singleton as a ih =>
      rw [updates_append_singleton, after_append_singleton]
      exact ih.append (t.announces_track a _) fun k => pending_of_pending_track

/-- At every point of a run the updates mirror the store, and the next message announces
what it does. -/
theorem updates_mirror_and_announce (t : Tracker σ ε) (flags : σ) (emitter : ε)
    (as : List Arrival) :
    Mirrors (t.updates flags emitter as) (t.after flags emitter as).store ∧
      ∀ a, ∃ news, t.updates flags emitter (as ++ [a]) = t.updates flags emitter as ++ news ∧
        Announces t.context (t.after flags emitter as).store
          (t.after flags emitter (as ++ [a])).store news := by
  refine ⟨t.mirrors_updates flags emitter as, fun a => ?_⟩
  refine ⟨_, t.updates_append_singleton flags emitter as a, ?_⟩
  rw [after_append_singleton]
  exact t.announces_track a (t.after flags emitter as)

end Tracker

end SyncLedger
