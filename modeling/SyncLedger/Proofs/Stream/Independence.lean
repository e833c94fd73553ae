import SyncLedger.Proofs.Stream.Account
import SyncLedger.Proofs.Stream.Announcement

/-!
# Streams do not interfere

If the flag client answers the same question always in the same way, then what a run makes of
a stream depends on the messages about this stream alone: messages about other streams may
come before, after or between them. `Rearranged` are the orders of the same messages that look
alike to every stream, and `Tracker.viewAfter` is all that a run shows of one stream.
-/

namespace SyncLedger

variable {σ ε : Type}

/-- The answers depend on the flag and on the context alone. -/
def FlagClient.IsSteady (client : FlagClient σ) : Prop :=
  ∃ answer : Flag → FlagContext → Except FlagEvaluationError Bool,
    ∀ flag context s, (client.evaluate flag context s).1 = answer flag context

/-- The same messages in another order, in which those about one stream follow one another as
before. -/
structure Rearranged (connection : Uuid) (ms ms' : List Message) : Prop where
  perm : ms.Perm ms'
  order : ∀ k, ms.filter (Message.addresses connection k) =
    ms'.filter (Message.addresses connection k)

/-- No two messages of two lists are about the same stream. -/
def Message.Apart (ms ms' : List Message) : Prop :=
  ∀ m ∈ ms, ∀ m' ∈ ms', m.stream? = none ∨ m.stream? ≠ m'.stream?

instance (ms ms' : List Message) : Decidable (Message.Apart ms ms') :=
  inferInstanceAs (Decidable (∀ m ∈ ms, ∀ m' ∈ ms', m.stream? = none ∨ m.stream? ≠ m'.stream?))

theorem Message.Apart.filter_eq_nil {ms ms' : List Message} (h : Apart ms ms')
    (connection : Uuid) (k : StreamKey) :
    ms.filter (addresses connection k) = [] ∨ ms'.filter (addresses connection k) = [] := by
  by_cases hnone : ms.filter (addresses connection k) = []
  · exact .inl hnone
  · obtain ⟨m, hmem⟩ := List.exists_mem_of_ne_nil _ hnone
    obtain ⟨hm, haddresses⟩ := List.mem_filter.mp hmem
    obtain ⟨stream, hstream, rfl⟩ := addresses_iff.mp haddresses
    refine .inr (List.filter_eq_nil_iff.mpr fun m' hm' haddresses' => ?_)
    obtain ⟨stream', hstream', hkey⟩ := addresses_iff.mp haddresses'
    obtain rfl := (StreamKey.ofDescriptor_inj _ _ _).mp hkey
    have hne := h m hm m' hm'
    rw [hstream, hstream'] at hne
    simp at hne

/-- Neighbouring messages may change places unless they are about the same stream. -/
theorem Rearranged.swap (connection : Uuid) (before after : List Message) {ms ms' : List Message}
    (h : Message.Apart ms ms') :
    Rearranged connection (before ++ (ms ++ ms') ++ after) (before ++ (ms' ++ ms) ++ after) where
  perm := ((@List.perm_append_comm _ ms ms').append_left before).append_right after
  order k := by
    have hcomm : (ms ++ ms').filter (Message.addresses connection k) =
        (ms' ++ ms).filter (Message.addresses connection k) := by
      rw [List.filter_append, List.filter_append]
      rcases h.filter_eq_nil connection k with hnil | hnil
      · rw [hnil, List.nil_append, List.append_nil]
      · rw [hnil, List.nil_append, List.append_nil]
    simp only [List.filter_append] at hcomm ⊢
    rw [hcomm]

/-- What an update says of its stream. -/
def StreamStatusUpdate.content (u : StreamStatusUpdate) : RunState × Option RateLimitedInfo :=
  (u.runState, u.metadata)

/-- What an observation of a stream adds to the updates: what the stream moved to, if it did. -/
def TrackedStatus.news (s : TrackedStatus) (o : Observation) :
    List (RunState × Option RateLimitedInfo) :=
  if s.runState ≠ (s.observe o).runState then [((s.observe o).runState, (s.observe o).metadata)]
  else []

/-- The status of a stream, and what its updates say. -/
def Tracking.view (k : StreamKey) (s : Tracking σ (ε × List StreamStatusUpdate)) :
    Option TrackedStatus × List (RunState × Option RateLimitedInfo) :=
  (s.store.get? k, (updatesOf k s.emitter.2).map StreamStatusUpdate.content)

namespace Tracker

variable {t : Tracker σ ε} {k : StreamKey}

theorem updatesOf_updateOf? (k : StreamKey) (context : RunContext) (instant : DateTime)
    (c : StatusChange) :
    updatesOf k (updateOf? context instant c).toList =
      if c.key = k then (updateOf? context instant c).toList else [] := by
  unfold updateOf?
  by_cases hmoved : c.isTransition = true
  · by_cases hkey : c.key = k
    · simp [updatesOf, hmoved, hkey]
    · simp [updatesOf, hmoved, hkey]
  · simp [updatesOf, hmoved]

theorem map_content_updateOf? (context : RunContext) (instant : DateTime) (store : StatusStore)
    (k : StreamKey) (o : Observation) :
    (updateOf? context instant (store.change k o)).toList.map StreamStatusUpdate.content =
      (store.status k).news o := by
  unfold updateOf? TrackedStatus.news StatusChange.isTransition
  by_cases hmoved : (store.status k).runState = ((store.status k).observe o).runState
  · simp [StatusStore.change, hmoved]
  · simp [StatusStore.change, hmoved, StreamStatusUpdate.content]

theorem content_news? (t : Tracker σ ε) (a : Arrival) (store : StatusStore) (flags : σ)
    (k : StreamKey) :
    (updatesOf k (t.news? a store flags).toList).map StreamStatusUpdate.content =
      ((t.hear a.message flags).1.observationOf? t.context.connectionId k).elim []
        (store.status k).news := by
  rw [news?, Heard.observationOf?]
  cases (t.hear a.message flags).1.observation? with
  | none => rfl
  | some p =>
      have hself : (store.change (.ofDescriptor t.context.connectionId p.1) p.2).key =
          .ofDescriptor t.context.connectionId p.1 := rfl
      rw [Option.bind_some, Option.bind_some, updatesOf_updateOf?, hself]
      split_ifs with hkey
      · rw [map_content_updateOf?, hkey]
        rfl
      · rfl

/-- What a message does to the view of a stream. -/
theorem view_track (t : Tracker σ ε) (a : Arrival)
    (s : Tracking σ (ε × List StreamStatusUpdate)) (k : StreamKey) :
    (t.recorded.track a s).2.view k =
      ((t.hear a.message s.flags).1.observationOf? t.context.connectionId k).elim (s.view k)
        fun o => (some ((s.store.status k).observe o), (s.view k).2 ++ (s.store.status k).news o) := by
  have hstore := t.recorded.get?_track a s k
  have hhear : t.recorded.hear a.message s.flags = t.hear a.message s.flags := rfl
  have hcontext : t.recorded.context = t.context := rfl
  rw [hhear, hcontext] at hstore
  rw [Tracking.view, hstore, (t.track_recorded a s).2, updatesOf_append, List.map_append,
    content_news?]
  cases (t.hear a.message s.flags).1.observationOf? t.context.connectionId k with
  | none => exact congrArg (s.store.get? k, ·) (List.append_nil _)
  | some o => rfl

/-- A message about another stream, or about none, does not change the view. -/
theorem view_track_of_not_addresses {a : Arrival} {s : Tracking σ (ε × List StreamStatusUpdate)}
    (h : a.message.addresses t.context.connectionId k = false) :
    (t.recorded.track a s).2.view k = s.view k := by
  have hnone : (t.hear a.message s.flags).1.observationOf? t.context.connectionId k = none := by
    rw [← Option.not_isSome_iff_eq_none, Heard.isSome_observationOf?, hear_message, h]
    exact Bool.false_ne_true
  rw [view_track, hnone, Option.elim_none]

theorem hear_of_isSteady (h : t.client.IsSteady) (m : Message) (flags flags' : σ) :
    (t.hear m flags).1 = (t.hear m flags').1 := by
  obtain ⟨answer, hanswer⟩ := h
  unfold hear
  split
  · rfl
  · simp only [hanswer]

/-- The same message does the same to equal views. -/
theorem view_track_congr (hsteady : t.client.IsSteady) {a b : Arrival}
    (hmessage : a.message = b.message) {s s' : Tracking σ (ε × List StreamStatusUpdate)}
    (h : s.view k = s'.view k) :
    (t.recorded.track a s).2.view k = (t.recorded.track b s').2.view k := by
  have hstatus : s.store.status k = s'.store.status k := by
    rw [StatusStore.status, StatusStore.status]
    exact congrArg (·.1.getD .initial) h
  rw [view_track, view_track, hmessage, hear_of_isSteady hsteady _ s.flags s'.flags, h, hstatus]

theorem view_trackAll_congr (hsteady : t.client.IsSteady) {as bs : List Arrival}
    (hmessages : as.map Arrival.message = bs.map Arrival.message)
    {s s' : Tracking σ (ε × List StreamStatusUpdate)} (h : s.view k = s'.view k) :
    (t.recorded.trackAll as s).2.view k = (t.recorded.trackAll bs s').2.view k := by
  induction as generalizing bs s s' with
  | nil =>
      obtain rfl := List.map_eq_nil_iff.mp hmessages.symm
      exact h
  | cons a as ih =>
      obtain ⟨b, bs, rfl, hmessage, hrest⟩ := List.map_eq_cons_iff.mp hmessages.symm
      exact ih hrest.symm (view_track_congr hsteady hmessage.symm h)

/-- The messages about other streams may be left out. -/
theorem view_trackAll_filter (hsteady : t.client.IsSteady) (as : List Arrival)
    (s : Tracking σ (ε × List StreamStatusUpdate)) :
    (t.recorded.trackAll as s).2.view k =
      (t.recorded.trackAll (as.filter (·.message.addresses t.context.connectionId k)) s).2.view k := by
  induction as generalizing s with
  | nil => rfl
  | cons a as ih =>
      rw [List.filter_cons]
      split_ifs with haddresses
      · exact ih _
      · -- without this message the rest of the run begins with the same view
        have hsame := view_track_of_not_addresses (s := s) (Bool.of_not_eq_true haddresses)
        exact (ih _).trans (view_trackAll_congr hsteady rfl hsame)

/-- What a run that begins with nothing shows of a stream. -/
def viewAfter (t : Tracker σ ε) (flags : σ) (emitter : ε) (k : StreamKey) (as : List Arrival) :
    Option TrackedStatus × List (RunState × Option RateLimitedInfo) :=
  ((t.after flags emitter as).store.get? k,
    (updatesOf k (t.updates flags emitter as)).map StreamStatusUpdate.content)

theorem viewAfter_eq (t : Tracker σ ε) (flags : σ) (emitter : ε) (k : StreamKey)
    (as : List Arrival) :
    t.viewAfter flags emitter k as =
      (t.recorded.trackAll as ⟨.empty, flags, (emitter, [])⟩).2.view k := by
  rw [viewAfter, store_after]
  rfl

theorem filter_map_message (connection : Uuid) (k : StreamKey) (as : List Arrival) :
    (as.filter (·.message.addresses connection k)).map Arrival.message =
      (as.map Arrival.message).filter (Message.addresses connection k) := by
  rw [List.filter_map]
  rfl

/-- With steady flags the status of a stream and its updates are the same in every order of the
messages that keeps the order of those about the stream, and they are the same without all the
other messages. -/
theorem streams_independent (t : Tracker σ ε) (hsteady : t.client.IsSteady) (k : StreamKey)
    (flags flags' : σ) (emitter emitter' : ε) (as : List Arrival) :
    (∀ bs, Rearranged t.context.connectionId (as.map Arrival.message) (bs.map Arrival.message) →
      t.viewAfter flags emitter k as = t.viewAfter flags' emitter' k bs) ∧
    t.viewAfter flags emitter k as = t.viewAfter flags' emitter' k
      (as.filter (·.message.addresses t.context.connectionId k)) := by
  have hstart : Tracking.view k (⟨.empty, flags, (emitter, [])⟩ : Tracking σ _) =
      Tracking.view k ⟨.empty, flags', (emitter', [])⟩ := rfl
  simp only [viewAfter_eq]
  rw [view_trackAll_filter hsteady as]
  refine ⟨fun bs hbs => ?_, view_trackAll_congr hsteady rfl hstart⟩
  rw [view_trackAll_filter hsteady bs]
  refine view_trackAll_congr hsteady ?_ hstart
  rw [filter_map_message, filter_map_message, hbs.order k]

/-- Two streams are held back, the one in the middle of what happens to the other. -/
def interleaved (stream other : StreamDescriptor) : List Arrival :=
  (heldBack stream).take 1 ++ ((heldBack other).take 2 ++ (heldBack stream).drop 1) ++
    (heldBack other).drop 2

/-- Streams of the same name in different namespaces are different streams. -/
theorem streams_independent_interleaved :
    let users : StreamDescriptor := ⟨"users", none⟩
    let others : StreamDescriptor := ⟨"users", some "public"⟩
    let k := StreamKey.ofDescriptor unattended.context.connectionId users
    let arrivals := heldBack users ++ heldBack others
    unattended.client.IsSteady ∧
      Rearranged unattended.context.connectionId (arrivals.map Arrival.message)
        ((interleaved users others).map Arrival.message) ∧
      unattended.viewAfter () () k arrivals =
        unattended.viewAfter () () k (interleaved users others) ∧
      unattended.viewAfter () () k arrivals = unattended.viewAfter () () k (heldBack users) ∧
      (unattended.viewAfter () () k arrivals).2 = [(.running, none), (.rateLimited, some ⟨none⟩)] := by
  intro users others k arrivals
  have hsteady : unattended.client.IsSteady := ⟨fun _ _ => .ok true, fun _ _ _ => rfl⟩
  have happart : Message.Apart (((heldBack users).drop 1).map Arrival.message)
      (((heldBack others).take 2).map Arrival.message) := by decide
  have hrearranged := Rearranged.swap unattended.context.connectionId
    (((heldBack users).take 1).map Arrival.message)
    (((heldBack others).drop 2).map Arrival.message) happart
  obtain ⟨horder, halone⟩ := unattended.streams_independent hsteady k () () () () arrivals
  exact ⟨hsteady, hrearranged, horder _ hrearranged, halone, by rw [halone]; decide⟩

end Tracker

end SyncLedger
