import SyncLedger.Proofs.Stream.Account
import SyncLedger.Proofs.Stream.Announcement

/-!
# How long the details of a rate limit stay

While a stream is open it has the details of a rate limit exactly when it is held back. The
two ways into a terminal state leave the details as they are, so a stream that ends while
it is held back keeps them for good, and the update about its end carries them. There is
no other way in which details outlive the rate limit.
-/

namespace SyncLedger

/-- The details of a rate limit are there exactly if the stream is held back. -/
def TrackedStatus.IsCurrent (s : TrackedStatus) : Prop :=
  s.metadata.isSome = true ↔ s.runState = .rateLimited

/-- The update carries the details of a rate limit exactly if the stream is held back. -/
def StreamStatusUpdate.IsCurrent (u : StreamStatusUpdate) : Prop :=
  u.metadata.isSome = true ↔ u.runState = .rateLimited

instance (s : TrackedStatus) : Decidable s.IsCurrent :=
  inferInstanceAs (Decidable (s.metadata.isSome = true ↔ s.runState = .rateLimited))

instance (u : StreamStatusUpdate) : Decidable u.IsCurrent :=
  inferInstanceAs (Decidable (u.metadata.isSome = true ↔ u.runState = .rateLimited))

/-- An observation ends a stream that is held back. -/
def TrackedStatus.EndsHeldBack (before after : TrackedStatus) : Prop :=
  before.runState = .rateLimited ∧ after.runState.isTerminal = true

namespace TrackedStatus

variable {s : TrackedStatus}

theorem IsCurrent.metadata_eq_none (h : s.IsCurrent) (hstate : s.runState ≠ .rateLimited) :
    s.metadata = none := by
  rw [← Option.not_isSome_iff_eq_none]
  exact fun hsome => hstate (h.mp hsome)

theorem open_of_rateLimited (h : s.runState = .rateLimited) : s.runState.isTerminal = false := by
  rw [h]
  rfl

theorem IsCurrent.observed_iff_of_eq {s' : TrackedStatus} (h : s.IsCurrent)
    (hopen : s.runState.isTerminal = false) (hstate : s'.runState = s.runState)
    (hmetadata : s'.metadata = s.metadata) : s'.IsCurrent ↔ ¬ s.EndsHeldBack s' := by
  refine iff_of_true ?_ ?_
  · rwa [IsCurrent, hstate, hmetadata]
  · rintro ⟨-, hterminal⟩
    rw [hstate, hopen] at hterminal
    cases hterminal

theorem IsCurrent.ended_iff {s' : TrackedStatus} (h : s.IsCurrent)
    (hterminal : s'.runState.isTerminal = true) (hmetadata : s'.metadata = s.metadata) :
    s'.IsCurrent ↔ ¬ s.EndsHeldBack s' := by
  have hnot : s'.runState ≠ .rateLimited := by
    intro hstate
    rw [open_of_rateLimited hstate] at hterminal
    cases hterminal
  rw [IsCurrent, hmetadata, iff_false_right hnot, EndsHeldBack, and_iff_left hterminal]
  exact not_congr h

/-- The details of an open stream stay right unless the observation ends the stream while it is
held back. -/
theorem IsCurrent.apply_iff (h : s.IsCurrent) (hopen : s.runState.isTerminal = false)
    (o : Observation) : (s.apply o).IsCurrent ↔ ¬ s.EndsHeldBack (s.apply o) := by
  cases o with
  | running | rateLimited info => simp [apply, IsCurrent, EndsHeldBack, RunState.isTerminal]
  | record =>
      have hnone : (s.apply .record).metadata = none := by
        rw [apply]
        split_ifs with hstate
        · rfl
        · exact h.metadata_eq_none hstate
      rw [IsCurrent, hnone]
      simp [apply, EndsHeldBack, RunState.isTerminal]
  | sourceComplete => exact h.observed_iff_of_eq hopen rfl rfl
  | incomplete => exact h.ended_iff rfl rfl
  | checkpoint id =>
      rw [apply]
      split_ifs
      · exact h.ended_iff rfl rfl
      · exact h.observed_iff_of_eq hopen rfl rfl

theorem metadata_apply_of_isTerminal {o : Observation}
    (hterminal : (s.apply o).runState.isTerminal = true) : (s.apply o).metadata = s.metadata := by
  cases o with
  | running | rateLimited info | record => cases hterminal
  | sourceComplete | incomplete => rfl
  | checkpoint id =>
      rw [apply]
      split_ifs
      · rfl
      · rfl

end TrackedStatus

namespace Tracker

variable {σ ε : Type} (t : Tracker σ ε) (flags : σ) (emitter : ε) (k : StreamKey)

/-- The status of a stream after a run that begins with nothing. -/
def statusAfter (as : List Arrival) : TrackedStatus := (t.after flags emitter as).store.status k

/-- Some message of a run ends the stream while it is held back. -/
def EndsHeldBack (as : List Arrival) : Prop :=
  ∃ bs a, bs ++ [a] <+: as ∧
    (t.statusAfter flags emitter k bs).EndsHeldBack (t.statusAfter flags emitter k (bs ++ [a]))

variable {t flags emitter k} {as : List Arrival} {a : Arrival}

theorem statusAfter_append_singleton_of_isTerminal
    (h : (t.statusAfter flags emitter k as).runState.isTerminal = true) :
    t.statusAfter flags emitter k (as ++ [a]) = t.statusAfter flags emitter k as := by
  rw [statusAfter, after_append_singleton]
  exact status_track_of_isTerminal t a h

theorem statusAfter_append_singleton_of_open
    (h : (t.statusAfter flags emitter k as).runState.isTerminal = false) :
    t.statusAfter flags emitter k (as ++ [a]) = t.statusAfter flags emitter k as ∨
      ∃ o, t.statusAfter flags emitter k (as ++ [a]) =
        (t.statusAfter flags emitter k as).apply o := by
  rw [statusAfter, after_append_singleton, status_track_of_open t a h]
  cases ((t.hear a.message (t.after flags emitter as).flags).1.observationOf?
      t.context.connectionId k) with
  | none => exact .inl rfl
  | some o => exact .inr ⟨o, rfl⟩

theorem endsHeldBack_append_singleton :
    t.EndsHeldBack flags emitter k (as ++ [a]) ↔ t.EndsHeldBack flags emitter k as ∨
      (t.statusAfter flags emitter k as).EndsHeldBack
        (t.statusAfter flags emitter k (as ++ [a])) := by
  constructor
  · rintro ⟨bs, b, hbegin, hends⟩
    rcases List.prefix_concat_iff.mp hbegin with heq | hbegin
    · obtain ⟨rfl, hb⟩ := List.append_inj' heq rfl
      obtain rfl := List.head_eq_of_cons_eq hb
      exact .inr hends
    · exact .inl ⟨bs, b, hbegin, hends⟩
  · rintro (⟨bs, b, hbegin, hends⟩ | hends)
    · exact ⟨bs, b, hbegin.trans (List.prefix_append as [a]), hends⟩
    · exact ⟨as, a, List.prefix_rfl, hends⟩

theorem statusAfter_eq_of_ended {bs : List Arrival}
    (h : (t.statusAfter flags emitter k bs).runState.isTerminal = true) (hbegin : bs <+: as) :
    t.statusAfter flags emitter k as = t.statusAfter flags emitter k bs := by
  obtain ⟨cs, rfl⟩ := hbegin
  induction cs using List.reverseRecOn with
  | nil => rw [List.append_nil]
  | append_singleton cs c ih =>
      rw [← List.append_assoc, statusAfter_append_singleton_of_isTerminal, ih]
      rwa [ih]

theorem not_endsHeldBack_of_open
    (h : (t.statusAfter flags emitter k as).runState.isTerminal = false) :
    ¬ t.EndsHeldBack flags emitter k as := by
  rintro ⟨bs, b, hbegin, -, hterminal⟩
  rw [statusAfter_eq_of_ended hterminal hbegin, hterminal] at h
  cases h

/-- A message leaves the details of an open stream right unless it ends the stream while it is
held back. -/
theorem isCurrent_append_singleton_iff
    (hopen : (t.statusAfter flags emitter k as).runState.isTerminal = false)
    (h : (t.statusAfter flags emitter k as).IsCurrent) :
    (t.statusAfter flags emitter k (as ++ [a])).IsCurrent ↔
      ¬ (t.statusAfter flags emitter k as).EndsHeldBack
        (t.statusAfter flags emitter k (as ++ [a])) := by
  rcases statusAfter_append_singleton_of_open (a := a) hopen with heq | ⟨o, heq⟩
  · exact h.observed_iff_of_eq hopen (by rw [heq]) (by rw [heq])
  · rw [heq]
    exact h.apply_iff hopen o

theorem isCurrent_statusAfter_iff (t : Tracker σ ε) (flags : σ) (emitter : ε) (k : StreamKey)
    (as : List Arrival) :
    (t.statusAfter flags emitter k as).IsCurrent ↔ ¬ t.EndsHeldBack flags emitter k as := by
  induction as using List.reverseRecOn with
  | nil =>
      refine iff_of_true ?_ (not_endsHeldBack_of_open rfl)
      exact iff_of_false Bool.false_ne_true (by rintro ⟨⟩)
  | append_singleton as a ih =>
      rw [endsHeldBack_append_singleton, not_or]
      cases hstate : (t.statusAfter flags emitter k as).runState.isTerminal with
      | true =>
          have hnot : ¬ (t.statusAfter flags emitter k as).EndsHeldBack
              (t.statusAfter flags emitter k (as ++ [a])) := by
            rintro ⟨hlimited, -⟩
            rw [TrackedStatus.open_of_rateLimited hlimited] at hstate
            cases hstate
          rw [statusAfter_append_singleton_of_isTerminal hstate, ih] at *
          rw [and_iff_left hnot]
      | false =>
          have hbefore := not_endsHeldBack_of_open hstate
          rw [isCurrent_append_singleton_iff hstate (ih.mpr hbefore), and_iff_right hbefore]

/-- The details of a stream that a message ended are those from before. -/
theorem metadata_append_singleton
    (hopen : (t.statusAfter flags emitter k as).runState.isTerminal = false)
    (hterminal : (t.statusAfter flags emitter k (as ++ [a])).runState.isTerminal = true) :
    (t.statusAfter flags emitter k (as ++ [a])).metadata =
      (t.statusAfter flags emitter k as).metadata := by
  rcases statusAfter_append_singleton_of_open (a := a) hopen with heq | ⟨o, heq⟩
  · rw [heq]
  · rw [heq] at hterminal ⊢
    exact TrackedStatus.metadata_apply_of_isTerminal hterminal

/-- An update is as right about the details as the status that it tells of. -/
theorem isCurrent_news_iff {news : List StreamStatusUpdate} {u : StreamStatusUpdate}
    (hnews : Announces t.context (t.after flags emitter as).store
      (t.after flags emitter (as ++ [a])).store news) (hu : u ∈ updatesOf k news) :
    u.IsCurrent ↔ (t.statusAfter flags emitter k (as ++ [a])).IsCurrent := by
  obtain ⟨hmem, hkey⟩ := List.mem_filter.mp hu
  obtain rfl := of_decide_eq_true hkey
  obtain ⟨-, -, s, hget, hstate, hmetadata⟩ := hnews.faithful u hmem
  rw [statusAfter, StatusStore.status_of_get? hget, StreamStatusUpdate.IsCurrent, hstate,
    hmetadata]
  rfl

theorem isCurrent_updates_iff (t : Tracker σ ε) (flags : σ) (emitter : ε) (k : StreamKey)
    (as : List Arrival) :
    (∀ u ∈ updatesOf k (t.updates flags emitter as), u.IsCurrent) ↔
      (t.statusAfter flags emitter k as).IsCurrent := by
  induction as using List.reverseRecOn with
  | nil =>
      refine iff_of_true (fun u hu => nomatch hu) ?_
      exact (isCurrent_statusAfter_iff t flags emitter k []).mpr (not_endsHeldBack_of_open rfl)
  | append_singleton as a ih =>
      have hopenCurrent : ∀ {bs}, (t.statusAfter flags emitter k bs).runState.isTerminal = false →
          (t.statusAfter flags emitter k bs).IsCurrent := fun hopen =>
        (isCurrent_statusAfter_iff t flags emitter k _).mpr (not_endsHeldBack_of_open hopen)
      have hnews := t.announces_track a (t.after flags emitter as)
      rw [← after_append_singleton] at hnews
      rw [updates_append_singleton, updatesOf_append, List.forall_mem_append, ih]
      rcases hnews.updatesOf_cases k with ⟨hnone, hstate⟩ | ⟨u, hone, -, hmoved, -⟩
      · rw [hnone, and_iff_left (List.forall_mem_nil _)]
        cases hterminal : (t.statusAfter flags emitter k as).runState.isTerminal with
        | true => rw [statusAfter_append_singleton_of_isTerminal hterminal]
        | false =>
            refine iff_of_true (hopenCurrent hterminal) (hopenCurrent ?_)
            rw [statusAfter, hstate]
            exact hterminal
      · have hopen : (t.statusAfter flags emitter k as).runState.isTerminal = false := by
          by_contra hterminal
          apply hmoved
          exact congrArg TrackedStatus.runState
            (statusAfter_append_singleton_of_isTerminal (Bool.of_not_eq_false hterminal)).symm
        have hu := isCurrent_news_iff hnews (hone ▸ List.mem_singleton_self u)
        rw [hone, List.forall_mem_singleton, hu, and_iff_right (hopenCurrent hopen)]

/-- The details of a rate limit are wrong in the store, and in some update, exactly if some
message ended the stream while it was held back; then they stay as they were. -/
theorem isCurrent_iff_not_endsHeldBack (t : Tracker σ ε) (flags : σ) (emitter : ε)
    (k : StreamKey) (as : List Arrival) :
    ((t.statusAfter flags emitter k as).IsCurrent ↔ ¬ t.EndsHeldBack flags emitter k as) ∧
      ((∀ u ∈ updatesOf k (t.updates flags emitter as), u.IsCurrent) ↔
        ¬ t.EndsHeldBack flags emitter k as) ∧
      ∀ bs a, bs ++ [a] <+: as →
        (t.statusAfter flags emitter k bs).EndsHeldBack
          (t.statusAfter flags emitter k (bs ++ [a])) →
        (t.statusAfter flags emitter k as).metadata =
          (t.statusAfter flags emitter k bs).metadata := by
  have hstatus := isCurrent_statusAfter_iff t flags emitter k as
  refine ⟨hstatus, (isCurrent_updates_iff t flags emitter k as).trans hstatus, ?_⟩
  rintro bs a hbegin ⟨hlimited, hterminal⟩
  rw [statusAfter_eq_of_ended hterminal hbegin,
    metadata_append_singleton (TrackedStatus.open_of_rateLimited hlimited) hterminal]

/-- The source gives up a stream that it holds back. -/
def givenUp (stream : StreamDescriptor) : List Arrival :=
  heldBack stream ++
    [⟨.trace ⟨.streamStatus, default, some ⟨stream, .incomplete, []⟩⟩, default⟩]

theorem isCurrent_iff_not_endsHeldBack_givenUp :
    let stream : StreamDescriptor := ⟨"users", none⟩
    let k := StreamKey.ofDescriptor unattended.context.connectionId stream
    unattended.EndsHeldBack () () k (givenUp stream) ∧
      ¬ (unattended.statusAfter () () k (givenUp stream)).IsCurrent ∧
      (unattended.statusAfter () () k (givenUp stream)).metadata = some ⟨none⟩ := by
  intro stream k
  obtain ⟨hstatus, -, hkept⟩ :=
    isCurrent_iff_not_endsHeldBack unattended () () k (givenUp stream)
  have hends : (unattended.statusAfter () () k (heldBack stream)).EndsHeldBack
      (unattended.statusAfter () () k (givenUp stream)) := ⟨by decide, by decide⟩
  have hrun : unattended.EndsHeldBack () () k (givenUp stream) :=
    ⟨heldBack stream, _, List.prefix_rfl, hends⟩
  refine ⟨hrun, mt hstatus.mp (not_not.mpr hrun), ?_⟩
  rw [hkept _ _ List.prefix_rfl hends]
  decide

/-- A stream that was given up while it was held back keeps the details of its rate limit, and
the update about its end carries them. -/
theorem stale_after_givenUp :
    let stream : StreamDescriptor := ⟨"users", none⟩
    let k := StreamKey.ofDescriptor unattended.context.connectionId stream
    (∃ s, (unattended.after () () (givenUp stream)).store.get? k = some s ∧
        s.runState = .incomplete ∧ s.metadata = some ⟨none⟩) ∧
      ∃ u ∈ unattended.updates () () (givenUp stream),
        u.key = k ∧ u.runState = .incomplete ∧ u.metadata = some ⟨none⟩ := by
  decide

end Tracker

end SyncLedger
