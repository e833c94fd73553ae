import SyncLedger.Proofs.Stream.Account

/-!
# How a stream ends

Two kinds of messages end a stream. Its source gives it up, or the destination sends the
greatest checkpoint back when the source is done. Which of them a message is depends on
the messages before it, and the one that comes first decides for good.
-/

namespace SyncLedger

section Order

variable {α : Type}

/-- At a position of a list there is an element that meets a condition, which may depend on
the elements before it. -/
def OccursAt (Q : List α → α → Prop) (l : List α) (i : Nat) : Prop :=
  ∃ a, l[i]? = some a ∧ Q (l.take i) a

/-- Something occurs, and it does so before every occurrence of something else. -/
def ComesFirst (P Q : Nat → Prop) : Prop := ∃ i, P i ∧ ∀ j, Q j → i < j

variable {P Q : List α → α → Prop} {l : List α} {a : α} {i : Nat}

theorem OccursAt.lt_length (h : OccursAt Q l i) : i < l.length := by
  obtain ⟨a, ha, -⟩ := h
  exact (List.getElem?_eq_some_iff.mp ha).1

theorem occursAt_append_singleton :
    OccursAt Q (l ++ [a]) i ↔ OccursAt Q l i ∨ i = l.length ∧ Q l a := by
  unfold OccursAt
  rcases Nat.lt_trichotomy i l.length with hi | rfl | hi
  · rw [List.getElem?_append_left hi, List.take_append_of_le_length (Nat.le_of_lt hi)]
    exact (or_iff_left fun h => Nat.ne_of_lt hi h.1).symm
  · rw [List.getElem?_concat_length, List.take_left]
    simp
  · have hend : (l ++ [a])[i]? = none := by
      rw [List.getElem?_eq_none_iff, List.length_append, List.length_singleton]
      exact hi
    rw [hend, List.getElem?_eq_none_iff.mpr (Nat.le_of_lt hi)]
    simp [Nat.ne_of_gt hi]

theorem ComesFirst.asymm {P Q : Nat → Prop} (h : ComesFirst P Q) : ¬ ComesFirst Q P := by
  rintro ⟨j, hj, hlater⟩
  obtain ⟨i, hi, hfirst⟩ := h
  exact Nat.lt_asymm (hfirst j hj) (hlater i hi)

theorem ComesFirst.append_singleton (h : ComesFirst (OccursAt P l) (OccursAt Q l)) (a : α) :
    ComesFirst (OccursAt P (l ++ [a])) (OccursAt Q (l ++ [a])) := by
  obtain ⟨i, hi, hfirst⟩ := h
  refine ⟨i, occursAt_append_singleton.mpr (.inl hi), fun j hj => ?_⟩
  rcases occursAt_append_singleton.mp hj with hj | ⟨rfl, -⟩
  · exact hfirst j hj
  · exact hi.lt_length

/-- The first occurrence of all comes first if it is not one of the other kind. -/
theorem comesFirst_of_last (hnone : ∀ j, ¬ OccursAt Q l j) (hP : P l a) (hQ : ¬ Q l a) :
    ComesFirst (OccursAt P (l ++ [a])) (OccursAt Q (l ++ [a])) := by
  refine ⟨l.length, occursAt_append_singleton.mpr (.inr ⟨rfl, hP⟩), fun j hj => ?_⟩
  rcases occursAt_append_singleton.mp hj with hj | ⟨-, hj⟩
  · exact absurd hj (hnone j)
  · exact absurd hj hQ

theorem not_occursAt_append_singleton (hnone : ∀ j, ¬ OccursAt Q l j) (hQ : ¬ Q l a) (j : Nat) :
    ¬ OccursAt Q (l ++ [a]) j := by
  rw [occursAt_append_singleton]
  rintro (hj | ⟨-, hj⟩)
  · exact hnone j hj
  · exact hQ hj

end Order

theorem StateId.IsGreatest.unique {ids : List StateId} {a b : Option StateId}
    (ha : IsGreatest ids a) (hb : IsGreatest ids b) : a = b := by
  cases a with
  | none =>
      change ids = [] at ha
      cases b with
      | none => rfl
      | some j =>
          rw [ha] at hb
          cases hb.1
  | some i =>
      cases b with
      | none =>
          change ids = [] at hb
          rw [hb] at ha
          cases ha.1
      | some j => rw [le_antisymm (hb.2 i ha.1) (ha.2 j hb.1)]

namespace Message

variable (connection : Uuid) (k : StreamKey)

/-- After the messages before it, the message is the greatest checkpoint of the stream once
more, and the source is done. -/
def Completes (before : List Message) (m : Message) : Prop :=
  (∃ b ∈ before, b.statusOf? connection k = some .complete) ∧
    ∃ id, m.checkpointOf? connection k = some id ∧
      StateId.IsGreatest (checkpointsOf connection k before) (some id)

/-- The source gives the stream up. -/
def GivesUp (_before : List Message) (m : Message) : Prop :=
  m.statusOf? connection k = some .incomplete

end Message

/-- The run state of a stream is that of the message that ended the stream, if one did. -/
inductive Decided (connection : Uuid) (k : StreamKey) (ms : List Message) (state : RunState) :
    Prop where
  | undecided (hstate : state.isTerminal = false)
      (hcompletes : ∀ i, ¬ OccursAt (Message.Completes connection k) ms i)
      (hgivesUp : ∀ i, ¬ OccursAt (Message.GivesUp connection k) ms i)
  | complete (hstate : state = .complete)
      (hfirst : ComesFirst (OccursAt (Message.Completes connection k) ms)
        (OccursAt (Message.GivesUp connection k) ms))
  | incomplete (hstate : state = .incomplete)
      (hfirst : ComesFirst (OccursAt (Message.GivesUp connection k) ms)
        (OccursAt (Message.Completes connection k) ms))

section Step

variable {connection : Uuid} {k : StreamKey} {hs : List Heard} {s : TrackedStatus}

theorem Accounts.isDestComplete_iff (haccount : Accounts connection k hs s) {m : Message}
    {id : StateId} (hcheckpoint : m.checkpointOf? connection k = some id) :
    s.isDestComplete id = true ↔ m.Completes connection k (hs.map Heard.message) := by
  have hdone : s.sourceComplete = true ↔
      ∃ b ∈ hs.map Heard.message, b.statusOf? connection k = some .complete := by
    rw [haccount.sourceComplete]
    simp
  have hlatest : s.latestStateId = some id ↔ ∃ i, m.checkpointOf? connection k = some i ∧
      StateId.IsGreatest (Message.checkpointsOf connection k (hs.map Heard.message)) (some i) := by
    constructor
    · intro h
      exact ⟨id, hcheckpoint, h ▸ haccount.latest⟩
    · rintro ⟨i, hi, hgreatest⟩
      rw [hcheckpoint] at hi
      rw [haccount.latest.unique hgreatest, hi]
  rw [TrackedStatus.isDestComplete, Bool.and_eq_true, decide_eq_true_iff, hdone, hlatest,
    Message.Completes]

/-- A message ends an open stream exactly if it is of one of the two kinds. -/
theorem decided_apply (haccount : Accounts connection k hs s)
    (hopen : s.runState.isTerminal = false) (h : Heard)
    (hcompletes : ∀ i, ¬ OccursAt (Message.Completes connection k) (hs.map Heard.message) i)
    (hgivesUp : ∀ i, ¬ OccursAt (Message.GivesUp connection k) (hs.map Heard.message) i) :
    Decided connection k (hs.map Heard.message ++ [h.message])
      ((h.observationOf? connection k).elim s s.apply).runState := by
  have hgoesOn : ∀ {state : RunState}, state.isTerminal = false →
      ¬ h.message.Completes connection k (hs.map Heard.message) →
      ¬ h.message.GivesUp connection k (hs.map Heard.message) →
      Decided connection k (hs.map Heard.message ++ [h.message]) state :=
    fun hstate hnot hnot' => .undecided hstate (not_occursAt_append_singleton hcompletes hnot)
      (not_occursAt_append_singleton hgivesUp hnot')
  have hnoCheckpoint : h.message.checkpointOf? connection k = none →
      ¬ h.message.Completes connection k (hs.map Heard.message) := by
    rintro hnone ⟨-, id, hid, -⟩
    rw [hnone] at hid
    cases hid
  have hnoStatus : h.message.statusOf? connection k = none →
      ¬ h.message.GivesUp connection k (hs.map Heard.message) := by
    intro hnone hgives
    rw [Message.GivesUp, hnone] at hgives
    cases hgives
  have hshows := h.shows connection k
  generalize h.observationOf? connection k = o at hshows
  cases hshows with
  | nothing hrecord hstatus hcheckpoint =>
      exact hgoesOn hopen (hnoCheckpoint hcheckpoint) (hnoStatus hstatus)
  | record hrecord hstatus hcheckpoint hthrottle =>
      exact hgoesOn rfl (hnoCheckpoint hcheckpoint) (hnoStatus hstatus)
  | report status hrecord hstatus hcheckpoint hthrottle =>
      have hnot := hnoCheckpoint hcheckpoint
      cases status with
      | incomplete => exact .incomplete rfl (comesFirst_of_last hcompletes hstatus hnot)
      | started => exact hgoesOn rfl hnot (by simp [Message.GivesUp, hstatus])
      | complete => exact hgoesOn hopen hnot (by simp [Message.GivesUp, hstatus])
      | running =>
          refine hgoesOn ?_ hnot (by simp [Message.GivesUp, hstatus])
          rw [Heard.reported]
          cases h.throttle? with
          | none => rfl
          | some info => rfl
  | checkpoint id hrecord hstatus hcheckpoint =>
      by_cases hdone : s.isDestComplete id = true
      · refine .complete ?_ ?_
        · simp [TrackedStatus.apply, hdone]
        · exact comesFirst_of_last hgivesUp ((haccount.isDestComplete_iff hcheckpoint).mp hdone)
            (hnoStatus hstatus)
      · refine hgoesOn ?_ ?_ (hnoStatus hstatus)
        · simpa [TrackedStatus.apply, hdone] using hopen
        · rwa [← haccount.isDestComplete_iff hcheckpoint]

end Step

namespace Tracker

variable {σ ε : Type}

theorem decided_run (t : Tracker σ ε) (flags : σ) (emitter : ε) (as : List Arrival)
    (k : StreamKey) :
    Decided t.context.connectionId k (as.map Arrival.message)
      ((t.after flags emitter as).store.status k).runState := by
  have hrun := t.run_invariant flags emitter (P := fun hs s =>
    Decided t.context.connectionId k (hs.map Heard.message) (s.store.status k).runState ∧
      ((s.store.status k).runState.isTerminal = false →
        Accounts t.context.connectionId k hs (s.store.status k)))
    ⟨.undecided rfl (by simp [OccursAt]) (by simp [OccursAt]), fun _ => .initial⟩ ?_ as
  · rw [map_message_history] at hrun
    exact hrun.1
  rintro hs s a ⟨hdecided, haccount⟩
  refine ⟨?_, accounts_track a haccount⟩
  rw [List.map_append, List.map_singleton]
  cases hdecided with
  | undecided hstate hcompletes hgivesUp =>
      rw [status_track_of_open t a hstate]
      exact decided_apply (haccount hstate) hstate _ hcompletes hgivesUp
  | complete hstate hfirst =>
      rw [status_track_of_isTerminal t a (by rw [hstate]; rfl)]
      exact .complete hstate (hfirst.append_singleton _)
  | incomplete hstate hfirst =>
      rw [status_track_of_isTerminal t a (by rw [hstate]; rfl)]
      exact .incomplete hstate (hfirst.append_singleton _)

/-- A stream is complete exactly if some checkpoint completed it before its source gave it
up, and incomplete exactly if its source gave it up before any checkpoint completed it. -/
theorem terminal_iff_comesFirst (t : Tracker σ ε) (flags : σ) (emitter : ε) (as : List Arrival)
    (k : StreamKey) :
    let state := ((t.after flags emitter as).store.status k).runState
    let completes := OccursAt (Message.Completes t.context.connectionId k) (as.map Arrival.message)
    let givesUp := OccursAt (Message.GivesUp t.context.connectionId k) (as.map Arrival.message)
    (state = .complete ↔ ComesFirst completes givesUp) ∧
      (state = .incomplete ↔ ComesFirst givesUp completes) ∧
      (state.isTerminal = true ↔ ComesFirst completes givesUp ∨ ComesFirst givesUp completes) := by
  intro state completes givesUp
  have hstates : (state = .complete ↔ ComesFirst completes givesUp) ∧
      (state = .incomplete ↔ ComesFirst givesUp completes) := by
    cases t.decided_run flags emitter as k with
    | undecided hstate hcompletes hgivesUp =>
        have hnot : ¬ (state = .incomplete ∨ state = .complete) := by
          rw [← RunState.isTerminal_iff, Bool.not_eq_true]
          exact hstate
        obtain ⟨hincomplete, hcomplete⟩ := not_or.mp hnot
        refine ⟨iff_of_false hcomplete ?_, iff_of_false hincomplete ?_⟩
        · rintro ⟨i, hi, -⟩
          exact hcompletes i hi
        · rintro ⟨i, hi, -⟩
          exact hgivesUp i hi
    | complete hstate hfirst =>
        refine ⟨iff_of_true hstate hfirst, iff_of_false ?_ hfirst.asymm⟩
        rw [show state = .complete from hstate]
        decide
    | incomplete hstate hfirst =>
        refine ⟨iff_of_false ?_ hfirst.asymm, iff_of_true hstate hfirst⟩
        rw [show state = .incomplete from hstate]
        decide
  refine ⟨hstates.1, hstates.2, ?_⟩
  rw [RunState.isTerminal_iff, hstates.1, hstates.2, or_comm]

end Tracker

end SyncLedger
