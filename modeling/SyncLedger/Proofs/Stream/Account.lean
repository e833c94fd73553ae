import SyncLedger.Proofs.Stream.History

/-!
# What an open status says

As long as a stream is not terminal, its status is a function of what was heard of it. The
messages that move a stream are its records and the reports that it started or runs: the
run state and the details of a rate limit are those of the last of them. The other fields
add up everything since the beginning of the run: the greatest checkpoint, whether there
was a record, and whether the source is done.
-/

namespace SyncLedger

namespace StateId

/-- The identifier is the greatest of the list; there is none only if the list is empty. -/
def IsGreatest (ids : List StateId) : Option StateId → Prop
  | none => ids = []
  | some i => i ∈ ids ∧ ∀ j ∈ ids, j ≤ i

theorem le_antisymm {i j : StateId} (hij : i ≤ j) (hji : j ≤ i) : i = j := by
  have hvalue : i.value = j.value := UInt64.toNat_inj.mp (Nat.le_antisymm hij hji)
  cases i
  cases j
  exact congrArg StateId.mk hvalue

theorem isGreatest_append_singleton {ids : List StateId} {latest : Option StateId}
    (h : IsGreatest ids latest) (i : StateId) :
    IsGreatest (ids ++ [i]) (some (i.atLeast latest)) := by
  cases latest with
  | none =>
      change ids = [] at h
      rw [h]
      exact ⟨List.mem_singleton_self i, fun j hj => by
        rw [List.mem_singleton.mp hj]
        exact Nat.le_refl _⟩
  | some n =>
      obtain ⟨hmem, hle⟩ := h
      rw [atLeast]
      split_ifs with hin
      · refine ⟨List.mem_append_left _ hmem, fun j hj => ?_⟩
        rcases List.mem_append.mp hj with hj | hj
        · exact hle j hj
        · rw [List.mem_singleton.mp hj]
          exact hin
      · refine ⟨List.mem_append_right _ (List.mem_singleton_self i), fun j hj => ?_⟩
        have hni : n ≤ i := Nat.le_of_lt (Nat.lt_of_not_le hin)
        rcases List.mem_append.mp hj with hj | hj
        · exact Nat.le_trans (hle j hj) hni
        · rw [List.mem_singleton.mp hj]
          exact Nat.le_refl _

end StateId

/-- The identifiers of the checkpoints of a stream, the latest one last. -/
def Message.checkpointsOf (connection : Uuid) (k : StreamKey) (ms : List Message) :
    List StateId :=
  ms.filterMap (checkpointOf? connection k)

namespace Heard

/-- The message is a record of the stream, or reports that it started or runs. -/
def moves (connection : Uuid) (k : StreamKey) (h : Heard) : Bool :=
  h.message.isRecordOf connection k || h.message.statusOf? connection k = some .started ||
    h.message.statusOf? connection k = some .running

/-- The last message that moved the stream. -/
def lastMove? (connection : Uuid) (k : StreamKey) (hs : List Heard) : Option Heard :=
  (hs.filter (moves connection k)).getLast?

/-- The run state that the last move of a stream leads to, with the details of a rate limit. -/
def phaseAfter : Option Heard → RunState × Option RateLimitedInfo
  | none => (.pending, none)
  | some h =>
    match h.throttle? with
    | some info => (.rateLimited, some info)
    | none => (.running, none)

variable {connection : Uuid} {k : StreamKey}

theorem lastMove?_append_singleton (hs : List Heard) (h : Heard) :
    lastMove? connection k (hs ++ [h]) =
      if h.moves connection k then some h else lastMove? connection k hs := by
  rw [lastMove?, List.filter_append, List.filter_cons, List.filter_nil]
  split_ifs with hmoves
  · rw [List.getLast?_append]
    rfl
  · rw [List.append_nil, lastMove?]

end Heard

/-- The status of an open stream says what was heard of it. -/
structure Accounts (connection : Uuid) (k : StreamKey) (hs : List Heard) (s : TrackedStatus) :
    Prop where
  phase : (s.runState, s.metadata) = Heard.phaseAfter (Heard.lastMove? connection k hs)
  latest : StateId.IsGreatest (Message.checkpointsOf connection k (hs.map Heard.message))
    s.latestStateId
  isEmpty : s.isEmpty = true ↔ ∀ h ∈ hs, h.message.isRecordOf connection k = false
  sourceComplete : s.sourceComplete = true ↔
    ∃ h ∈ hs, h.message.statusOf? connection k = some .complete

namespace Accounts

variable {connection : Uuid} {k : StreamKey} {hs : List Heard} {s : TrackedStatus}

theorem initial : Accounts connection k [] .initial where
  phase := rfl
  latest := rfl
  isEmpty := by simp [TrackedStatus.initial]
  sourceComplete := by simp [TrackedStatus.initial]

theorem metadata_eq_none (h : Accounts connection k hs s) (hstate : s.runState ≠ .rateLimited) :
    s.metadata = none := by
  have hphase := h.phase
  unfold Heard.phaseAfter at hphase
  split at hphase
  · exact congrArg Prod.snd hphase
  · split at hphase
    · exact absurd (congrArg Prod.fst hphase) hstate
    · exact congrArg Prod.snd hphase

/-- An account goes on with one message more if every field takes up what the message is. -/
theorem append_singleton {s' : TrackedStatus} {h : Heard} (haccount : Accounts connection k hs s)
    (hphase : (s'.runState, s'.metadata) =
      if h.moves connection k then Heard.phaseAfter (some h) else (s.runState, s.metadata))
    (hlatest : s'.latestStateId = (h.message.checkpointOf? connection k).elim s.latestStateId
      fun id => some (id.atLeast s.latestStateId))
    (hempty : s'.isEmpty = (s.isEmpty && !h.message.isRecordOf connection k))
    (hcomplete : s'.sourceComplete =
      (s.sourceComplete || h.message.statusOf? connection k = some .complete)) :
    Accounts connection k (hs ++ [h]) s' where
  phase := by
    rw [hphase, Heard.lastMove?_append_singleton]
    split_ifs
    · rfl
    · exact haccount.phase
  latest := by
    have hids : Message.checkpointsOf connection k ((hs ++ [h]).map Heard.message) =
        Message.checkpointsOf connection k (hs.map Heard.message) ++
          (h.message.checkpointOf? connection k).toList := by
      rw [List.map_append, Message.checkpointsOf, List.filterMap_append]
      rfl
    rw [hids, hlatest]
    cases h.message.checkpointOf? connection k with
    | none =>
        rw [Option.toList_none, List.append_nil]
        exact haccount.latest
    | some id => exact StateId.isGreatest_append_singleton haccount.latest id
  isEmpty := by
    rw [hempty, Bool.and_eq_true, haccount.isEmpty, List.forall_mem_append]
    simp
  sourceComplete := by
    rw [hcomplete, Bool.or_eq_true, haccount.sourceComplete, decide_eq_true_iff]
    simp only [List.mem_append, List.mem_singleton, or_and_right, exists_or, exists_eq_left]

/-- An account goes on with the report that the stream runs, held back or not. -/
theorem apply_runs {h : Heard} (haccount : Accounts connection k hs s)
    (hrecord : h.message.isRecordOf connection k = false)
    (hmoves : h.moves connection k = true)
    (hstatus : h.message.statusOf? connection k ≠ some .complete)
    (hcheckpoint : h.message.checkpointOf? connection k = none) :
    Accounts connection k (hs ++ [h])
      (s.apply ((h.throttle?.map Observation.rateLimited).getD .running)) := by
  have happly : s.apply ((h.throttle?.map Observation.rateLimited).getD .running) =
      { s with
        runState := (Heard.phaseAfter (some h)).1
        metadata := (Heard.phaseAfter (some h)).2 } := by
    rw [Heard.phaseAfter]
    cases h.throttle? with
    | none => rfl
    | some info => rfl
  rw [happly]
  apply haccount.append_singleton
  all_goals simp [hrecord, hmoves, hstatus, hcheckpoint]

/-- An account of an open stream goes on with what a message shows, unless that is terminal. -/
theorem apply {h : Heard} (haccount : Accounts connection k hs s)
    (hopen : ((h.observationOf? connection k).elim s s.apply).runState.isTerminal = false) :
    Accounts connection k (hs ++ [h]) ((h.observationOf? connection k).elim s s.apply) := by
  have hshows := h.shows connection k
  generalize h.observationOf? connection k = o at hshows hopen
  cases hshows with
  | nothing hrecord hstatus hcheckpoint =>
      apply haccount.append_singleton
      all_goals simp [Heard.moves, hrecord, hstatus, hcheckpoint]
  | record hrecord hstatus hcheckpoint hthrottle =>
      have hmetadata : (if s.runState = .rateLimited then none else s.metadata) = none := by
        split_ifs with hstate
        · rfl
        · exact haccount.metadata_eq_none hstate
      apply haccount.append_singleton
      all_goals simp [TrackedStatus.apply, Heard.moves, Heard.phaseAfter, hrecord, hstatus,
        hcheckpoint, hthrottle, hmetadata]
  | report status hrecord hstatus hcheckpoint hthrottle =>
      cases status with
      | started =>
          have hsame : h.reported .started =
              (h.throttle?.map Observation.rateLimited).getD .running := by
            rw [hthrottle (by decide)]
            rfl
          rw [hsame]
          exact haccount.apply_runs hrecord (by simp [Heard.moves, hstatus]) (by simp [hstatus])
            hcheckpoint
      | running =>
          exact haccount.apply_runs hrecord (by simp [Heard.moves, hstatus]) (by simp [hstatus])
            hcheckpoint
      | complete =>
          apply haccount.append_singleton
          all_goals simp [Heard.reported, TrackedStatus.apply, Heard.moves, hrecord, hstatus,
            hcheckpoint]
      -- a stream that its source gave up is not open
      | incomplete => cases hopen
  | checkpoint id hrecord hstatus hcheckpoint =>
      simp only [Option.elim_some, TrackedStatus.apply] at hopen ⊢
      split_ifs at hopen ⊢
      · -- neither is one that the checkpoint completed
        cases hopen
      · apply haccount.append_singleton
        all_goals simp [Heard.moves, hrecord, hstatus, hcheckpoint]

end Accounts

namespace Tracker

variable {σ ε : Type}

/-- A stream has a status as soon as a message is about it. -/
theorem isSome_get?_run (t : Tracker σ ε) (flags : σ) (emitter : ε) (as : List Arrival)
    (k : StreamKey) :
    ((t.after flags emitter as).store.get? k).isSome = true ↔
      ∃ m ∈ as.map Arrival.message, m.addresses t.context.connectionId k = true := by
  rw [← t.map_message_history (as.map Arrival.message) flags]
  refine t.run_invariant flags emitter (P := fun hs s => (s.store.get? k).isSome = true ↔
    ∃ m ∈ hs.map Heard.message, m.addresses t.context.connectionId k = true) (by simp) ?_ as
  intro hs s a ih
  rw [get?_track, List.map_append, List.map_singleton]
  simp only [List.mem_append, List.mem_singleton, or_and_right, exists_or, exists_eq_left]
  rw [← ih, ← Heard.isSome_observationOf?]
  cases (t.hear a.message s.flags).1.observationOf? t.context.connectionId k with
  | none => simp
  | some o => simp

/-- A message carries the account of a stream on as long as the stream is open. -/
theorem accounts_track {t : Tracker σ ε} {k : StreamKey} {hs : List Heard} {s : Tracking σ ε}
    (a : Arrival)
    (h : (s.store.status k).runState.isTerminal = false →
      Accounts t.context.connectionId k hs (s.store.status k))
    (hopen : ((t.track a s).2.store.status k).runState.isTerminal = false) :
    Accounts t.context.connectionId k (hs ++ [(t.hear a.message s.flags).1])
      ((t.track a s).2.store.status k) := by
  have hbefore := open_of_open_track hopen
  rw [status_track_of_open t a hbefore] at hopen ⊢
  exact (h hbefore).apply hopen

theorem accounts_run (t : Tracker σ ε) (flags : σ) (emitter : ε) (as : List Arrival)
    (k : StreamKey) :
    ((t.after flags emitter as).store.status k).runState.isTerminal = false →
      Accounts t.context.connectionId k (t.history (as.map Arrival.message) flags)
        ((t.after flags emitter as).store.status k) := by
  refine t.run_invariant flags emitter
    (P := fun hs s => (s.store.status k).runState.isTerminal = false →
      Accounts t.context.connectionId k hs (s.store.status k)) (fun _ => .initial) ?_ as
  intro hs s a ih hopen
  exact accounts_track a ih hopen

/-- An open stream has a status exactly if some message was about it, and the status says what
was heard of the stream. -/
theorem status_of_open (t : Tracker σ ε) (flags : σ) (emitter : ε) (as : List Arrival)
    (k : StreamKey)
    (hopen : ((t.after flags emitter as).store.status k).runState.isTerminal = false) :
    let store := (t.after flags emitter as).store
    ((store.get? k).isSome = true ↔
        ∃ m ∈ as.map Arrival.message, m.addresses t.context.connectionId k = true) ∧
      Accounts t.context.connectionId k (t.history (as.map Arrival.message) flags)
        (store.status k) :=
  ⟨t.isSome_get?_run flags emitter as k, t.accounts_run flags emitter as k hopen⟩

/-- A tracker with every flag switched on that reports to nobody. -/
def unattended : Tracker Unit Unit := ⟨⟨fun _ _ s => (.ok true, s)⟩, .silent, default⟩

/-- A stream has a record and a checkpoint, and then its source is held back. -/
def heldBack (stream : StreamDescriptor) : List Arrival :=
  [⟨.record ⟨stream.name, stream.space, .null, 0⟩, default⟩,
    ⟨.state ⟨some .stream, some ⟨stream, none⟩, some ⟨3⟩⟩, default⟩,
    ⟨.trace ⟨.streamStatus, default, some ⟨stream, .running, [⟨.rateLimited, some ⟨none⟩⟩]⟩⟩,
      default⟩]

theorem status_of_open_heldBack :
    let store := (unattended.after () () (heldBack ⟨"users", none⟩)).store
    let k := StreamKey.ofDescriptor unattended.context.connectionId ⟨"users", none⟩
    (store.status k).runState.isTerminal = false ∧ (store.get? k).isSome = true ∧
      (store.status k).runState = .rateLimited ∧ (store.status k).isEmpty = false := by
  intro store k
  have hopen : (store.status k).runState.isTerminal = false := by decide
  obtain ⟨hsome, haccount⟩ :=
    status_of_open unattended () () (heldBack ⟨"users", none⟩) k hopen
  refine ⟨hopen, hsome.mpr (by decide), congrArg Prod.fst (haccount.phase.trans rfl), ?_⟩
  rw [← Bool.not_eq_true, haccount.isEmpty]
  decide

end Tracker

end SyncLedger
