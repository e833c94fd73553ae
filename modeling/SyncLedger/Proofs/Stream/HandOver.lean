import Mathlib.Data.List.Induction
import SyncLedger.Proofs.Stream.Durable
import SyncLedger.Stream.HandOver

/-!
# Handing over changes nothing

A tracker that sends its updates through a channel does in the end what the same tracker does
when it tells the emitter at the other end directly. Whatever the order of the turns, the
direct tracker is ahead of the consumer by the updates that are pending: this is `Ahead`, which
every turn keeps. As a reconciler is an emitter, and an emitter never fails, a failed request is
no reason for the consumer to stop: it always comes to the end of the channel.
-/

namespace SyncLedger

namespace HandOver

variable {σ ε : Type} {client : FlagClient σ} {context : RunContext} {e : Emitter ε}

/-- What a turn does, and when it can be taken. -/
inductive Took (client : FlagClient σ) (context : RunContext) (e : Emitter ε)
    (s : HandOver σ ε) : Turn → HandOver σ ε → Prop where
  | track (a : Arrival) (hsenders : s.senders ≠ 0) :
      Took client context e s (.track a)
        { s with tracking := (Tracker.track ⟨client, .channel, context⟩ a s.tracking).2 }
  | clone (hsenders : s.senders ≠ 0) :
      Took client context e s .clone { s with senders := s.senders + 1 }
  | drop (hsenders : s.senders ≠ 0) :
      Took client context e s .drop { s with senders := s.senders - 1 }
  | receive (u : StreamStatusUpdate) (us : List StreamStatusUpdate)
      (hconsumer : s.consumer = .waiting) (hqueue : s.tracking.emitter.queue = u :: us) :
      Took client context e s .receive { s with
        tracking.emitter := { s.tracking.emitter with queue := us }, consumer := .holding u }
  | deliver (u : StreamStatusUpdate) (hconsumer : s.consumer = .holding u) :
      Took client context e s .deliver
        { s with consumer := .waiting, receiver := (e.emit u s.receiver).2 }
  | finish (hconsumer : s.consumer = .waiting) (hqueue : s.tracking.emitter.queue = [])
      (hsenders : s.senders = 0) :
      Took client context e s .finish
        { s with tracking.emitter := .closed, consumer := .returned }

theorem turn?_eq_some_iff {s s' : HandOver σ ε} {turn : Turn} :
    turn? client context e s turn = some s' ↔ Took client context e s turn s' := by
  constructor
  · intro h
    cases turn with
    | track a =>
        rw [turn?] at h
        split_ifs at h with hsenders
        obtain rfl := Option.some.inj h
        exact .track a hsenders
    | clone =>
        rw [turn?] at h
        split_ifs at h with hsenders
        obtain rfl := Option.some.inj h
        exact .clone hsenders
    | drop =>
        rw [turn?] at h
        split_ifs at h with hsenders
        obtain rfl := Option.some.inj h
        exact .drop hsenders
    | receive =>
        rw [turn?] at h
        split at h
        · rename_i u us hconsumer hqueue
          obtain rfl := Option.some.inj h
          exact .receive u us hconsumer hqueue
        · cases h
    | deliver =>
        rw [turn?] at h
        split at h
        · rename_i u hconsumer
          obtain rfl := Option.some.inj h
          exact .deliver u hconsumer
        · cases h
    | finish =>
        rw [turn?] at h
        split at h
        · rename_i hconsumer hqueue
          split_ifs at h with hsenders
          obtain rfl := Option.some.inj h
          exact .finish hconsumer hqueue hsenders
        · cases h
  · rintro (⟨a, hsenders⟩ | hsenders | hsenders | ⟨u, us, hconsumer, hqueue⟩ | ⟨u, hconsumer⟩ |
      ⟨hconsumer, hqueue, hsenders⟩)
    · rw [turn?, if_neg hsenders]
    · rw [turn?, if_neg hsenders]
    · rw [turn?, if_neg hsenders]
    · simp only [turn?, hconsumer, hqueue]
    · simp only [turn?, hconsumer]
    · simp only [turn?, hconsumer, hqueue, hsenders, if_true]

/-- The direct tracker is ahead of the consumer by the pending updates. -/
structure Ahead (e : Emitter ε) (s : HandOver σ ε) (d : Tracking σ ε) : Prop where
  store : s.tracking.store = d.store
  flags : s.tracking.flags = d.flags
  emitter : d.emitter = (e.emitAll s.pending s.receiver).2
  isOpen : s.consumer ≠ .returned → s.tracking.emitter.isOpen = true
  returned : s.consumer = .returned → s.pending = [] ∧ s.senders = 0

theorem ahead_start (e : Emitter ε) (flags : σ) (receiver : ε) :
    Ahead e (start flags receiver) ⟨.empty, flags, receiver⟩ where
  store := rfl
  flags := rfl
  emitter := rfl
  isOpen _ := rfl
  returned h := by cases h

/-- An open channel takes everything in. -/
theorem emitAll_channel (us : List StreamStatusUpdate) {c : UpdateChannel}
    (hopen : c.isOpen = true) :
    (Emitter.channel.emitAll us c).2 = { c with queue := c.queue ++ us } := by
  induction us generalizing c with
  | nil => simp [Emitter.emitAll]
  | cons u us ih =>
      have hemit : (Emitter.channel.emit u c).2 = { c with queue := c.queue ++ [u] } := by
        simp [Emitter.channel, hopen]
      rw [Emitter.emitAll, hemit]
      simpa using ih (c := { c with queue := c.queue ++ [u] }) hopen

section Turn

variable {s s' : HandOver σ ε} {d : Tracking σ ε}

theorem Ahead.track (h : Ahead e s d) (a : Arrival) (hsenders : s.senders ≠ 0) :
    Ahead e
      { s with tracking := (Tracker.track ⟨client, .channel, context⟩ a s.tracking).2 }
      (Tracker.track ⟨client, e, context⟩ a d).2 := by
  have hlives : s.consumer ≠ .returned := fun hreturned => hsenders (h.returned hreturned).2
  have hchannel := Tracker.emitter_track ⟨client, .channel, context⟩ a s.tracking
  rw [emitAll_channel _ (h.isOpen hlives)] at hchannel
  refine ⟨?_, ?_, ?_, fun _ => ?_, fun hreturned => absurd hreturned hlives⟩
  · rw [Tracker.store_track, Tracker.store_track, h.store, h.flags]
    rfl
  · rw [Tracker.flags_track, Tracker.flags_track, h.flags]
    rfl
  · -- the same updates come after what is pending, here and there
    rw [Tracker.emitter_track, h.emitter, ← h.store, ← h.flags, ← Emitter.emitAll_append, pending,
      pending, hchannel, List.append_assoc]
    rfl
  · rw [hchannel]
    exact h.isOpen hlives

theorem Ahead.turn (h : Ahead e s d) {turn : Turn} (hturn : Took client context e s turn s') :
    Ahead e s' (Tracker.trackAll ⟨client, e, context⟩ turn.arrival?.toList d).2 := by
  cases hturn with
  | track a hsenders => exact h.track a hsenders
  | clone hsenders =>
      exact ⟨h.store, h.flags, h.emitter, h.isOpen,
        fun hreturned => absurd (h.returned hreturned).2 hsenders⟩
  | drop hsenders =>
      exact ⟨h.store, h.flags, h.emitter, h.isOpen,
        fun hreturned => absurd (h.returned hreturned).2 hsenders⟩
  | receive u us hconsumer hqueue =>
      refine ⟨h.store, h.flags, ?_, fun _ => h.isOpen (by simp [hconsumer]), nofun⟩
      refine h.emitter.trans ?_
      rw [pending, hconsumer, hqueue]
      rfl
  | deliver u hconsumer =>
      refine ⟨h.store, h.flags, ?_, fun _ => h.isOpen (by simp [hconsumer]), nofun⟩
      refine h.emitter.trans ?_
      rw [pending, hconsumer]
      rfl
  | finish hconsumer hqueue hsenders =>
      refine ⟨h.store, h.flags, ?_, fun hlives => absurd rfl hlives, fun _ => ⟨rfl, hsenders⟩⟩
      refine h.emitter.trans ?_
      rw [pending, hconsumer, hqueue]
      rfl

theorem Ahead.run {turns : List Turn} (h : Ahead e s d)
    (hrun : run? client context e turns s = some s') :
    Ahead e s' (Tracker.trackAll ⟨client, e, context⟩ (arrivals turns) d).2 := by
  induction turns generalizing s d with
  | nil =>
      obtain rfl := Option.some.inj hrun
      exact h
  | cons turn turns ih =>
      obtain ⟨next, hturn, hrest⟩ := Option.bind_eq_some_iff.mp hrun
      have hnext := ih (h.turn (turn?_eq_some_iff.mp hturn)) hrest
      have harrivals : arrivals (turn :: turns) = turn.arrival?.toList ++ arrivals turns := by
        cases turn <;> rfl
      rwa [harrivals, Tracker.trackAll_append]

end Turn

/-! ## The end of the channel -/

section Remaining

variable {s s' : HandOver σ ε} {d : Tracking σ ε}

theorem Ahead.remaining_eq_zero_iff (h : Ahead e s d) :
    s.remaining = 0 ↔ s.consumer = .returned := by
  constructor
  · intro hzero
    cases hconsumer : s.consumer with
    | returned => rfl
    | waiting => simp [remaining, hconsumer] at hzero
    | holding u => simp [remaining, hconsumer] at hzero
  · intro hreturned
    have hpending := (h.returned hreturned).1
    rw [pending, List.append_eq_nil_iff] at hpending
    simp only [remaining, hreturned, hpending.2, List.length_nil]

/-- When nobody may send any more, every turn is one of the consumer. -/
theorem Took.remaining {turn : Turn} (h : Took client context e s turn s')
    (hsenders : s.senders = 0) : s'.senders = 0 ∧ s'.remaining + 1 = s.remaining := by
  cases h with
  | track a hsome => exact absurd hsenders hsome
  | clone hsome => exact absurd hsenders hsome
  | drop hsome => exact absurd hsenders hsome
  | receive u us hconsumer hqueue =>
      refine ⟨hsenders, ?_⟩
      simp only [HandOver.remaining, hconsumer, hqueue, List.length_cons]
      omega
  | deliver u hconsumer =>
      refine ⟨hsenders, ?_⟩
      simp only [HandOver.remaining, hconsumer]
  | finish hconsumer hqueue _ =>
      refine ⟨hsenders, ?_⟩
      simp only [HandOver.remaining, hconsumer, hqueue]
      rfl

theorem run_remaining {turns : List Turn} (hsenders : s.senders = 0)
    (hrun : run? client context e turns s = some s') :
    s'.remaining + turns.length = s.remaining := by
  induction turns generalizing s with
  | nil =>
      obtain rfl := Option.some.inj hrun
      rfl
  | cons turn turns ih =>
      obtain ⟨next, hturn, hrest⟩ := Option.bind_eq_some_iff.mp hrun
      obtain ⟨hnone, hnext⟩ := (turn?_eq_some_iff.mp hturn).remaining hsenders
      have hlength := ih hnone hrest
      rw [List.length_cons]
      omega

/-- The turns that are up to the consumer. -/
def consuming : List Turn := [.receive, .deliver, .finish]

/-- The consumer waits for nobody but those who may still send. -/
theorem exists_consuming (hlives : s.consumer ≠ .returned)
    (hnews : s.senders = 0 ∨ s.pending ≠ []) :
    ∃ turn ∈ consuming, (turn? client context e s turn).isSome = true := by
  cases hconsumer : s.consumer with
  | returned => exact absurd hconsumer hlives
  | holding u =>
      refine ⟨.deliver, by simp [consuming], ?_⟩
      rw [turn?_eq_some_iff.mpr (.deliver u hconsumer)]
      rfl
  | waiting =>
      cases hqueue : s.tracking.emitter.queue with
      | cons u us =>
          refine ⟨.receive, by simp [consuming], ?_⟩
          rw [turn?_eq_some_iff.mpr (.receive u us hconsumer hqueue)]
          rfl
      | nil =>
          have hsenders : s.senders = 0 := by
            refine hnews.resolve_right fun hpending => hpending ?_
            rw [pending, hconsumer, hqueue]
            rfl
          refine ⟨.finish, by simp [consuming], ?_⟩
          rw [turn?_eq_some_iff.mpr (.finish hconsumer hqueue hsenders)]
          rfl

end Remaining

/-- A tracker that hands its updates over is one that tells the reconciler directly, with the same
store at any time. When the consumer is done, the same requests were made, with the same replies,
and the same replies are remembered. The consumer stops at the end of the channel and nowhere
else: while there is something to deal with it can go on, and when nobody may send any more it is
done after as many turns as remain. -/
theorem reconciles_as_direct {α : Type} (client : FlagClient σ) (context : RunContext)
    (api : StatusApi α) (flags : σ) (service : α) (turns : List Turn)
    (s : HandOver σ (Reconciling (α × List (StatusCall × StatusReply))))
    (hrun : run? client context (Reconciler.emitter api.logged) turns
      (start flags ⟨.empty, (service, [])⟩) = some s) :
    let e := Reconciler.emitter api.logged
    let t : Tracker σ _ := ⟨client, e, context⟩
    let direct := t.after flags ⟨.empty, (service, [])⟩ (arrivals turns)
    s.tracking.store = direct.store ∧
      (e.emitAll s.pending s.receiver).2 = direct.emitter ∧
      (s.consumer = .returned → s.senders = 0 ∧ s.receiver = direct.emitter ∧
        s.receiver.service.2 = (Reconciler.exchangesFrom api service
          (t.updates flags ⟨.empty, (service, [])⟩ (arrivals turns))).flatMap Exchange.calls) ∧
      (s.consumer ≠ .returned → s.senders = 0 ∨ s.pending ≠ [] →
        ∃ turn ∈ consuming, (turn? client context e s turn).isSome = true) ∧
      (s.senders = 0 → ∀ rest s', run? client context e rest s = some s' →
        rest.length ≤ s.remaining ∧ (rest.length = s.remaining ↔ s'.consumer = .returned)) := by
  intro e t direct
  have hahead : Ahead e s direct := (ahead_start e flags ⟨.empty, (service, [])⟩).run hrun
  refine ⟨hahead.store, hahead.emitter.symm, fun hreturned => ?_, exists_consuming,
    fun hsenders rest s' hrest => ?_⟩
  · obtain ⟨hpending, hsenders⟩ := hahead.returned hreturned
    have hreceiver : direct.emitter = s.receiver := by
      rw [hahead.emitter, hpending]
      rfl
    refine ⟨hsenders, hreceiver.symm, ?_⟩
    rw [← hreceiver, t.emitter_after]
    exact (Reconciler.accounted api service _).log
  · have hlength := run_remaining hsenders hrest
    rw [← (hahead.run hrest).remaining_eq_zero_iff]
    omega

/-- The tracker is ahead of the consumer at first, and gone before the consumer is done. -/
def interleaved : List Turn :=
  let messages := (Tracker.heldBack ⟨"users", none⟩).map Turn.track
  messages.take 1 ++ [.clone, .receive] ++ (messages.drop 1).take 1 ++ [.deliver, .drop] ++
    messages.drop 2 ++ [.drop, .receive, .deliver, .finish]

/-- The first request fails while the tracker goes on, and the next one is made all the same. -/
theorem reconciles_as_direct_interleaved :
    let e := Reconciler.emitter StatusScript.api.logged
    let receiver : Reconciling (StatusScript × List (StatusCall × StatusReply)) :=
      ⟨.empty, (⟨[.fail "unavailable"], 0⟩, [])⟩
    let t : Tracker Unit _ := ⟨Tracker.unattended.client, e, default⟩
    ∃ s, run? t.client default e interleaved (start () receiver) = some s ∧
      s.receiver = (t.after () receiver (Tracker.heldBack ⟨"users", none⟩)).emitter ∧
      s.receiver.service.2.map (fun c => Exchange.recordOf? c.2) =
        [none, some ⟨.ofNat 1, .rateLimited⟩] := by
  intro e receiver t
  have hsome : (run? t.client default e interleaved (start () receiver)).isSome = true := by
    decide
  obtain ⟨s, hrun⟩ := Option.isSome_iff_exists.mp hsome
  have hconsumer : s.consumer = .returned := by
    have hreturned : (run? t.client default e interleaved (start () receiver)).map consumer =
        some .returned := by decide
    rw [hrun] at hreturned
    exact Option.some.inj hreturned
  obtain ⟨-, -, hdone, -⟩ := reconciles_as_direct t.client default StatusScript.api () _ interleaved
    s hrun
  obtain ⟨-, hreceiver, -⟩ := hdone hconsumer
  refine ⟨s, hrun, hreceiver, ?_⟩
  rw [hreceiver]
  decide

end HandOver

end SyncLedger
