import Mathlib.Data.List.Induction
import SyncLedger.Stream.Tracker

/-!
# What a run has heard

The statuses of a run are explained by the messages that were tracked and by the answers
of the flag client. `Tracker.history` lists both. For one stream a message is a record, the
report of a status, a checkpoint, or nothing at all, and `Heard.shows` says which
observation each of them is. `Tracker.run_invariant` is the induction that all facts about
runs go through: it hands over one message more, with what was heard so far.
-/

namespace SyncLedger

namespace Message

/-- The report in a trace of a stream status. -/
def report? : Message → Option StreamStatusTrace
  | .trace t => if t.type = .streamStatus then t.streamStatus else none
  | _ => none

/-- The stream and the identifier of a checkpoint of a single stream. -/
def checkpoint? : Message → Option (StreamDescriptor × StateId)
  | .state s =>
    match s.type, s.stream, s.id with
    | some .stream, some stream, some id => some (stream.descriptor, id)
    | _, _, _ => none
  | _ => none

/-- The details of a rate limit that come with the report of a running stream. -/
def limit? (m : Message) : Option RateLimitedReason :=
  m.report?.bind fun r => if r.status = .running then r.rateLimited else none

section Key

variable (connection : Uuid) (k : StreamKey)

/-- The message is a record of the stream. -/
def isRecordOf : Message → Bool
  | .record r => StreamKey.ofDescriptor connection r.descriptor = k
  | _ => false

/-- The status that the message reports for the stream. -/
def statusOf? (m : Message) : Option StreamStatus :=
  m.report?.bind fun r =>
    if StreamKey.ofDescriptor connection r.descriptor = k then some r.status else none

/-- The identifier that the message carries as a checkpoint of the stream. -/
def checkpointOf? (m : Message) : Option StateId :=
  m.checkpoint?.bind fun p =>
    if StreamKey.ofDescriptor connection p.1 = k then some p.2 else none

/-- The message is about the stream. -/
def addresses (m : Message) : Bool :=
  m.isRecordOf connection k || (m.statusOf? connection k).isSome ||
    (m.checkpointOf? connection k).isSome

end Key

theorem reading_of_report? {m : Message} {r : StreamStatusTrace} (hreport : m.report? = some r) :
    m.reading = r.reading := by
  cases m with
  | trace t =>
      rw [report?] at hreport
      split at hreport
      · rename_i htype
        simp only [reading, htype, hreport]
      · cases hreport
  | record r | state s | other => cases hreport

theorem exists_report?_of_throttled {m : Message} {stream : StreamDescriptor}
    {info : RateLimitedInfo} (hreading : m.reading = .throttled stream info) :
    ∃ r, m.report? = some r := by
  cases m with
  | trace t =>
      rw [reading] at hreading
      split at hreading
      · rename_i htype
        split at hreading
        · rename_i r hreport
          exact ⟨r, by rw [report?, if_pos htype, hreport]⟩
        · cases hreading
      · cases hreading
  | state s =>
      rw [reading] at hreading
      split at hreading
      · split at hreading
        · cases hreading
        · cases hreading
      · cases hreading
  | record r | other => cases hreading

/-- The reports that depend on a flag are those that carry the details of a rate limit. -/
theorem reading_eq_throttled_iff {m : Message} {info : RateLimitedInfo} :
    (∃ stream, m.reading = .throttled stream info) ↔
      ∃ reason, m.limit? = some reason ∧ info = .ofReason reason := by
  constructor
  · rintro ⟨stream, hreading⟩
    obtain ⟨r, hreport⟩ := exists_report?_of_throttled hreading
    rw [reading_of_report? hreport, StreamStatusTrace.reading] at hreading
    split at hreading
    · cases hreading
    · rename_i hstatus
      split at hreading
      · rename_i reason hlimit
        cases hreading
        refine ⟨reason, ?_, rfl⟩
        rw [limit?, hreport, Option.bind_some, if_pos hstatus, hlimit]
      · cases hreading
    · cases hreading
    · cases hreading
  · rintro ⟨reason, hlimit, rfl⟩
    obtain ⟨r, hreport, hlimit⟩ := Option.bind_eq_some_iff.mp hlimit
    split_ifs at hlimit with hstatus
    refine ⟨r.descriptor, ?_⟩
    rw [reading_of_report? hreport, StreamStatusTrace.reading]
    simp only [hstatus, hlimit]

end Message

/-- A message that was tracked, and what the flag client answered if it was asked because
of it. -/
structure Heard where
  message : Message
  answer : Option (Except FlagEvaluationError Bool)

namespace Heard

/-- The details of a rate limit that is processed: the flag was evaluated, and it is on. -/
def throttle? (h : Heard) : Option RateLimitedInfo :=
  match h.answer with
  | some (.ok true) => h.message.limit?.map .ofReason
  | _ => none

/-- The stream and the observation that a message stands for. -/
def observation? (h : Heard) : Option (StreamDescriptor × Observation) :=
  match h.message.reading with
  | .ignored _ => none
  | .observed stream o => some (stream, o)
  | .throttled stream _ =>
    some (stream, (h.throttle?.map Observation.rateLimited).getD .running)

/-- What a message shows about one stream. -/
def observationOf? (connection : Uuid) (k : StreamKey) (h : Heard) : Option Observation :=
  h.observation?.bind fun p =>
    if StreamKey.ofDescriptor connection p.1 = k then some p.2 else none

/-- The observation that a reported status stands for. -/
def reported (h : Heard) : StreamStatus → Observation
  | .started => .running
  | .running => (h.throttle?.map Observation.rateLimited).getD .running
  | .complete => .sourceComplete
  | .incomplete => .incomplete

/-- The observation of a stream, by what the message is for that stream. -/
inductive Shows (connection : Uuid) (k : StreamKey) (h : Heard) : Option Observation → Prop where
  | nothing (hrecord : h.message.isRecordOf connection k = false)
      (hstatus : h.message.statusOf? connection k = none)
      (hcheckpoint : h.message.checkpointOf? connection k = none) : Shows connection k h none
  | record (hrecord : h.message.isRecordOf connection k = true)
      (hstatus : h.message.statusOf? connection k = none)
      (hcheckpoint : h.message.checkpointOf? connection k = none)
      (hthrottle : h.throttle? = none) : Shows connection k h (some .record)
  | report (s : StreamStatus) (hrecord : h.message.isRecordOf connection k = false)
      (hstatus : h.message.statusOf? connection k = some s)
      (hcheckpoint : h.message.checkpointOf? connection k = none)
      (hthrottle : s ≠ .running → h.throttle? = none) :
      Shows connection k h (some (h.reported s))
  | checkpoint (id : StateId) (hrecord : h.message.isRecordOf connection k = false)
      (hstatus : h.message.statusOf? connection k = none)
      (hcheckpoint : h.message.checkpointOf? connection k = some id) :
      Shows connection k h (some (.checkpoint id))

theorem throttle?_of_limit?_eq_none {h : Heard} (hlimit : h.message.limit? = none) :
    h.throttle? = none := by
  unfold throttle?
  split
  · rw [hlimit, Option.map_none]
  · rfl

theorem throttle?_eq_none_of_status {h : Heard} {r : StreamStatusTrace}
    (hreport : h.message.report? = some r) (hstatus : r.status ≠ .running) :
    h.throttle? = none := by
  apply throttle?_of_limit?_eq_none
  rw [Message.limit?, hreport, Option.bind_some, if_neg hstatus]

theorem observation?_of_report? {h : Heard} {r : StreamStatusTrace}
    (hreport : h.message.report? = some r) :
    h.observation? = some (r.descriptor, h.reported r.status) := by
  rw [observation?, Message.reading_of_report? hreport, StreamStatusTrace.reading]
  cases hstatus : r.status with
  | running =>
      cases hlimit : r.rateLimited with
      | some reason => rfl
      | none =>
          have hthrottle : h.throttle? = none := by
            apply throttle?_of_limit?_eq_none
            rw [Message.limit?, hreport, Option.bind_some, if_pos hstatus, hlimit]
          simp only [reported, hthrottle, Option.map_none, Option.getD_none]
  | started | complete | incomplete => rfl

theorem observation?_of_checkpoint? {h : Heard} {p : StreamDescriptor × StateId}
    (hcheckpoint : h.message.checkpoint? = some p) :
    h.observation? = some (p.1, .checkpoint p.2) := by
  cases hm : h.message with
  | state s =>
      rw [hm, Message.checkpoint?] at hcheckpoint
      split at hcheckpoint
      · rename_i htype hstream hid
        obtain rfl := Option.some.inj hcheckpoint
        simp only [observation?, hm, Message.reading, htype, hstream, hid]
      · cases hcheckpoint
  | record r | trace t | other => rw [hm] at hcheckpoint; cases hcheckpoint

theorem observation?_eq_none {h : Heard} (hrecord : ∀ r, h.message ≠ .record r)
    (hreport : h.message.report? = none) (hcheckpoint : h.message.checkpoint? = none) :
    h.observation? = none := by
  cases hm : h.message with
  | record r => exact absurd hm (hrecord r)
  | state s =>
      rw [hm, Message.checkpoint?] at hcheckpoint
      rw [observation?, hm]
      cases htype : s.type with
      | none => simp only [Message.reading, htype]
      | some type =>
          cases type with
          | stream =>
              cases hstream : s.stream with
              | none => simp only [Message.reading, htype, hstream]
              | some stream =>
                  cases hid : s.id with
                  | none => simp only [Message.reading, htype, hstream, hid]
                  | some id => simp [htype, hstream, hid] at hcheckpoint
          | global | legacy => simp only [Message.reading, htype]
  | trace t =>
      rw [hm, Message.report?] at hreport
      rw [observation?, hm]
      cases htype : t.type with
      | streamStatus =>
          rw [if_pos htype] at hreport
          simp only [Message.reading, htype, hreport]
      | error | estimate | analytics | other => simp only [Message.reading, htype]
  | other => rw [observation?, hm, Message.reading]

theorem observationOf?_of_some {connection : Uuid} {k : StreamKey} {h : Heard}
    {stream : StreamDescriptor} {o : Observation} (hobs : h.observation? = some (stream, o)) :
    h.observationOf? connection k =
      if StreamKey.ofDescriptor connection stream = k then some o else none := by
  rw [observationOf?, hobs, Option.bind_some]

section Shows

variable {connection : Uuid} {k : StreamKey} {h : Heard}

theorem shows_of_record {r : RecordMessage} (hm : h.message = .record r) :
    h.Shows connection k (h.observationOf? connection k) := by
  have hobs : h.observation? = some (r.descriptor, .record) := by
    rw [observation?, hm, Message.reading]
  have hstatus : h.message.statusOf? connection k = none := by rw [hm]; rfl
  have hcheckpoint : h.message.checkpointOf? connection k = none := by rw [hm]; rfl
  have hthrottle : h.throttle? = none := throttle?_of_limit?_eq_none (by rw [hm]; rfl)
  rw [observationOf?_of_some hobs]
  split_ifs with hkey
  · exact .record (by simp [hm, Message.isRecordOf, hkey]) hstatus hcheckpoint hthrottle
  · exact .nothing (by simp [hm, Message.isRecordOf, hkey]) hstatus hcheckpoint

theorem shows_of_trace {t : TraceMessage} (hm : h.message = .trace t) :
    h.Shows connection k (h.observationOf? connection k) := by
  have hrecord : h.message.isRecordOf connection k = false := by rw [hm]; rfl
  have hcheckpoint : h.message.checkpointOf? connection k = none := by rw [hm]; rfl
  cases hreport : h.message.report? with
  | none =>
      have hobs := observation?_eq_none (by simp [hm]) hreport (by rw [hm]; rfl)
      rw [observationOf?, hobs]
      exact .nothing hrecord (by rw [Message.statusOf?, hreport]; rfl) hcheckpoint
  | some r =>
      have hstatus : h.message.statusOf? connection k =
          if StreamKey.ofDescriptor connection r.descriptor = k then some r.status
          else none := by
        rw [Message.statusOf?, hreport, Option.bind_some]
      rw [observationOf?_of_some (observation?_of_report? hreport)]
      split_ifs at hstatus ⊢
      · exact .report r.status hrecord hstatus hcheckpoint (throttle?_eq_none_of_status hreport)
      · exact .nothing hrecord hstatus hcheckpoint

theorem shows_of_state {s : StateMessage} (hm : h.message = .state s) :
    h.Shows connection k (h.observationOf? connection k) := by
  have hrecord : h.message.isRecordOf connection k = false := by rw [hm]; rfl
  have hstatus : h.message.statusOf? connection k = none := by rw [hm]; rfl
  cases hpair : h.message.checkpoint? with
  | none =>
      have hobs := observation?_eq_none (by simp [hm]) (by rw [hm]; rfl) hpair
      rw [observationOf?, hobs]
      exact .nothing hrecord hstatus (by rw [Message.checkpointOf?, hpair]; rfl)
  | some p =>
      have hcheckpoint : h.message.checkpointOf? connection k =
          if StreamKey.ofDescriptor connection p.1 = k then some p.2 else none := by
        rw [Message.checkpointOf?, hpair, Option.bind_some]
      rw [observationOf?_of_some (observation?_of_checkpoint? hpair)]
      split_ifs at hcheckpoint ⊢
      · exact .checkpoint p.2 hrecord hstatus hcheckpoint
      · exact .nothing hrecord hstatus hcheckpoint

theorem shows_of_other (hm : h.message = .other) :
    h.Shows connection k (h.observationOf? connection k) := by
  have hobs : h.observationOf? connection k = none := by
    rw [observationOf?, observation?, hm]
    rfl
  rw [hobs]
  refine .nothing ?_ ?_ ?_
  all_goals
    rw [hm]
    rfl

end Shows

theorem shows (connection : Uuid) (k : StreamKey) (h : Heard) :
    h.Shows connection k (h.observationOf? connection k) := by
  cases hm : h.message with
  | record r => exact shows_of_record hm
  | trace t => exact shows_of_trace hm
  | state s => exact shows_of_state hm
  | other => exact shows_of_other hm

theorem isSome_observationOf? (connection : Uuid) (k : StreamKey) (h : Heard) :
    (h.observationOf? connection k).isSome = h.message.addresses connection k := by
  have hshows := h.shows connection k
  generalize h.observationOf? connection k = o at hshows
  cases hshows with
  | nothing hrecord hstatus hcheckpoint =>
      simp [Message.addresses, hrecord, hstatus, hcheckpoint]
  | record hrecord => simp [Message.addresses, hrecord]
  | report s hrecord hstatus => simp [Message.addresses, hstatus]
  | checkpoint id hrecord hstatus hcheckpoint => simp [Message.addresses, hcheckpoint]

end Heard

namespace Message

/-- The stream that a message is about. -/
def stream? (m : Message) : Option StreamDescriptor :=
  (Heard.mk m none).observation?.map Prod.fst

theorem addresses_iff {connection : Uuid} {k : StreamKey} {m : Message} :
    m.addresses connection k = true ↔
      ∃ stream, m.stream? = some stream ∧ StreamKey.ofDescriptor connection stream = k := by
  rw [← Heard.isSome_observationOf? connection k ⟨m, none⟩, Heard.observationOf?, stream?]
  cases (Heard.mk m none).observation? with
  | none => simp
  | some p => simp

end Message

namespace Tracker

variable {σ ε : Type}

/-- A message as it is heard. The flag client is asked only because of a running stream that
is held back. -/
def hear (t : Tracker σ ε) (m : Message) (flags : σ) : Heard × σ :=
  match m.limit? with
  | none => (⟨m, none⟩, flags)
  | some _ =>
    let result := t.client.evaluate .processRateLimitedMessages t.context.flagContext flags
    (⟨m, some result.1⟩, result.2)

/-- Everything that is heard of the messages of a run. -/
def history (t : Tracker σ ε) : List Message → σ → List Heard
  | [], _ => []
  | m :: ms, flags => (t.hear m flags).1 :: t.history ms (t.hear m flags).2

theorem hear_message (t : Tracker σ ε) (m : Message) (flags : σ) :
    (t.hear m flags).1.message = m := by
  unfold hear
  split
  · rfl
  · rfl

theorem map_message_history (t : Tracker σ ε) (ms : List Message) (flags : σ) :
    (t.history ms flags).map Heard.message = ms := by
  induction ms generalizing flags with
  | nil => rfl
  | cons m ms ih => rw [history, List.map_cons, hear_message, ih]

/-- Settling what a message shows asks the flag client exactly as `hear` does. -/
theorem settle_reading (t : Tracker σ ε) (m : Message) (flags : σ) :
    (t.settle m.reading flags).1 = (t.hear m flags).1.observation? ∧
      (t.settle m.reading flags).2.2 = (t.hear m flags).2 := by
  cases hlimit : m.limit? with
  | none =>
      have hopen : ∀ stream info, m.reading ≠ .throttled stream info := by
        intro stream info hreading
        obtain ⟨reason, hsome, -⟩ := Message.reading_eq_throttled_iff.mp ⟨stream, hreading⟩
        rw [hlimit] at hsome
        cases hsome
      cases hreading : m.reading with
      | throttled stream info => exact absurd hreading (hopen stream info)
      | ignored event => simp [settle, hear, hlimit, Heard.observation?, hreading]
      | observed stream o => simp [settle, hear, hlimit, Heard.observation?, hreading]
  | some reason =>
      obtain ⟨stream, hreading⟩ := Message.reading_eq_throttled_iff.mpr ⟨reason, hlimit, rfl⟩
      simp only [settle, hear, hlimit, FlagClient.evaluateOrDefault, Heard.observation?, hreading,
        Heard.throttle?, and_true]
      -- a failed evaluation counts as the default of the flag, which is off
      cases (t.client.evaluate .processRateLimitedMessages t.context.flagContext flags).1 with
      | error e => rfl
      | ok value =>
          cases value with
          | false => rfl
          | true => rfl

/-- Everything that taking a message does. -/
theorem track_eq (t : Tracker σ ε) (a : Arrival) (s : Tracking σ ε) :
    (t.track a s).2 =
      match (t.hear a.message s.flags).1.observation? with
      | none => { s with flags := (t.hear a.message s.flags).2 }
      | some (stream, o) =>
        let key := StreamKey.ofDescriptor t.context.connectionId stream
        ⟨s.store.update key o, (t.hear a.message s.flags).2,
          (t.announce a.instant (s.store.change key o) s.emitter).2⟩ := by
  obtain ⟨hobs, hflags⟩ := t.settle_reading a.message s.flags
  rw [track, ← hobs, ← hflags]
  cases (t.settle a.message.reading s.flags).1 with
  | none => rfl
  | some p => rfl

theorem flags_track (t : Tracker σ ε) (a : Arrival) (s : Tracking σ ε) :
    (t.track a s).2.flags = (t.hear a.message s.flags).2 := by
  rw [track_eq]
  split
  · rfl
  · rfl

theorem store_track (t : Tracker σ ε) (a : Arrival) (s : Tracking σ ε) :
    (t.track a s).2.store = (t.hear a.message s.flags).1.observation?.elim s.store
      fun p => s.store.update (.ofDescriptor t.context.connectionId p.1) p.2 := by
  rw [track_eq]
  cases (t.hear a.message s.flags).1.observation? with
  | none => rfl
  | some p => rfl

/-- A message changes the streams that it is about, each by what it shows of it. -/
theorem get?_track (t : Tracker σ ε) (a : Arrival) (s : Tracking σ ε) (k : StreamKey) :
    (t.track a s).2.store.get? k =
      match (t.hear a.message s.flags).1.observationOf? t.context.connectionId k with
      | none => s.store.get? k
      | some o => some ((s.store.status k).observe o) := by
  rw [store_track, Heard.observationOf?]
  cases (t.hear a.message s.flags).1.observation? with
  | none => rfl
  | some p =>
      rw [Option.elim_some, Option.bind_some, StatusStore.get?_update]
      by_cases hkey : StreamKey.ofDescriptor t.context.connectionId p.1 = k
      · rw [if_pos hkey, if_pos hkey.symm, hkey]
      · rw [if_neg hkey, if_neg (Ne.symm hkey)]

theorem status_track (t : Tracker σ ε) (a : Arrival) (s : Tracking σ ε) (k : StreamKey) :
    (t.track a s).2.store.status k =
      ((t.hear a.message s.flags).1.observationOf? t.context.connectionId k).elim
        (s.store.status k) (s.store.status k).observe := by
  rw [StatusStore.status, get?_track]
  split
  · rename_i hobs
    rw [hobs]
    rfl
  · rename_i hobs
    rw [hobs]
    rfl

/-- A message does nothing to the status of a terminal stream. -/
theorem status_track_of_isTerminal (t : Tracker σ ε) (a : Arrival) {s : Tracking σ ε}
    {k : StreamKey} (h : (s.store.status k).runState.isTerminal = true) :
    (t.track a s).2.store.status k = s.store.status k := by
  rw [status_track]
  cases (t.hear a.message s.flags).1.observationOf? t.context.connectionId k with
  | none => rfl
  | some o => exact TrackedStatus.observe_of_isTerminal h o

theorem status_track_of_open (t : Tracker σ ε) (a : Arrival) {s : Tracking σ ε}
    {k : StreamKey} (h : (s.store.status k).runState.isTerminal = false) :
    (t.track a s).2.store.status k =
      ((t.hear a.message s.flags).1.observationOf? t.context.connectionId k).elim
        (s.store.status k) (s.store.status k).apply := by
  rw [status_track]
  cases (t.hear a.message s.flags).1.observationOf? t.context.connectionId k with
  | none => rfl
  | some o => exact TrackedStatus.observe_of_not_isTerminal h o

/-- A stream that is open after a message was open before it. -/
theorem open_of_open_track {t : Tracker σ ε} {a : Arrival} {s : Tracking σ ε} {k : StreamKey}
    (h : ((t.track a s).2.store.status k).runState.isTerminal = false) :
    (s.store.status k).runState.isTerminal = false := by
  by_contra hterminal
  rw [status_track_of_isTerminal t a (Bool.of_not_eq_false hterminal)] at h
  exact hterminal h

/-- What is kept after a run that begins with nothing. -/
def after (t : Tracker σ ε) (flags : σ) (emitter : ε) (as : List Arrival) : Tracking σ ε :=
  (t.trackAll as ⟨.empty, flags, emitter⟩).2

theorem trackAll_append (t : Tracker σ ε) (as bs : List Arrival) (s : Tracking σ ε) :
    (t.trackAll (as ++ bs) s).2 = (t.trackAll bs (t.trackAll as s).2).2 := by
  induction as generalizing s with
  | nil => rfl
  | cons a as ih =>
      rw [List.cons_append, trackAll, trackAll]
      exact ih (t.track a s).2

theorem after_append_singleton (t : Tracker σ ε) (flags : σ) (emitter : ε) (as : List Arrival)
    (a : Arrival) :
    t.after flags emitter (as ++ [a]) = (t.track a (t.after flags emitter as)).2 := by
  rw [after, trackAll_append]
  rfl

/-- What holds before a run and is kept by every message holds after the run. -/
theorem run_invariant (t : Tracker σ ε) (flags : σ) (emitter : ε)
    {P : List Heard → Tracking σ ε → Prop} (start : P [] ⟨.empty, flags, emitter⟩)
    (step : ∀ hs s a, P hs s → P (hs ++ [(t.hear a.message s.flags).1]) (t.track a s).2)
    (as : List Arrival) :
    P (t.history (as.map Arrival.message) flags) (t.after flags emitter as) := by
  have hrun : ∀ hs s, P hs s →
      P (hs ++ t.history (as.map Arrival.message) s.flags) (t.trackAll as s).2 := by
    induction as with
    | nil =>
        intro hs s h
        rwa [List.map_nil, history, List.append_nil]
    | cons a as ih =>
        intro hs s h
        have hnext := ih _ _ (step hs s a h)
        rwa [flags_track, List.append_assoc, List.singleton_append] at hnext
  exact hrun [] _ start

end Tracker

end SyncLedger
