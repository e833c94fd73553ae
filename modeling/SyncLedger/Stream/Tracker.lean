import SyncLedger.Flag.Client
import SyncLedger.Message
import SyncLedger.Stream.Store
import SyncLedger.Stream.Update

/-!
# Tracking the messages of a run

The tracker takes the messages of a run one at a time, in the order in which they flow.
`Message.reading` says what a message shows about which stream. A running stream that
gives details of a rate limit is the one case that depends on a flag: the observation is
settled by `Reading.settle`. Every message that moves a stream to another run state
causes exactly one update.
-/

namespace SyncLedger

/-- What a message shows. -/
inductive Reading where
  /-- Nothing about a stream; the event says why. -/
  | ignored (event : LogEvent)
  /-- Something about a stream. -/
  | observed (stream : StreamDescriptor) (observation : Observation)
  /-- A stream runs, and its source says that it is held back. -/
  | throttled (stream : StreamDescriptor) (info : RateLimitedInfo)

/-- What the report of a status shows. -/
def StreamStatusTrace.reading (t : StreamStatusTrace) : Reading :=
  match t.status with
  | .started => .observed t.descriptor .running
  | .running =>
    match t.rateLimited with
    | some reason => .throttled t.descriptor (.ofReason reason)
    | none => .observed t.descriptor .running
  | .complete => .observed t.descriptor .sourceComplete
  | .incomplete => .observed t.descriptor .incomplete

namespace Message

/-- The note about a message that shows nothing. -/
def unrelated (m : Message) : LogEvent where
  level := .debug
  message := "message carries no stream status, ignoring"
  fields := [("kind", m.kind)]

/-- The note about a status report without a status. -/
def withoutPayload : LogEvent :=
  ⟨.debug, "stream status trace without payload, ignoring", []⟩

/-- The note about a checkpoint that names no stream or has no identifier. -/
def withoutCheckpoint : LogEvent :=
  ⟨.debug, "stream state without descriptor or checkpoint id, ignoring", []⟩

/-- What a message shows. Traces of other kinds and checkpoints of another scope show
nothing, whatever they carry. -/
def reading (m : Message) : Reading :=
  match m with
  | .record r => .observed r.descriptor .record
  | .state s =>
    match s.type with
    | some .stream =>
      match s.stream, s.id with
      | some stream, some id => .observed stream.descriptor (.checkpoint id)
      | _, _ => .ignored withoutCheckpoint
    | _ => .ignored m.unrelated
  | .trace t =>
    match t.type with
    | .streamStatus =>
      match t.streamStatus with
      | some status => status.reading
      | none => .ignored withoutPayload
    | _ => .ignored m.unrelated
  | .other => .ignored m.unrelated

end Message

/-- A message and the instant at which it is tracked. -/
structure Arrival where
  message : Message
  instant : DateTime

/-- What a tracker keeps: the statuses, and the states of its flag client and of its
emitter. -/
structure Tracking (σ ε : Type) where
  store : StatusStore
  flags : σ
  emitter : ε

/-- What a tracker works with. -/
structure Tracker (σ ε : Type) where
  client : FlagClient σ
  emitter : Emitter ε
  context : RunContext

namespace Tracker

variable {σ ε : Type}

/-- The observation of a stream that is held back: it counts as running unless the flag
says otherwise. -/
def throttledObservation (processed : Bool) (info : RateLimitedInfo) : Observation :=
  if processed then .rateLimited info else .running

/-- The stream and the observation that a reading stands for, if any. Only a stream that
is held back needs the flag. -/
def settle (t : Tracker σ ε) (r : Reading) (flags : σ) :
    Option (StreamDescriptor × Observation) × List LogEvent × σ :=
  match r with
  | .ignored event => (none, [event], flags)
  | .observed stream o => (some (stream, o), [], flags)
  | .throttled stream info =>
    let result :=
      t.client.evaluateOrDefault .processRateLimitedMessages t.context.flagContext flags
    (some (stream, throttledObservation result.1 info), result.2.1, result.2.2)

/-- The update about a change, if the stream moved to another run state. -/
def updateOf? (context : RunContext) (instant : DateTime) (c : StatusChange) :
    Option StreamStatusUpdate :=
  if c.isTransition then
    some ⟨c.key, c.current.runState, c.current.metadata, context, instant⟩
  else none

/-- The note about a stream that moved. -/
def moved (c : StatusChange) : LogEvent where
  level := .debug
  message := "stream status changed"
  fields :=
    [("stream", c.key.text), ("from", c.previous.name), ("to", c.current.runState.name)]

/-- Tells the emitter about a change. -/
def announce (t : Tracker σ ε) (instant : DateTime) (c : StatusChange) (s : ε) :
    List LogEvent × ε :=
  match updateOf? t.context instant c with
  | none => ([], s)
  | some u =>
    let result := t.emitter.emit u s
    (moved c :: result.1, result.2)

/-- Takes one message. -/
def track (t : Tracker σ ε) (a : Arrival) (s : Tracking σ ε) : List LogEvent × Tracking σ ε :=
  let settled := t.settle a.message.reading s.flags
  match settled.1 with
  | none => (settled.2.1, { s with flags := settled.2.2 })
  | some (stream, o) =>
    let key := StreamKey.ofDescriptor t.context.connectionId stream
    let told := t.announce a.instant (s.store.change key o) s.emitter
    (settled.2.1 ++ s.store.report key ++ told.1,
      ⟨s.store.update key o, settled.2.2, told.2⟩)

/-- Takes one message after another. -/
def trackAll (t : Tracker σ ε) : List Arrival → Tracking σ ε → List LogEvent × Tracking σ ε
  | [], s => ([], s)
  | a :: as, s =>
    let first := t.track a s
    let rest := t.trackAll as first.2
    (first.1 ++ rest.1, rest.2)

end Tracker

end SyncLedger
