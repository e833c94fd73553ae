import SyncLedger.Message.State
import SyncLedger.Message.Trace
import SyncLedger.Stream.RunState

/-!
# The status of a stream

What is known about one stream of a run: its run state, the details of a rate limit, the
greatest checkpoint seen for it, whether it had a record, and whether its source is
done. `TrackedStatus.observe` says how an observation changes it. The destination shows
that everything is committed by sending back the last checkpoint of a stream whose
source is done; that, and only that, completes a stream.
-/

namespace SyncLedger

open Decode

/-- Details of a rate limit. -/
structure RateLimitedInfo where
  /-- When the source expects its quota back. -/
  quotaReset : Option DateTime
deriving DecidableEq

namespace RateLimitedInfo

/-- The details of a reported reason. An instant that cannot be represented counts as
not given. -/
def ofReason (r : RateLimitedReason) : RateLimitedInfo :=
  ⟨r.quotaReset.bind fun millis => DateTime.ofEpochMillis? millis.toInt⟩

def decode : Decoder RateLimitedInfo :=
  record .document "RateLimitedInfo"
    ((nothing RateLimitedInfo.mk).and (nullable "quota_reset" dateTime))

def encode (i : RateLimitedInfo) : Json :=
  .obj [("quota_reset", Json.ofOption (fun d => .str (Rfc3339.text d)) i.quotaReset)]

end RateLimitedInfo

/-- What is known about a stream. -/
structure TrackedStatus where
  runState : RunState
  metadata : Option RateLimitedInfo
  /-- The greatest checkpoint observed. -/
  latestStateId : Option StateId
  /-- No record was observed. -/
  isEmpty : Bool
  /-- The source reported that it is done. -/
  sourceComplete : Bool
deriving DecidableEq

/-- Something seen of a stream. -/
inductive Observation where
  /-- The source started the stream or reports that it runs. -/
  | running
  /-- The source is held back. -/
  | rateLimited (info : RateLimitedInfo)
  /-- The source gave the stream up. -/
  | incomplete
  /-- The source is done with the stream. -/
  | sourceComplete
  /-- A record of the stream passed. -/
  | record
  /-- A checkpoint of the stream passed. -/
  | checkpoint (id : StateId)
deriving DecidableEq

namespace TrackedStatus

/-- The status of a stream that nothing was seen of. -/
def initial : TrackedStatus where
  runState := .pending
  metadata := none
  latestStateId := none
  isEmpty := true
  sourceComplete := false

instance : Inhabited TrackedStatus := ⟨initial⟩

/-- A checkpoint shows that all the data of the stream is committed. -/
def isDestComplete (s : TrackedStatus) (id : StateId) : Bool :=
  s.sourceComplete && s.latestStateId = some id

/-- The effect of an observation on a stream that is not terminal. A record moves a
stream that is held back to running again and so ends its rate limit; the end of a
source's reports leaves the details as they are. -/
def apply (s : TrackedStatus) : Observation → TrackedStatus
  | .running => { s with runState := .running, metadata := none }
  | .rateLimited info => { s with runState := .rateLimited, metadata := some info }
  | .incomplete => { s with runState := .incomplete }
  | .sourceComplete => { s with sourceComplete := true }
  | .record =>
    { s with
      runState := .running
      metadata := if s.runState = .rateLimited then none else s.metadata
      isEmpty := false }
  | .checkpoint id =>
    if s.isDestComplete id then { s with runState := .complete }
    else { s with latestStateId := some (id.atLeast s.latestStateId) }

/-- The effect of an observation. A terminal stream stays as it is. -/
def observe (s : TrackedStatus) (o : Observation) : TrackedStatus :=
  if s.runState.isTerminal then s else s.apply o

theorem observe_of_isTerminal {s : TrackedStatus} (h : s.runState.isTerminal = true)
    (o : Observation) : s.observe o = s := by
  simp [observe, h]

theorem observe_of_not_isTerminal {s : TrackedStatus} (h : s.runState.isTerminal = false)
    (o : Observation) : s.observe o = s.apply o := by
  simp [observe, h]

end TrackedStatus

end SyncLedger
