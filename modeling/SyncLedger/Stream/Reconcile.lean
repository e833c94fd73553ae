import SyncLedger.Stream.Update
import SyncLedger.Table

/-!
# Durable records of statuses

The platform keeps a record of the status of every stream of a run. The reconciler turns
updates into requests to that service: the first one of a stream creates its record and
later ones change it. The last reply for each stream is remembered, so that a run state
that is already stored is not sent again. A failed request is only reported; nothing is
remembered of it, and the next update of the stream tries again.
-/

namespace SyncLedger

open Decode

/-- What the service is told about a stream. -/
structure StreamStatusRequest where
  workspaceId : Uuid
  connectionId : Uuid
  jobId : JobId
  attemptNumber : AttemptNumber
  streamName : String
  streamSpace : Option String
  runState : RunState
  metadata : Option RateLimitedInfo
  transitionedAt : DateTime
deriving DecidableEq

namespace StreamStatusRequest

def ofUpdate (u : StreamStatusUpdate) : StreamStatusRequest where
  workspaceId := u.context.workspaceId
  connectionId := u.context.connectionId
  jobId := u.context.jobId
  attemptNumber := u.context.attemptNumber
  streamName := u.key.name
  streamSpace := u.key.space
  runState := u.runState
  metadata := u.metadata
  transitionedAt := u.transitionedAt

/-- Everything that a request says apart from its instant. -/
def fields (r : StreamStatusRequest) : List (String × Json) :=
  [("workspaceId", .str r.workspaceId.text), ("connectionId", .str r.connectionId.text),
   ("jobId", r.jobId.encode), ("attemptNumber", .int r.attemptNumber.toNat),
   ("streamName", .str r.streamName), ("streamNamespace", Json.ofOption .str r.streamSpace),
   ("runState", r.runState.encode), ("metadata", Json.ofOption RateLimitedInfo.encode r.metadata)]

def encode (r : StreamStatusRequest) : Json :=
  .obj (r.fields ++ [("transitionedAt", .str (Rfc3339.text r.transitionedAt))])

end StreamStatusRequest

/-- A record of the service. -/
structure StreamStatusRecord where
  id : Uuid
  runState : RunState
deriving DecidableEq, Inhabited

namespace StreamStatusRecord

def decode : Decoder StreamStatusRecord :=
  record .document "StreamStatusRecord"
    ((nothing StreamStatusRecord.mk).and (required "id" uuid)
      |>.and (required "runState" RunState.decode))

end StreamStatusRecord

/-- A request to the service. -/
inductive StatusCall where
  | create (request : StreamStatusRequest)
  | update (id : Uuid) (request : StreamStatusRequest)
deriving DecidableEq

/-- What is sent with a request. -/
def StatusCall.request : StatusCall → StreamStatusRequest
  | .create r => r
  | .update _ r => r

/-- A request to the service failed, for the reasons given, the nearest one first. -/
structure StatusApiError where
  sources : List String
deriving DecidableEq

/-- The wording of a failed request. -/
def StatusApiError.message (_ : StatusApiError) : String := "stream status API request failed"

/-- The service, with a state of type `α`. -/
structure StatusApi (α : Type) where
  answer : StatusCall → α → Except StatusApiError StreamStatusRecord × α

/-- The same service with a list of the requests that were made, the latest one last. -/
def StatusApi.recorded {α : Type} (api : StatusApi α) : StatusApi (α × List StatusCall) where
  answer c s :=
    let result := api.answer c s.1
    (result.1, result.2, s.2 ++ [c])

/-- The last reply for each stream of a run. -/
abbrev ResponseCache := Table StreamKey StreamStatusRecord

/-- What a reconciler keeps: the replies, and the state of the service. -/
structure Reconciling (α : Type) where
  cache : ResponseCache
  service : α

namespace Reconciler

variable {α : Type}

/-- The request that an update needs; none if its run state is stored already. -/
def call? (cache : ResponseCache) (u : StreamStatusUpdate) : Option StatusCall :=
  match Table.get? cache u.key with
  | none => some (.create (.ofUpdate u))
  | some record =>
    if record.runState = u.runState then none else some (.update record.id (.ofUpdate u))

/-- The note about an update that needs no request. -/
def skipped (u : StreamStatusUpdate) : LogEvent where
  level := .debug
  message := "run state already stored, skipping API call"
  fields := [("stream", u.key.text), ("run_state", u.runState.name)]

/-- The warning about an update that was not stored. -/
def failure (u : StreamStatusUpdate) (e : StatusApiError) : LogEvent where
  level := .warn
  message := "failed to persist stream status"
  fields :=
    [("stream", u.key.text), ("run_state", u.runState.name), ("error", e.message),
     LogEvent.sourceField e.sources]

/-- The replies after a request for a stream. -/
def remember (cache : ResponseCache) (key : StreamKey) :
    Except StatusApiError StreamStatusRecord → ResponseCache
  | .ok record => Table.insert cache key record
  | .error _ => cache

/-- What the log says about the result of a request. -/
def report (u : StreamStatusUpdate) : Except StatusApiError StreamStatusRecord → List LogEvent
  | .ok _ => []
  | .error e => [LogEvent.failed e.message, failure u e]

/-- Brings the record of a stream up to date. -/
def emit (api : StatusApi α) (u : StreamStatusUpdate) (s : Reconciling α) :
    List LogEvent × Reconciling α :=
  match call? s.cache u with
  | none => ([skipped u], s)
  | some call =>
    let result := api.answer call s.service
    (report u result.1, ⟨remember s.cache u.key result.1, result.2⟩)

/-- The reconciler as the receiver of updates. -/
def emitter (api : StatusApi α) : Emitter (Reconciling α) := ⟨emit api⟩

end Reconciler

/-! ## A scripted service -/

/-- What a scripted service does with one request. -/
inductive ScriptedReply where
  /-- It fails for a reason. -/
  | fail (reason : String)
  /-- It answers with a given record. -/
  | reply (record : StreamStatusRecord)
  /-- It does what is asked. -/
  | comply

/-- A service that follows a script, one entry for each request, and does what it is
asked when the script has ended. Records that it creates itself are numbered from 1. -/
structure StatusScript where
  replies : List ScriptedReply
  created : Nat

namespace StatusScript

/-- The record after a request that is complied with. -/
def comply (call : StatusCall) (created : Nat) : StreamStatusRecord × Nat :=
  match call with
  | .create r => (⟨Uuid.ofNat (created + 1), r.runState⟩, created + 1)
  | .update id r => (⟨id, r.runState⟩, created)

/-- The service that follows the script. -/
def api : StatusApi StatusScript where
  answer call s :=
    match s.replies.head?.getD .comply with
    | .fail reason => (.error ⟨[reason]⟩, ⟨s.replies.tail, s.created⟩)
    | .reply record => (.ok record, ⟨s.replies.tail, s.created⟩)
    | .comply =>
      let result := comply call s.created
      (.ok result.1, ⟨s.replies.tail, result.2⟩)

end StatusScript

end SyncLedger
