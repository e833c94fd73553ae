import SyncLedger.Message.Stream

/-!
# Traces

A trace reports on the connector itself. The one kind that matters here is the stream
status: a stream started, runs, is complete or incomplete. A running stream may give
reasons; the first reason that is a rate limit with details is the one that counts.
-/

namespace SyncLedger

open Decode

/-- What a trace is about. Kinds that are not known are kept as `other`. -/
inductive TraceType where
  | error
  | estimate
  | streamStatus
  | analytics
  | other
deriving DecidableEq

namespace TraceType

def name : TraceType → String
  | .error => "ERROR"
  | .estimate => "ESTIMATE"
  | .streamStatus => "STREAM_STATUS"
  | .analytics => "ANALYTICS"
  | .other => "OTHER"

def all : List TraceType := [.error, .estimate, .streamStatus, .analytics, .other]

def decode (d : Dialect) : Decoder TraceType := variant d (named name all) (some .other)

def encode (t : TraceType) : Json := .str t.name

end TraceType

/-- The status of a stream as its source reports it. -/
inductive StreamStatus where
  | started
  | running
  | complete
  | incomplete
deriving DecidableEq

namespace StreamStatus

def name : StreamStatus → String
  | .started => "STARTED"
  | .running => "RUNNING"
  | .complete => "COMPLETE"
  | .incomplete => "INCOMPLETE"

def all : List StreamStatus := [.started, .running, .complete, .incomplete]

def decode (d : Dialect) : Decoder StreamStatus := variant d (named name all) none

def encode (s : StreamStatus) : Json := .str s.name

end StreamStatus

/-- The kind of a reason. Kinds that are not known are kept as `other`. -/
inductive ReasonType where
  | rateLimited
  | other
deriving DecidableEq

namespace ReasonType

def name : ReasonType → String
  | .rateLimited => "RATE_LIMITED"
  | .other => "OTHER"

def all : List ReasonType := [.rateLimited, .other]

def decode (d : Dialect) : Decoder ReasonType := variant d (named name all) (some .other)

def encode (t : ReasonType) : Json := .str t.name

end ReasonType

/-- Details of a rate limit: when the source expects its quota back, in milliseconds
since 1970. -/
structure RateLimitedReason where
  quotaReset : Option Int64
deriving DecidableEq, Inhabited

/-- A reason for a status. -/
structure StreamStatusReason where
  type : ReasonType
  rateLimited : Option RateLimitedReason
deriving DecidableEq

/-- The report of a status of a stream. -/
structure StreamStatusTrace where
  descriptor : StreamDescriptor
  status : StreamStatus
  reasons : List StreamStatusReason
deriving DecidableEq

/-- A trace. -/
structure TraceMessage where
  type : TraceType
  emittedAt : Binary64
  streamStatus : Option StreamStatusTrace
deriving DecidableEq

namespace RateLimitedReason

def decode (d : Dialect) : Decoder RateLimitedReason :=
  record d "RateLimitedReason"
    ((nothing RateLimitedReason.mk).and (optional "quota_reset" int64))

def encode (r : RateLimitedReason) : Json :=
  .obj (Json.optionalField "quota_reset" (fun n => .int n.toInt) r.quotaReset)

end RateLimitedReason

namespace StreamStatusReason

/-- The details of a reason that is a rate limit. -/
def limit? (r : StreamStatusReason) : Option RateLimitedReason :=
  match r.type with
  | .rateLimited => r.rateLimited
  | .other => none

def decode (d : Dialect) : Decoder StreamStatusReason :=
  record d "StreamStatusReason"
    ((nothing StreamStatusReason.mk).and (required "type" (ReasonType.decode d))
      |>.and (optional "rate_limited" (RateLimitedReason.decode d)))

def encode (r : StreamStatusReason) : Json :=
  .obj (("type", r.type.encode)
    :: Json.optionalField "rate_limited" RateLimitedReason.encode r.rateLimited)

end StreamStatusReason

namespace StreamStatusTrace

/-- The details of the first reason that is a rate limit and has details. -/
def rateLimited (t : StreamStatusTrace) : Option RateLimitedReason :=
  t.reasons.findSome? StreamStatusReason.limit?

def decode (d : Dialect) : Decoder StreamStatusTrace :=
  record d "StreamStatusTraceMessage"
    ((nothing StreamStatusTrace.mk).and (required "stream_descriptor" (StreamDescriptor.decode d))
      |>.and (required "status" (StreamStatus.decode d))
      |>.and (defaulted "reasons" (list (StreamStatusReason.decode d)) []))

/-- The reasons are left out when there are none. -/
def encode (t : StreamStatusTrace) : Json :=
  .obj (("stream_descriptor", t.descriptor.encode) :: ("status", t.status.encode)
    :: (if t.reasons.isEmpty then []
        else [("reasons", .arr (t.reasons.map StreamStatusReason.encode))]))

end StreamStatusTrace

namespace TraceMessage

def decode (d : Dialect) : Decoder TraceMessage :=
  record d "TraceMessage"
    ((nothing TraceMessage.mk).and (required "type" (TraceType.decode d))
      |>.and (required "emitted_at" binary64)
      |>.and (optional "stream_status" (StreamStatusTrace.decode d)))

def encode (t : TraceMessage) : Json :=
  .obj (("type", t.type.encode) :: ("emitted_at", .float t.emittedAt)
    :: Json.optionalField "stream_status" StreamStatusTrace.encode t.streamStatus)

end TraceMessage

end SyncLedger
