import SyncLedger.Job.Basic

/-!
# Why attempts fail

A failed attempt is filed with a summary: the reasons, each with the component it comes
from, and whether some data had been committed before.
-/

namespace SyncLedger

open Decode

/-- The component that a failure comes from. -/
inductive FailureOrigin where
  | source
  | destination
  | replication
  | platform
  | unknown
deriving DecidableEq

namespace FailureOrigin

def name : FailureOrigin → String
  | .source => "source"
  | .destination => "destination"
  | .replication => "replication"
  | .platform => "platform"
  | .unknown => "unknown"

def all : List FailureOrigin := [.source, .destination, .replication, .platform, .unknown]

def decode : Decoder FailureOrigin := variant .document (named name all) none

def encode (o : FailureOrigin) : Json := .str o.name

end FailureOrigin

/-- The kind of a failure. -/
inductive FailureType where
  | configError
  | systemError
  | transientError
  | manualCancellation
  | destinationTimeout
deriving DecidableEq

namespace FailureType

def name : FailureType → String
  | .configError => "config_error"
  | .systemError => "system_error"
  | .transientError => "transient_error"
  | .manualCancellation => "manual_cancellation"
  | .destinationTimeout => "destination_timeout"

def all : List FailureType :=
  [.configError, .systemError, .transientError, .manualCancellation, .destinationTimeout]

def decode : Decoder FailureType := variant .document (named name all) none

def encode (t : FailureType) : Json := .str t.name

end FailureType

/-- One reason why an attempt failed, worded for users and for operators. -/
structure FailureReason where
  origin : FailureOrigin
  type : FailureType
  externalMessage : String
  internalMessage : String
  timestamp : DateTime
deriving DecidableEq

namespace FailureReason

def decode : Decoder FailureReason :=
  record .document "FailureReason"
    ((nothing FailureReason.mk).and (required "failureOrigin" FailureOrigin.decode)
      |>.and (required "failureType" FailureType.decode)
      |>.and (required "externalMessage" string)
      |>.and (required "internalMessage" string)
      |>.and (required "timestamp" dateTime))

def encode (r : FailureReason) : Json :=
  .obj [("failureOrigin", r.origin.encode), ("failureType", r.type.encode),
    ("externalMessage", .str r.externalMessage), ("internalMessage", .str r.internalMessage),
    ("timestamp", .str (Rfc3339.text r.timestamp))]

end FailureReason

/-- All reasons why an attempt failed. -/
structure AttemptFailureSummary where
  failures : List FailureReason
  /-- Some data was committed before the attempt failed. -/
  partialSuccess : Bool
deriving DecidableEq

namespace AttemptFailureSummary

def decode : Decoder AttemptFailureSummary :=
  record .document "AttemptFailureSummary"
    ((nothing AttemptFailureSummary.mk).and (required "failures" (list FailureReason.decode))
      |>.and (defaulted "partialSuccess" bool false))

def encode (s : AttemptFailureSummary) : Json :=
  .obj [("failures", .arr (s.failures.map FailureReason.encode)),
    ("partialSuccess", .bool s.partialSuccess)]

/-- The summary of an attempt that was still running when the orchestrator started
anew. -/
def workflowRestarted (job : JobId) (number : AttemptNumber) (timestamp : DateTime) :
    AttemptFailureSummary where
  failures :=
    [{ origin := .platform
       type := .systemError
       externalMessage :=
        "An internal transient error occurred. The sync should work fine on the next retry."
       internalMessage :=
        "Setting attempt " ++ toString number.toNat ++ " of job " ++ job.text
          ++ " to FAILED because the workflow for this connection was restarted, and existing"
          ++ " job state was cleaned."
       timestamp := timestamp }]
  partialSuccess := false

end AttemptFailureSummary

end SyncLedger
