import SyncLedger.Json.Decode

/-!
# Jobs and attempts

A job does one thing for a connection, most often a sync, and may need several attempts.
Its identifier says nothing about when it was created. A job in one of the terminal
statuses is over; the others are active.
-/

namespace SyncLedger

open Decode

/-- The identifier of a job. -/
structure JobId where
  value : Int64
deriving DecidableEq, Inhabited

namespace JobId

def text (i : JobId) : String := toString i.value.toInt

def decode : Decoder JobId := fun j => (int64 j).map JobId.mk

def encode (i : JobId) : Json := .int i.value.toInt

end JobId

/-- The place of an attempt within its job, from 0. -/
abbrev AttemptNumber := UInt32

/-- How far an attempt has come. -/
inductive AttemptStatus where
  | running
  | failed
  | succeeded
deriving DecidableEq

namespace AttemptStatus

def name : AttemptStatus → String
  | .running => "RUNNING"
  | .failed => "FAILED"
  | .succeeded => "SUCCEEDED"

def all : List AttemptStatus := [.running, .failed, .succeeded]

def decode : Decoder AttemptStatus := variant .document (named name all) none

def encode (s : AttemptStatus) : Json := .str s.name

end AttemptStatus

/-- One try of a job. -/
structure Attempt where
  number : AttemptNumber
  jobId : JobId
  status : AttemptStatus
deriving DecidableEq

namespace Attempt

def decode : Decoder Attempt :=
  record .document "Attempt"
    ((nothing Attempt.mk).and (required "number" uint32)
      |>.and (required "job_id" JobId.decode)
      |>.and (required "status" AttemptStatus.decode))

def encode (a : Attempt) : Json :=
  .obj [("number", .int a.number.toNat), ("job_id", a.jobId.encode), ("status", a.status.encode)]

end Attempt

/-- How far a job has come. -/
inductive JobStatus where
  /-- Waiting to be picked up. -/
  | pending
  /-- An attempt is being made. -/
  | running
  /-- An attempt failed and another one will follow. -/
  | incomplete
  /-- Over without success. -/
  | failed
  /-- Over with success. -/
  | succeeded
  /-- Over because somebody said so. -/
  | cancelled
deriving DecidableEq

namespace JobStatus

def name : JobStatus → String
  | .pending => "PENDING"
  | .running => "RUNNING"
  | .incomplete => "INCOMPLETE"
  | .failed => "FAILED"
  | .succeeded => "SUCCEEDED"
  | .cancelled => "CANCELLED"

/-- All statuses, in the order in which they are sorted. -/
def all : List JobStatus := [.pending, .running, .incomplete, .failed, .succeeded, .cancelled]

/-- The place of a status in the order. -/
def rank (s : JobStatus) : Nat := all.idxOf s

/-- A job in this status is over. -/
def isTerminal : JobStatus → Bool
  | .failed | .succeeded | .cancelled => true
  | .pending | .running | .incomplete => false

/-- The statuses of jobs that are over. -/
def terminal : List JobStatus := [.failed, .succeeded, .cancelled]

/-- The statuses of active jobs. -/
def nonTerminal : List JobStatus := [.pending, .running, .incomplete]

def decode : Decoder JobStatus := variant .document (named name all) none

def encode (s : JobStatus) : Json := .str s.name

theorem mem_terminal_iff (s : JobStatus) : s ∈ terminal ↔ s.isTerminal = true := by
  cases s <;> decide

theorem mem_nonTerminal_iff (s : JobStatus) : s ∈ nonTerminal ↔ s.isTerminal = false := by
  cases s <;> decide

end JobStatus

/-- What a job does. -/
inductive JobConfigType where
  | sync
  | resetConnection
  | refresh
  | checkConnectionSource
  | checkConnectionDestination
  | discoverSchema
  | getSpec
deriving DecidableEq

namespace JobConfigType

def name : JobConfigType → String
  | .sync => "sync"
  | .resetConnection => "reset_connection"
  | .refresh => "refresh"
  | .checkConnectionSource => "check_connection_source"
  | .checkConnectionDestination => "check_connection_destination"
  | .discoverSchema => "discover_schema"
  | .getSpec => "get_spec"

def all : List JobConfigType :=
  [.sync, .resetConnection, .refresh, .checkConnectionSource, .checkConnectionDestination,
   .discoverSchema, .getSpec]

/-- The jobs that move data. -/
def replicationTypes : List JobConfigType := [.sync, .resetConnection, .refresh]

/-- Jobs of this type move data. -/
def isReplication (t : JobConfigType) : Bool := replicationTypes.contains t

def decode : Decoder JobConfigType := variant .document (named name all) none

def encode (t : JobConfigType) : Json := .str t.name

end JobConfigType

/-- A job of a connection, with its attempts. -/
structure Job where
  id : JobId
  connectionId : Uuid
  configType : JobConfigType
  createdAt : DateTime
  status : JobStatus
  attempts : List Attempt
deriving DecidableEq

namespace Job

/-- The attempts that are still running. -/
def runningAttempts (j : Job) : List Attempt :=
  j.attempts.filter fun a => a.status = .running

/-- The job ended with success. -/
def succeeded (j : Job) : Bool := j.status = .succeeded

def decode : Decoder Job :=
  record .document "Job"
    ((nothing Job.mk).and (required "id" JobId.decode)
      |>.and (required "connection_id" uuid)
      |>.and (required "config_type" JobConfigType.decode)
      |>.and (required "created_at" dateTime)
      |>.and (required "status" JobStatus.decode)
      |>.and (defaulted "attempts" (list Attempt.decode) []))

def encode (j : Job) : Json :=
  .obj [("id", j.id.encode), ("connection_id", .str j.connectionId.text),
    ("config_type", j.configType.encode), ("created_at", .str (Rfc3339.text j.createdAt)),
    ("status", j.status.encode), ("attempts", .arr (j.attempts.map Attempt.encode))]

end Job

end SyncLedger
