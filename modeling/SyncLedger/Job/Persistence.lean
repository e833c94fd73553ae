import SyncLedger.Job.Failure
import SyncLedger.Job.History

/-!
# Where jobs are kept

Jobs are kept by a persistence layer that can be asked five things. Its answer depends on
a state `σ`, and every call may fail. `JobStore` is the layer that keeps its jobs in a
list and never fails of itself; `JobPersistence.guarded` puts a policy in front of a
layer that makes some calls fail before they have an effect.
-/

namespace SyncLedger

/-- What the persistence layer can be asked. -/
inductive PersistenceCall where
  /-- The jobs of a connection of some types and in some statuses. -/
  | listJobs (connection : Uuid) (types : List JobConfigType) (statuses : List JobStatus)
  /-- The job with an identifier. -/
  | getJob (job : JobId)
  /-- Fail a job. -/
  | failJob (job : JobId)
  /-- Fail an attempt of a job. -/
  | failAttempt (job : JobId) (attempt : AttemptNumber)
  /-- File the reasons why an attempt failed. -/
  | writeFailureSummary (job : JobId) (attempt : AttemptNumber) (summary : AttemptFailureSummary)
deriving DecidableEq

namespace PersistenceCall

/-- What a call that does not fail gives. -/
abbrev Reply : PersistenceCall → Type
  | .listJobs _ _ _ => List Job
  | .getJob _ => Job
  | .failJob _ => Unit
  | .failAttempt _ _ => Unit
  | .writeFailureSummary _ _ _ => Unit

/-- The job that a call is about. -/
def job? : PersistenceCall → Option JobId
  | .listJobs _ _ _ => none
  | .getJob job => some job
  | .failJob job => some job
  | .failAttempt job _ => some job
  | .writeFailureSummary job _ _ => some job

/-- The attempt that a call is about. -/
def attempt? : PersistenceCall → Option AttemptNumber
  | .listJobs _ _ _ => none
  | .getJob _ => none
  | .failJob _ => none
  | .failAttempt _ attempt => some attempt
  | .writeFailureSummary _ attempt _ => some attempt

end PersistenceCall

/-- A call of the persistence layer failed. -/
structure PersistenceError where
  cause : String
deriving DecidableEq

namespace PersistenceError

/-- The wording of a failed call. -/
def message (_ : PersistenceError) : String := "job persistence error"

/-- The error and its cause, the nearest one first. -/
def chain (e : PersistenceError) : List String := [e.message, e.cause]

end PersistenceError

/-- A persistence layer with a state of type `σ`. -/
structure JobPersistence (σ : Type) where
  perform : (call : PersistenceCall) → σ → Except PersistenceError call.Reply × σ

/-- Decides which calls fail, keeping a state of type `φ`. -/
structure FaultPolicy (φ : Type) where
  strike : PersistenceCall → φ → Option PersistenceError × φ

/-- The layer in which the calls that the policy strikes fail without any effect. -/
def JobPersistence.guarded {σ φ : Type} (layer : JobPersistence σ) (policy : FaultPolicy φ) :
    JobPersistence (σ × φ) where
  perform call s :=
    let struck := policy.strike call s.2
    match struck.1 with
    | some e => (.error e, s.1, struck.2)
    | none =>
      let result := layer.perform call s.1
      (result.1, result.2, struck.2)

/-! ## Jobs in a list -/

namespace Attempt

/-- The attempt has failed. -/
def fail (a : Attempt) : Attempt := { a with status := .failed }

end Attempt

namespace Job

/-- The job has failed; its attempts are as they were. -/
def fail (j : Job) : Job := { j with status := .failed }

/-- The attempts with a number have failed. -/
def failAttempt (j : Job) (n : AttemptNumber) : Job :=
  { j with attempts := j.attempts.map fun a => if a.number = n then a.fail else a }

/-- Changes the first job with an identifier. -/
def modify (id : JobId) (f : Job → Job) : List Job → List Job
  | [] => []
  | j :: js => if j.id = id then f j :: js else j :: modify id f js

end Job

/-- A failure summary that was filed for an attempt. -/
structure FiledSummary where
  job : JobId
  attempt : AttemptNumber
  summary : AttemptFailureSummary
deriving DecidableEq

/-- Jobs, and the failure summaries filed for them, the latest one last. -/
structure JobStore where
  jobs : List Job
  summaries : List FiledSummary
deriving DecidableEq

namespace JobStore

/-- The jobs of a connection of some types and in some statuses. -/
def select (connection : Uuid) (types : List JobConfigType) (statuses : List JobStatus)
    (jobs : List Job) : List Job :=
  jobs.filter fun j =>
    j.connectionId = connection && types.contains j.configType && statuses.contains j.status

/-- The store after a call. -/
def after (s : JobStore) : PersistenceCall → JobStore
  | .listJobs _ _ _ => s
  | .getJob _ => s
  | .failJob id => { s with jobs := Job.modify id Job.fail s.jobs }
  | .failAttempt id n => { s with jobs := Job.modify id (Job.failAttempt · n) s.jobs }
  | .writeFailureSummary id n summary =>
    { s with summaries := s.summaries ++ [⟨id, n, summary⟩] }

/-- The answer to a request for a job. -/
def lookup (s : JobStore) (id : JobId) : Except PersistenceError Job :=
  match Job.find? s.jobs id with
  | some j => .ok j
  | none => .error ⟨"job " ++ id.text ++ " not found"⟩

/-- The answer to a call. -/
def answer (s : JobStore) : (call : PersistenceCall) → Except PersistenceError call.Reply
  | .listJobs connection types statuses => .ok (select connection types statuses s.jobs)
  | .getJob id => s.lookup id
  | .failJob _ => .ok ()
  | .failAttempt _ _ => .ok ()
  | .writeFailureSummary _ _ _ => .ok ()

/-- The layer that keeps its jobs in a list. -/
def persistence : JobPersistence JobStore where
  perform call s := (s.answer call, s.after call)

end JobStore

end SyncLedger
