import SyncLedger.Job.Persistence
import SyncLedger.Log.Event

/-!
# Failing the active jobs of a connection

When the workflow of a connection starts anew, the jobs that were active before are
failed. For every active replication job, in the order in which they are listed: the job
is failed, each of its running attempts is failed and its failure summary filed, and then
users are notified and the outcome is tracked. A failing call of the persistence layer
ends all this at once; what was done before stays done, and calling again takes up the
jobs that are still active.
-/

namespace SyncLedger

/-- The outcome of a job as it is tracked. -/
inductive TrackedJobState where
  | started
  | succeeded
  | failed
deriving DecidableEq

/-- Everything that is done while reconciling. -/
inductive JobCall where
  /-- A call of the persistence layer. -/
  | persistence (call : PersistenceCall)
  /-- Users are told that a job failed. -/
  | notify (reason : String) (job : Job)
  /-- The outcome of a job is tracked. -/
  | track (job : Job) (state : TrackedJobState)
deriving DecidableEq

/-- The call of the persistence layer that failed, and why. -/
structure FailJobsError where
  call : PersistenceCall
  cause : PersistenceError
deriving DecidableEq

namespace FailJobsError

/-- The wording of a failed reconciliation. -/
def message (e : FailJobsError) : String :=
  match e.call with
  | .listJobs connection _ _ =>
    "failed to list non-terminal jobs of connection " ++ connection.text
  | .getJob job => "failed to fetch job " ++ job.text
  | .failJob job => "failed to fail job " ++ job.text
  | .failAttempt job attempt =>
    "failed to fail attempt " ++ toString attempt.toNat ++ " of job " ++ job.text
  | .writeFailureSummary job attempt _ =>
    "failed to write failure summary of attempt " ++ toString attempt.toNat ++ " of job "
      ++ job.text

/-- The causes of a failed reconciliation, the nearest one first. -/
def sources (e : FailJobsError) : List String := e.cause.chain

end FailJobsError

/-- A reconciliation so far: the state of the persistence layer, what was done, and what
the log says. -/
structure Reconciliation (σ : Type) where
  store : σ
  calls : List JobCall
  events : List LogEvent

namespace JobReconciler

variable {σ : Type}

/-- A part of a reconciliation. -/
abbrev Work (σ : Type) (α : Type) := EStateM FailJobsError (Reconciliation σ) α

/-- Calls the persistence layer. -/
def call (layer : JobPersistence σ) (c : PersistenceCall) : Work σ c.Reply := fun s =>
  let result := layer.perform c s.store
  let next : Reconciliation σ :=
    { s with store := result.2, calls := s.calls ++ [.persistence c] }
  match result.1 with
  | .ok reply => .ok reply next
  | .error e => .error ⟨c, e⟩ next

/-- Does something that cannot fail. -/
def act (c : JobCall) : Work σ Unit := fun s => .ok () { s with calls := s.calls ++ [c] }

/-- Writes to the log. -/
def log (e : LogEvent) : Work σ Unit := fun s => .ok () { s with events := s.events ++ [e] }

/-- What users are told about the jobs that are failed. -/
def reason : String := "Failing job in order to start from a clean job state"

/-- The note at the start. -/
def failing (connection : Uuid) (count : Nat) : LogEvent where
  level := .info
  message := "failing non-terminal jobs"
  fields := [("connection_id", connection.text), ("job_count", toString count)]

/-- The note about a job that is done. -/
def failed (id : JobId) (job : Job) : LogEvent where
  level := .info
  message := "failed non-terminal job"
  fields := [("job_id", id.text), ("status", job.status.name)]

/-- Fails a running attempt and files why. -/
def failAttempt (layer : JobPersistence σ) (now : DateTime) (job : JobId) (n : AttemptNumber) :
    Work σ Unit := do
  call layer (.failAttempt job n)
  call layer (.writeFailureSummary job n (.workflowRestarted job n now))

/-- Fails a job with its running attempts and tells the others. -/
def failJob (layer : JobPersistence σ) (now : DateTime) (job : Job) : Work σ Unit := do
  call layer (.failJob job.id)
  job.runningAttempts.forM fun a => failAttempt layer now job.id a.number
  let current ← call layer (.getJob job.id)
  act (.notify reason current)
  act (.track current .failed)
  log (failed job.id current)

/-- Fails some jobs, after a note unless there are none. -/
def failJobs (layer : JobPersistence σ) (now : DateTime) (connection : Uuid) (jobs : List Job) :
    Work σ Unit :=
  match jobs with
  | [] => pure ()
  | _ :: _ => do
    log (failing connection jobs.length)
    jobs.forM (failJob layer now)

/-- Fails the active replication jobs of a connection. -/
def failNonTerminal (layer : JobPersistence σ) (now : DateTime) (connection : Uuid) :
    Work σ Unit := do
  let jobs ← call layer (.listJobs connection JobConfigType.replicationTypes JobStatus.nonTerminal)
  failJobs layer now connection jobs

/-- The result of a reconciliation, and everything that was done. A failure is the last
event in the log. All failure summaries carry the instant `now`: the clock is taken to stand
still during a run, where each attempt would have an instant of its own. -/
def run (layer : JobPersistence σ) (now : DateTime) (connection : Uuid) (store : σ) :
    Except FailJobsError Unit × Reconciliation σ :=
  match failNonTerminal layer now connection ⟨store, [], []⟩ with
  | .ok _ s => (.ok (), s)
  | .error e s => (.error e, { s with events := s.events ++ [LogEvent.failed e.message] })

end JobReconciler

end SyncLedger
