import SyncLedger.Job.Persistence

/-!
# Faulty layers

A list of faults is a policy: the first fault that matches a call and is not used up
strikes it. A fault names an operation, and may name a job, an attempt, and how often it
strikes.

A layer may also be at fault without failing. `JobStore.unfiltered` stands for one whose
list does not keep to what was asked for, be it out of date or of another connection. A
reconciliation relies on the list: whatever is on it is failed.
-/

namespace SyncLedger

/-- The operations of a persistence layer. -/
inductive PersistenceOperation where
  | listJobs
  | getJob
  | failJob
  | failAttempt
  | writeFailureSummary
deriving DecidableEq

/-- The operation of a call. -/
def PersistenceCall.operation : PersistenceCall → PersistenceOperation
  | .listJobs _ _ _ => .listJobs
  | .getJob _ => .getJob
  | .failJob _ => .failJob
  | .failAttempt _ _ => .failAttempt
  | .writeFailureSummary _ _ _ => .writeFailureSummary

/-- Makes matching calls fail. -/
structure Fault where
  operation : PersistenceOperation
  message : String
  job : Option JobId
  attempt : Option AttemptNumber
  /-- How often it still strikes; without end if there is no number. -/
  remaining : Option Nat
deriving DecidableEq

namespace Fault

/-- What a fault names is what the call is about; a fault that names nothing matches. -/
def admits {α : Type} [DecidableEq α] (named : Option α) (subject : Option α) : Bool :=
  match named with
  | none => true
  | some a => subject = some a

/-- The fault is about the call and not used up. -/
def isDue (f : Fault) (c : PersistenceCall) : Bool :=
  f.operation = c.operation && admits f.job c.job? && admits f.attempt c.attempt?
    && f.remaining ≠ some 0

/-- The fault after it struck once more. -/
def used (f : Fault) : Fault := { f with remaining := f.remaining.map (· - 1) }

/-- The fault that strikes, and the faults afterwards. -/
def strike (c : PersistenceCall) : List Fault → Option PersistenceError × List Fault
  | [] => (none, [])
  | f :: fs =>
    if f.isDue c then (some ⟨f.message⟩, f.used :: fs)
    else
      let rest := strike c fs
      (rest.1, f :: rest.2)

/-- The policy of a list of faults. -/
def policy : FaultPolicy (List Fault) := ⟨strike⟩

end Fault

namespace JobStore

/-- The answer of a layer that lists all its jobs whatever it is asked for. -/
def unfilteredAnswer (s : JobStore) : (call : PersistenceCall) → Except PersistenceError call.Reply
  | .listJobs _ _ _ => .ok s.jobs
  | .getJob id => s.answer (.getJob id)
  | .failJob id => s.answer (.failJob id)
  | .failAttempt id n => s.answer (.failAttempt id n)
  | .writeFailureSummary id n summary => s.answer (.writeFailureSummary id n summary)

/-- The layer that lists all its jobs whatever it is asked for, and otherwise is the one that
keeps them in a list. -/
def unfiltered : JobPersistence JobStore where
  perform call s := (s.unfilteredAnswer call, s.after call)

end JobStore

end SyncLedger
