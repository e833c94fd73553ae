import SyncLedger.Timeout.Task

/-!
# Sessions

Two parties act on a supervisor. A run carries out a task; it may be given up after some
time, and it takes notice of the end of its watchdog. A closer waits for some time and
then closes the supervisor. A session takes turns: both parties go as far as they can, one
after the other, then the watchdogs do. Which party goes first changes from turn to turn.

Between two turns time passes. If somebody can go on at once, because the task only stood
back or because of something the watchdogs did, everybody is called for the present
instant. Otherwise the clock goes on to the next instant that a party waits for, or to the
poll before it that finds something.
-/

namespace SyncLedger

/-- Why a task was not carried through. -/
inductive Interruption where
  /-- A call took too long. -/
  | timedOut (call : DestinationCall)
  /-- The run was given up. -/
  | abandoned
  /-- The task waits for something that never happens. -/
  | unending
deriving DecidableEq

/-- What became of a run. -/
structure RunOutcome where
  /-- Whether the task was carried through. -/
  result : Except Interruption Unit
  /-- The instant at which the run ended. -/
  endedAt : Nat

/-- Somebody who closes the supervisor. -/
inductive Closer where
  /-- There is nobody. -/
  | absent
  /-- The closer has not begun to wait; the time to wait is given. -/
  | fresh (delay : Nat)
  /-- The closer waits for an instant. -/
  | waiting (instant : Nat)
  /-- The closer has told all watchdogs to stop and waits for their end. -/
  | closing
  /-- The supervisor was closed at an instant. -/
  | done (instant : Nat)
deriving DecidableEq

namespace Closer

/-- The closer has nothing left to do. -/
def isDone : Closer → Bool
  | .absent | .done _ => true
  | .fresh _ | .waiting _ | .closing => false

/-- The instant at which the supervisor was closed. -/
def closedAt? : Closer → Option Nat
  | .done instant => some instant
  | .absent | .fresh _ | .waiting _ | .closing => none

/-- The instant that the closer waits for. -/
def target? : Closer → Option Nat
  | .waiting instant => some instant
  | .absent | .fresh _ | .closing | .done _ => none

end Closer

/-- A supervisor and the parties that act on it. -/
structure Session (σ : Type) where
  state : Supervision σ
  task : TaskState
  /-- The instants at which the steps of the task were done. -/
  trace : List Nat
  /-- The instant at which the run is given up. -/
  abandonAt : Option Nat
  /-- What became of the run, once it has ended. -/
  outcome : Option RunOutcome
  closer : Closer
  /-- The closer goes first the next time. -/
  isCloserFirst : Bool

/-- An instant is there and has come. -/
def hasCome (instant : Option Nat) (called : Nat) : Bool :=
  match instant with
  | some i => i ≤ called
  | none => false

namespace Session

variable {σ : Type}

/-- Nobody has anything left to do. -/
def isDone (x : Session σ) : Bool := x.outcome.isSome && x.closer.isDone

/-- The run ends, and its watchdog is told to stop. -/
def finish (x : Session σ) (result : Except Interruption Unit) : Session σ :=
  { x with outcome := some ⟨result, x.state.now⟩, state := Supervisor.endRun x.state }

/-- The run ends if its task has been carried through, or if it is to be given up. -/
def settle (x : Session σ) : Session σ :=
  if x.task = .finished then x.finish (.ok ())
  else if hasCome x.abandonAt x.state.called then x.finish (.error .abandoned)
  else x

end Session

namespace Supervisor

variable {σ : Type}

/-- The run lets its task go on. -/
def goOn (sv : Supervisor σ) (x : Session σ) : Session σ :=
  let p := sv.resume x.task x.state
  { x with task := p.task, trace := x.trace ++ p.trace, state := p.state }

/-- The run takes notice of the end of its watchdog, and the task goes on at once or is
cancelled. -/
def heed (sv : Supervisor σ) (x : Session σ) : Session σ :=
  let noticed := sv.attend x.state
  match noticed.1 with
  | some call => { x with state := noticed.2 }.finish (.error (.timedOut call))
  | none => (sv.goOn { x with state := noticed.2 }).settle

/-- The run goes as far as it can. Its task comes before the end of its watchdog, and both
come before it is given up. -/
def runTurn (sv : Supervisor σ) (x : Session σ) : Session σ :=
  if x.outcome.isSome then x
  else
    let y := sv.goOn x
    if y.task ≠ .finished ∧ y.state.watchdog.hasEnded then sv.heed y else y.settle

/-- The closer waits for an instant; if it has come, the closer closes the supervisor. -/
def closeAt (sv : Supervisor σ) (instant : Nat) (s : Supervision σ) : Closer × Supervision σ :=
  if instant ≤ s.called then
    (if sv.closingWaits s then .closing else .done s.now, sv.tellToStop s)
  else (.waiting instant, s)

/-- What a closer does who goes as far as possible. -/
def act (sv : Supervisor σ) (closer : Closer) (s : Supervision σ) : Closer × Supervision σ :=
  match closer with
  | .fresh delay => sv.closeAt (s.now + delay) s
  | .waiting instant => sv.closeAt instant s
  | .closing => (if s.hasLiveWatchdog then .closing else .done s.now, s)
  | .absent => (.absent, s)
  | .done instant => (.done instant, s)

/-- The closer goes as far as possible. -/
def closerTurn (sv : Supervisor σ) (x : Session σ) : Session σ :=
  let acted := sv.act x.closer x.state
  { x with closer := acted.1, state := acted.2 }

/-- Both parties go as far as they can. -/
def turn (sv : Supervisor σ) (x : Session σ) : Session σ :=
  let y := if x.isCloserFirst then sv.runTurn (sv.closerTurn x) else sv.closerTurn (sv.runTurn x)
  { y with isCloserFirst := !x.isCloserFirst }

/-- The watchdogs go as far as they can. -/
def watchTurn (sv : Supervisor σ) (x : Session σ) : Session σ :=
  { x with state := sv.watch x.state }

end Supervisor

/-! ## Between turns -/

/-- The earlier of two instants that may be missing. -/
def earlier : Option Nat → Option Nat → Option Nat
  | some a, some b => some (min a b)
  | some a, none => some a
  | none, b => b

namespace TaskState

/-- The instant that the task waits for. -/
def target? : TaskState → Option Nat
  | .holding (.moment instant) _ => some instant
  | _ => none

/-- The task waits for the end of all watchdogs. -/
def awaitsWatchdogs : TaskState → Bool
  | .holding .watchdogs _ => true
  | _ => false

end TaskState

namespace Session

variable {σ : Type}

/-- Somebody waits for the end of all watchdogs. -/
def awaitsWatchdogs (x : Session σ) : Bool :=
  x.outcome.isNone && x.task.awaitsWatchdogs || x.closer = .closing

/-- Somebody goes on because of what the watchdogs did. -/
def isRoused (x : Session σ) : Bool :=
  x.outcome.isNone && x.state.watchdog.hasEnded || x.awaitsWatchdogs && !x.state.hasLiveWatchdog

/-- Some party goes on at once. -/
def isAwake (x : Session σ) : Bool := x.state.stoodBack || x.isRoused

/-- The next instant that a party waits for. -/
def nextInstant? (x : Session σ) : Option Nat :=
  earlier (if x.outcome.isNone then earlier x.task.target? x.abandonAt else none) x.closer.target?

end Session

namespace Supervisor

variable {σ : Type}

/-- The watchdog polls as long as no party goes on. -/
def pollTurn (sv : Supervisor σ) (x : Session σ) : Session σ :=
  { x with state := sv.poll x.nextInstant? x.state }

/-- Everybody is called for an instant, or for the present one if that is later. -/
def callTurn (instant : Nat) (x : Session σ) : Session σ :=
  { x with state := callAt (max x.state.now instant) x.state }

/-- Time passes until some party goes on; none if that never happens. -/
def pass? (sv : Supervisor σ) (x : Session σ) : Option (Session σ) :=
  if x.isAwake then some (callTurn x.state.now x)
  else
    let y := sv.pollTurn x
    if y.isRoused then some y else y.nextInstant?.map fun instant => callTurn instant y

end Supervisor

end SyncLedger
