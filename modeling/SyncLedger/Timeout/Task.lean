import SyncLedger.Timeout.Supervisor

/-!
# Tasks

A task starts and stops timers, waits, holds up the process, or closes the supervisor. It
goes on from step to step until a step has to wait; whenever the task gets to run again,
it finds out whether the waiting is over.
-/

namespace SyncLedger

/-- A step of a task. Times are milliseconds. -/
inductive TaskStep where
  /-- A call of the destination begins. -/
  | start (call : DestinationCall)
  /-- A call of the destination has returned. -/
  | reset (call : DestinationCall)
  /-- Waits; everything else goes on. -/
  | sleep (millis : Nat)
  /-- Holds up the whole process, then stands back until everybody else has caught up. -/
  | block (millis : Nat)
  /-- Waits for something that never happens. -/
  | pending
  /-- Closes the supervisor. -/
  | close
deriving DecidableEq

/-- What a step waits for. -/
inductive Hold where
  /-- An instant. -/
  | moment (instant : Nat)
  /-- That the task gets to run again a number of times. -/
  | turns (count : Nat)
  /-- That all watchdogs have ended. -/
  | watchdogs
  /-- Something that never happens. -/
  | forever
deriving DecidableEq

namespace Hold

variable {σ : Type}

/-- There is nothing left to wait for. -/
def isOver (s : Supervision σ) : Hold → Bool
  | .moment instant => instant ≤ s.called
  | .turns count => count = 0
  | .watchdogs => !s.hasLiveWatchdog
  | .forever => false

/-- What is left to wait for when the task gets to run again. -/
def next : Hold → Hold
  | .turns count => .turns (count - 1)
  | .moment instant => .moment instant
  | .watchdogs => .watchdogs
  | .forever => .forever

/-- The task waits; with turns left it only stands back. -/
def wait (s : Supervision σ) : Hold → Supervision σ
  | .turns _ => { s with stoodBack := true }
  | .moment _ | .watchdogs | .forever => s

end Hold

/-- How far a task has come. -/
inductive TaskState where
  /-- The next step is about to begin. -/
  | ready (steps : List TaskStep)
  /-- A step waits; the others come after it. -/
  | holding (hold : Hold) (steps : List TaskStep)
  | finished
deriving DecidableEq

/-- What came of letting a task run: how far it has come now, and the instants at which
steps were done. -/
structure TaskProgress (σ : Type) where
  task : TaskState
  trace : List Nat
  state : Supervision σ

namespace Supervisor

variable {σ : Type}

/-- The instant a number of milliseconds from now. -/
def later (s : Supervision σ) (millis : Nat) : Nat := s.now + millis * Duration.perMillisecond

/-- How often a task stands back after it has held up the process: often enough for
everything that has become due to happen, and for the run to take notice of it. -/
def settlingTurns : Nat := 5

/-- Begins a step, and says what it has to wait for. -/
def beginStep (sv : Supervisor σ) (step : TaskStep) (s : Supervision σ) : Hold × Supervision σ :=
  match step with
  | .start call => (.turns 0, { s with timers := s.timers.start call s.now })
  | .reset call => (.turns 0, { s with timers := s.timers.reset call })
  | .sleep millis => (.moment (later s millis), s)
  | .block millis => (.turns settlingTurns, { s with now := later s millis })
  | .pending => (.forever, s)
  | .close => (if sv.closingWaits s then .watchdogs else .turns 0, sv.tellToStop s)

/-- Carries out steps until one has to wait. -/
def carryOn (sv : Supervisor σ) : List TaskStep → Supervision σ → TaskProgress σ
  | [], s => ⟨.finished, [], s⟩
  | step :: steps, s =>
    let begun := sv.beginStep step s
    if begun.1.isOver begun.2 then
      let rest := sv.carryOn steps begun.2
      { rest with trace := begun.2.now :: rest.trace }
    else ⟨.holding begun.1 steps, [], begun.1.wait begun.2⟩

/-- Lets a task run. -/
def resume (sv : Supervisor σ) (task : TaskState) (s : Supervision σ) : TaskProgress σ :=
  match task with
  | .ready steps => sv.carryOn steps s
  | .holding hold steps =>
    if hold.next.isOver s then
      let rest := sv.carryOn steps s
      { rest with trace := s.now :: rest.trace }
    else ⟨.holding hold.next steps, [], hold.next.wait s⟩
  | .finished => ⟨.finished, [], s⟩

end Supervisor

end SyncLedger
