import SyncLedger.Timeout.Progress

/-!
# Runs under supervision

A session takes turns until nobody has anything left to do, or until it turns out that
somebody waits for something that never happens. A run is the session of a task with a
watchdog of its own and perhaps a closer. Outside of a run, a single step is a session as
well, without a watchdog.
-/

namespace SyncLedger

/-- A task to be carried out under supervision. Times are milliseconds. -/
structure RunPlan where
  task : List TaskStep
  /-- When the run is given up, counted from its beginning. -/
  abandonAfter : Option Nat
  /-- When the supervisor is closed, counted from the beginning of the run. -/
  closeAfter : Option Nat

/-- What became of a run. -/
structure RunReport where
  /-- Whether the task was carried through. -/
  result : Except Interruption Unit
  /-- The instant at which the run ended. -/
  endedAt : Nat
  /-- The instant at which the supervisor was closed beside the run. -/
  closedAt : Option Nat
  /-- The instants at which the steps of the task were done. -/
  trace : List Nat

namespace Closer

/-- A closer who waits for a number of milliseconds, if there is one. -/
def ofDelay : Option Nat → Closer
  | some millis => .fresh (millis * Duration.perMillisecond)
  | none => .absent

end Closer

namespace Session

variable {σ : Type}

/-- A session that carries out steps and does nothing else. -/
def ofTask (steps : List TaskStep) (s : Supervision σ) : Session σ where
  state := s
  task := .ready steps
  trace := []
  abandonAt := none
  outcome := none
  closer := .absent
  isCloserFirst := false

/-- Nothing happens any more; a task that has not ended never does. -/
def giveUp (x : Session σ) : Session σ :=
  if x.outcome.isSome then x else x.finish (.error .unending)

/-- What became of a run, from the session at its end. -/
def report (x : Session σ) : RunReport :=
  let outcome := x.outcome.getD ⟨.error .unending, x.state.now⟩
  ⟨outcome.result, outcome.endedAt, x.closer.closedAt?, x.trace⟩

end Session

namespace Supervisor

variable {σ : Type}

/-- Takes turns until nobody has anything left to do. -/
def proceed (sv : Supervisor σ) (x : Session σ) : Session σ :=
  let y := sv.turn x
  if y.isDone then y
  else
    match _h : sv.pass? (sv.watchTurn (sv.turn x)) with
    | some z => sv.proceed z
    | none => (sv.watchTurn y).giveUp
termination_by x.weight
decreasing_by exact pass?_weight_lt _h

/-- The session of a run at its beginning. -/
def openRun (plan : RunPlan) (s : Supervision σ) : Session σ :=
  { Session.ofTask plan.task (beginRun s) with
    abandonAt := plan.abandonAfter.map (later s)
    closer := .ofDelay plan.closeAfter }

/-- Carries out a plan under supervision. -/
def run (sv : Supervisor σ) (plan : RunPlan) (s : Supervision σ) : RunReport × Supervision σ :=
  let x := sv.proceed (openRun plan s)
  (x.report, x.state)

/-- Carries out a single step outside of a run. -/
def perform (sv : Supervisor σ) (step : TaskStep) (s : Supervision σ) : Supervision σ :=
  (sv.proceed (.ofTask [step] s)).state

end Supervisor

end SyncLedger
