import SyncLedger.Counter
import SyncLedger.Flag.Client
import SyncLedger.Timeout.Polling

/-!
# Supervision of destination calls

A supervisor watches the calls of a destination while a task runs. Each run has a
watchdog of its own that polls the timers. When a call takes too long, a flag decides
whether the task is cancelled or goes on without supervision.

A watchdog that is told to stop, because its run has ended or the supervisor is closed,
says so in the log the next time it runs. Closing is for good: the watchdog of a run that
starts afterwards stops as soon as it begins.

There are two clocks. One is what the timers read. The other one tells who may stop
waiting: it is set by the first one whenever everybody stands back, but it stands still
while a task holds up the process.
-/

namespace SyncLedger

/-- What a supervisor works with. -/
structure Supervisor (σ : Type) where
  settings : TimeoutSettings
  context : FlagContext
  /-- Timeouts are counted. -/
  metered : Bool
  client : FlagClient σ

/-- How a watchdog ends. -/
inductive WatchdogEnd where
  /-- A call takes too long. -/
  | timedOut (call : DestinationCall)
  /-- It was told to stop. -/
  | stopped
  /-- Its first poll would be due at an instant that cannot be represented. -/
  | failed
deriving DecidableEq

/-- The watchdog of the current run. -/
inductive Watchdog where
  /-- It has not run yet. -/
  | fresh
  /-- It polls; the next poll is due at an instant. -/
  | polling (due : Nat)
  /-- It has ended, and nobody has taken notice yet. -/
  | ended (result : WatchdogEnd)
  /-- There is none, or its end was taken notice of. -/
  | none
deriving DecidableEq

namespace Watchdog

/-- The watchdog has not ended. -/
def isAlive : Watchdog → Bool
  | .fresh | .polling _ => true
  | .ended _ | .none => false

/-- The watchdog has ended, and nobody has taken notice. -/
def hasEnded : Watchdog → Bool
  | .ended _ => true
  | .fresh | .polling _ | .none => false

end Watchdog

/-- A watchdog that was told to stop and has not run since. -/
structure Stopping where
  /-- It had not run before either. -/
  isFresh : Bool
deriving DecidableEq

/-- The state of a supervisor. Instants are nanoseconds; the clocks stand at whole
milliseconds. -/
structure Supervision (σ : Type) where
  now : Nat
  /-- The instant for which everybody who waits has been called. -/
  called : Nat
  /-- A task has stood back since everybody was called, even if it was given up then. -/
  stoodBack : Bool
  timers : Timers
  acceptTimeouts : Counter
  notifyTimeouts : Counter
  /-- Some run was started. -/
  hasRun : Bool
  closed : Bool
  /-- The watchdogs of earlier runs that have not run since they were told to stop. -/
  stopping : List Stopping
  watchdog : Watchdog
  flags : σ
  events : List LogEvent

namespace Supervision

variable {σ : Type}

/-- A supervisor that was just created. -/
def initial (flags : σ) : Supervision σ where
  now := 0
  called := 0
  stoodBack := false
  timers := .stopped
  acceptTimeouts := .zero
  notifyTimeouts := .zero
  hasRun := false
  closed := false
  stopping := []
  watchdog := .none
  flags := flags
  events := []

/-- Writes to the log. -/
def log (s : Supervision σ) (e : LogEvent) : Supervision σ := { s with events := s.events ++ [e] }

/-- Counts a timeout. -/
def count (s : Supervision σ) : DestinationCall → Supervision σ
  | .accept => { s with acceptTimeouts := s.acceptTimeouts.increment }
  | .notifyEndOfInput => { s with notifyTimeouts := s.notifyTimeouts.increment }

/-- Some watchdog has not ended. -/
def hasLiveWatchdog (s : Supervision σ) : Bool := s.watchdog.isAlive || !s.stopping.isEmpty

end Supervision

namespace Supervisor

variable {σ : Type}

/-! ## What the log says -/

/-- The note of a watchdog that was told to stop. -/
def stoppingEvent : LogEvent := ⟨.debug, "stopping destination timeout watchdog", []⟩

/-- The error of a watchdog that found a call to take too long. -/
def overdue (sv : Supervisor σ) (call : DestinationCall) : LogEvent where
  level := .error
  message := "destination call timed out"
  fields := [("call", call.text), ("connection_id", sv.context.connectionId.text)]

/-- The error about a task that is cancelled. -/
def cancelling (sv : Supervisor σ) (call : DestinationCall) : LogEvent where
  level := .error
  message := "destination timed out, cancelling the sync"
  fields :=
    [("call", call.text), ("timeout", sv.settings.timeout.text),
     ("connection_id", sv.context.connectionId.text)]

/-- The note about a task that goes on although a call takes too long. -/
def tolerating (sv : Supervisor σ) (call : DestinationCall) : LogEvent where
  level := .info
  message := "destination timed out, but failing the sync is disabled for this connection"
  fields :=
    [("call", call.text), ("workspace_id", sv.context.workspaceId.text),
     ("connection_id", sv.context.connectionId.text)]

/-- The note about a run whose watchdog was told to stop. -/
def interrupted : LogEvent := ⟨.info, "destination timeout supervision interrupted", []⟩

/-- The warning about a watchdog that could not begin. -/
def failure : LogEvent where
  level := .warn
  message := "destination timeout watchdog failed"
  fields := [LogEvent.sourceField []]

/-- The warning about a watchdog that closing did not wait for. -/
def impatient (sv : Supervisor σ) : LogEvent where
  level := .warn
  message := "destination timeout watchdog did not stop in time"
  fields := [("grace", sv.settings.shutdownGrace.text)]

/-- The wording of the error with which a cancelled task ends. -/
def timeoutMessage (sv : Supervisor σ) (call : DestinationCall) : String :=
  "destination timed out: " ++ call.text ++ " call did not return within "
    ++ sv.settings.timeout.text

/-! ## The watchdogs -/

/-- Instants have fewer seconds than this. The clock is idealised: it begins when the timers are
created, where a real one has run before and comes to its limit that much earlier. -/
def clockLimit : Nat := 0x8000000000000000

/-- The instant at which the first poll of a watchdog is due that begins now, if the idealised
clock gets there (`clockLimit`). -/
def firstPoll? (sv : Supervisor σ) (now : Nat) : Option Nat :=
  if (now + sv.settings.period) / Duration.perSecond < clockLimit then
    some (now + sv.settings.period)
  else none

/-- What a watchdog logs that was told to stop: nothing if it could not even begin. -/
def farewell (sv : Supervisor σ) (now : Nat) (w : Stopping) : List LogEvent :=
  if w.isFresh && (sv.firstPoll? now).isNone then [] else [stoppingEvent]

/-- The watchdogs that were told to stop end. -/
def endStopping (sv : Supervisor σ) (s : Supervision σ) : Supervision σ :=
  { s with
    stopping := []
    events := s.events ++ s.stopping.flatMap (sv.farewell s.now) }

/-- The watchdog ends because it was told to. -/
def halt (s : Supervision σ) : Supervision σ :=
  { s.log stoppingEvent with watchdog := .ended .stopped }

/-- The watchdog has found that a call takes too long. -/
def expire (sv : Supervisor σ) (call : DestinationCall) (s : Supervision σ) : Supervision σ :=
  let s := s.log (sv.overdue call)
  { (if sv.metered then s.count call else s) with watchdog := .ended (.timedOut call) }

/-- The watchdog of the current run begins if it has not, ends if the supervisor is
closed, and otherwise does the polls it was called for.

If it is told to stop and a poll is due when it gets to run, it may follow either one first.
This is settled here in favour of stopping: it does no poll any more. -/
def rouse (sv : Supervisor σ) (s : Supervision σ) : Supervision σ :=
  match s.watchdog with
  | .fresh =>
    match sv.firstPoll? s.now with
    | none => { s with watchdog := .ended .failed }
    | some due => if s.closed then halt s else { s with watchdog := .polling due }
  | .polling due =>
    if s.closed then halt s
    else
      match Polling.catchUp sv.settings s.timers s.called s.now due with
      | .timedOut call _ => sv.expire call s
      | .waiting due => { s with watchdog := .polling due }
  | .ended _ | .none => s

/-- All watchdogs do what they can. -/
def watch (sv : Supervisor σ) (s : Supervision σ) : Supervision σ := sv.rouse (sv.endStopping s)

/-- The clock goes on to an instant, and everybody is called for it. -/
def callAt (instant : Nat) (s : Supervision σ) : Supervision σ :=
  { s with now := instant, called := max s.called instant, stoodBack := false }

/-- The watchdog polls before a limit, if there is one, while nobody else goes on. -/
def poll (sv : Supervisor σ) (limit : Option Nat) (s : Supervision σ) : Supervision σ :=
  match s.watchdog with
  | .polling due =>
    match Polling.before sv.settings s.timers limit s.now due with
    | .timedOut call instant => sv.expire call (callAt instant s)
    | .waiting due => { s with watchdog := .polling due }
  | .fresh | .ended _ | .none => s

/-! ## The run and the end of its watchdog -/

/-- A run takes notice of the end of its watchdog. If a call took too long, the flag
decides whether the task goes on; the call is given if it does not. -/
def attend (sv : Supervisor σ) (s : Supervision σ) : Option DestinationCall × Supervision σ :=
  match s.watchdog with
  | .ended (.timedOut call) =>
    let result := sv.client.evaluateOrDefault .failSyncOnDestinationTimeout sv.context s.flags
    let next : Supervision σ :=
      { s with flags := result.2.2, events := s.events ++ result.2.1, watchdog := .none }
    if result.1 then (some call, next.log (sv.cancelling call))
    else (none, next.log (sv.tolerating call))
  | .ended .stopped => (none, { s.log interrupted with watchdog := .none })
  | .ended .failed => (none, { s.log failure with watchdog := .none })
  | .fresh | .polling _ | .none => (none, s)

/-- A run begins: it gets a watchdog of its own. -/
def beginRun (s : Supervision σ) : Supervision σ := { s with hasRun := true, watchdog := .fresh }

/-- The watchdog of a run as one that is told to stop, if it has not ended. -/
def dismissed : Watchdog → List Stopping
  | .fresh => [⟨true⟩]
  | .polling _ => [⟨false⟩]
  | .ended _ | .none => []

/-- A run has ended, and its watchdog is told to stop. -/
def endRun (s : Supervision σ) : Supervision σ :=
  { s with stopping := s.stopping ++ dismissed s.watchdog, watchdog := .none }

/-! ## Closing -/

/-- Without any grace, closing does not wait for the watchdogs, unless nobody has been
called since the clock went on. -/
def isImpatient (sv : Supervisor σ) (s : Supervision σ) : Bool :=
  s.hasLiveWatchdog && sv.settings.shutdownGrace.nanos = 0 && s.now ≤ s.called

/-- Tells all watchdogs to stop. -/
def tellToStop (sv : Supervisor σ) (s : Supervision σ) : Supervision σ :=
  if !s.hasRun then s
  else if sv.isImpatient s then { s.log sv.impatient with closed := true }
  else { s with closed := true }

/-- Closing waits until all watchdogs have ended. -/
def closingWaits (sv : Supervisor σ) (s : Supervision σ) : Bool :=
  s.hasRun && s.hasLiveWatchdog && !sv.isImpatient s

end Supervisor

end SyncLedger
