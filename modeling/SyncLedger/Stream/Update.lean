import SyncLedger.Flag
import SyncLedger.Job.Basic
import SyncLedger.Log.Event
import SyncLedger.Stream.Key
import SyncLedger.Stream.Status

/-!
# Updates

When a stream moves to another run state, an update tells the rest of the platform. An
emitter takes updates and never fails: what cannot be delivered is its own affair. An
emitter may do nothing, keep what it gets, or put it into a channel for somebody else.
-/

namespace SyncLedger

/-- The run that statuses are reported for. -/
structure RunContext where
  workspaceId : Uuid
  connectionId : Uuid
  jobId : JobId
  attemptNumber : AttemptNumber
deriving DecidableEq, Inhabited

/-- Flags are evaluated for the workspace and the connection of the run. -/
def RunContext.flagContext (c : RunContext) : FlagContext := ⟨c.workspaceId, c.connectionId⟩

/-- A stream moved to another run state. -/
structure StreamStatusUpdate where
  key : StreamKey
  runState : RunState
  metadata : Option RateLimitedInfo
  context : RunContext
  transitionedAt : DateTime
deriving DecidableEq

/-- Takes updates, keeping a state of type `ε`, and says what it did in the log. -/
structure Emitter (ε : Type) where
  emit : StreamStatusUpdate → ε → List LogEvent × ε

/-- The way from the one who emits updates to the one who consumes them: what was sent
and not received yet, and whether somebody still receives. -/
structure UpdateChannel where
  isOpen : Bool
  queue : List StreamStatusUpdate

namespace UpdateChannel

/-- A channel with nothing in it. -/
def empty : UpdateChannel := ⟨true, []⟩

/-- A channel whose receiver is gone. -/
def closed : UpdateChannel := ⟨false, []⟩

end UpdateChannel

namespace Emitter

variable {ε : Type}

/-- Drops every update. -/
def silent : Emitter Unit where
  emit _ s := ([], s)

/-- Keeps every update, the latest one last. -/
def recording : Emitter (List StreamStatusUpdate) where
  emit u us := ([], us ++ [u])

/-- The note about an update that nobody will receive. -/
def discarded (u : StreamStatusUpdate) : LogEvent where
  level := .debug
  message := "status receiver dropped, discarding update"
  fields := [("stream", u.key.text), ("run_state", u.runState.name)]

/-- Sends every update through a channel, first in, first out. -/
def channel : Emitter UpdateChannel where
  emit u c :=
    if c.isOpen then ([], { c with queue := c.queue ++ [u] }) else ([discarded u], c)

/-- Emits one update after another. -/
def emitAll (e : Emitter ε) : List StreamStatusUpdate → ε → List LogEvent × ε
  | [], s => ([], s)
  | u :: us, s =>
    let first := e.emit u s
    let rest := e.emitAll us first.2
    (first.1 ++ rest.1, rest.2)

end Emitter

/-- Everything that is left in a channel nobody sends to any more, taken by another emitter. It
stands for a consumer that only begins after the last update was sent. -/
def UpdateChannel.drain {ε : Type} (c : UpdateChannel) (e : Emitter ε) (s : ε) :
    List LogEvent × ε × UpdateChannel :=
  let result := e.emitAll c.queue s
  (result.1, result.2, { c with queue := [] })

end SyncLedger
