import SyncLedger.Json.Decode

/-!
# Run states

How far a stream has come within a run. A stream is pending until something is seen of
it, then it runs, now and then throttled by its source, until it is complete or
incomplete. These last two states are terminal: nothing changes them.
-/

namespace SyncLedger

open Decode

/-- The state of a stream within a run. -/
inductive RunState where
  /-- Nothing was reported yet. -/
  | pending
  /-- The stream moves data. -/
  | running
  /-- The stream runs, but its source holds it back. -/
  | rateLimited
  /-- The stream stopped before all its data was moved. -/
  | incomplete
  /-- Everything the stream had was committed by the destination. -/
  | complete
deriving DecidableEq, Inhabited

namespace RunState

def name : RunState → String
  | .pending => "PENDING"
  | .running => "RUNNING"
  | .rateLimited => "RATE_LIMITED"
  | .incomplete => "INCOMPLETE"
  | .complete => "COMPLETE"

def all : List RunState := [.pending, .running, .rateLimited, .incomplete, .complete]

/-- Nothing leads out of this state. -/
def isTerminal : RunState → Bool
  | .incomplete | .complete => true
  | .pending | .running | .rateLimited => false

def decode : Decoder RunState := variant .document (named name all) none

def encode (s : RunState) : Json := .str s.name

theorem isTerminal_iff (s : RunState) : s.isTerminal = true ↔ s = .incomplete ∨ s = .complete := by
  cases s <;> decide

end RunState

end SyncLedger
