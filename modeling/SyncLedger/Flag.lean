import SyncLedger.Json.Decode

/-!
# Feature flags

Two decisions of the bookkeeping are left to feature flags. A flag is known by its key
and is evaluated for a workspace and a connection. Whoever cannot evaluate a flag uses
its default.
-/

namespace SyncLedger

open Decode

/-- A decision that can be switched per workspace or connection. -/
inductive Flag where
  /-- Rate limits reported by a source move the stream to the rate-limited state. -/
  | processRateLimitedMessages
  /-- A stalled destination fails the sync instead of only being reported. -/
  | failSyncOnDestinationTimeout
deriving DecidableEq

namespace Flag

/-- The name of a flag. -/
def key : Flag → String
  | .processRateLimitedMessages => "process-rate-limited-messages"
  | .failSyncOnDestinationTimeout => "fail-sync-on-destination-timeout"

def all : List Flag := [.processRateLimitedMessages, .failSyncOnDestinationTimeout]

/-- The value of a flag that nothing is said about. Every flag is off by default. -/
def default : Flag → Bool
  | .processRateLimitedMessages => false
  | .failSyncOnDestinationTimeout => false

def decode (d : Dialect) : Decoder Flag := variant d (named key all) none

theorem mem_all (f : Flag) : f ∈ all := by cases f <;> simp [all]

theorem default_eq_false (f : Flag) : f.default = false := by cases f <;> rfl

end Flag

/-- For whom a flag is evaluated. -/
structure FlagContext where
  workspaceId : Uuid
  connectionId : Uuid
deriving DecidableEq, Inhabited

end SyncLedger
