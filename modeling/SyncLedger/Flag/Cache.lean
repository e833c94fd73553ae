import SyncLedger.Flag.Client
import SyncLedger.Table

/-!
# Remembered flag values

A cache in front of a client remembers the value of every flag and context it has seen,
until it is cleared. A failed evaluation is not remembered, so that the client is asked
again the next time.
-/

namespace SyncLedger

/-- The remembered values. -/
abbrev FlagCache := Table (Flag × FlagContext) Bool

namespace FlagCache

variable {σ : Type}

/-- The cache after an evaluation of the client behind it. -/
def remember (cache : FlagCache) (flag : Flag) (context : FlagContext) :
    Except FlagEvaluationError Bool → FlagCache
  | .ok value => Table.insert cache (flag, context) value
  | .error _ => cache

/-- The cache after everything was dropped. -/
def clear (_ : FlagCache) : FlagCache := Table.empty

/-- A client that asks the one behind it only for what it does not remember. -/
def inFrontOf (inner : FlagClient σ) : FlagClient (FlagCache × σ) where
  evaluate flag context s :=
    match Table.get? s.1 (flag, context) with
    | some value => (.ok value, s)
    | none =>
      let result := inner.evaluate flag context s.2
      (result.1, remember s.1 flag context result.1, result.2)

end FlagCache

end SyncLedger
