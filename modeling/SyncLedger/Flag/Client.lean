import SyncLedger.Flag
import SyncLedger.Log.Event

/-!
# Flag clients

A client evaluates flags and may fail to. What it remembers or talks to is a state `σ`
that every evaluation takes and hands on, so that a client may answer the same question
differently each time. `evaluateOrDefault` never fails: it reports a failure as a warning
and gives the default of the flag.
-/

namespace SyncLedger

/-- A flag could not be evaluated, for the reasons given, the nearest one first. -/
structure FlagEvaluationError where
  flag : Flag
  sources : List String
deriving DecidableEq

/-- The wording of a failed evaluation. -/
def FlagEvaluationError.message (e : FlagEvaluationError) : String :=
  "failed to evaluate flag '" ++ e.flag.key ++ "'"

/-- Evaluates flags, keeping a state of type `σ`. -/
structure FlagClient (σ : Type) where
  evaluate : Flag → FlagContext → σ → Except FlagEvaluationError Bool × σ

namespace FlagClient

variable {σ : Type}

/-- The warning about a failed evaluation. -/
def failure (flag : Flag) (context : FlagContext) (e : FlagEvaluationError) : LogEvent where
  level := .warn
  message := "flag evaluation failed, using default"
  fields :=
    [("flag", flag.key), ("workspace_id", context.workspaceId.text),
     ("connection_id", context.connectionId.text), ("default", toString flag.default),
     ("error", e.message), LogEvent.sourceField e.sources]

/-- The value that is used for the result of an evaluation. -/
def valueOrDefault (flag : Flag) : Except FlagEvaluationError Bool → Bool
  | .ok value => value
  | .error _ => flag.default

/-- What the log says about the result of an evaluation. -/
def report (flag : Flag) (context : FlagContext) : Except FlagEvaluationError Bool → List LogEvent
  | .ok _ => []
  | .error e => [failure flag context e]

/-- The value of a flag, or its default and a warning. -/
def evaluateOrDefault (client : FlagClient σ) (flag : Flag) (context : FlagContext) (s : σ) :
    Bool × List LogEvent × σ :=
  let result := client.evaluate flag context s
  (valueOrDefault flag result.1, report flag context result.1, result.2)

/-- The same client with a list of the evaluations that it was asked for, the latest
one last. -/
def recorded (client : FlagClient σ) : FlagClient (σ × List (Flag × FlagContext)) where
  evaluate flag context s :=
    let result := client.evaluate flag context s.1
    (result.1, result.2, s.2 ++ [(flag, context)])

end FlagClient

end SyncLedger
