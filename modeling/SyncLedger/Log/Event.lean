import SyncLedger.Text.Quoted

/-!
# Log events

Every part of the bookkeeping that decides something says so in a log event. Events are
data: an operation returns the events it causes in the order in which they occur, and
whoever runs it decides what becomes of them.
-/

namespace SyncLedger

/-- How important a log event is. -/
inductive LogLevel where
  | error
  | warn
  | info
  | debug
  | trace
deriving DecidableEq

namespace LogLevel

def name : LogLevel → String
  | .error => "ERROR"
  | .warn => "WARN"
  | .info => "INFO"
  | .debug => "DEBUG"
  | .trace => "TRACE"

/-- Levels as numbers; a more important level has a lesser number. -/
def verbosity : LogLevel → Nat
  | .error => 1
  | .warn => 2
  | .info => 3
  | .debug => 4
  | .trace => 5

end LogLevel

/-- One log event: its level, its message and its named values as texts. -/
structure LogEvent where
  level : LogLevel
  message : String
  fields : List (String × String)
deriving DecidableEq

namespace LogEvent

/-- The event of an operation that ends with an error. -/
def failed (error : String) : LogEvent := ⟨.error, "", [("error", error)]⟩

/-- The field that shows the causes of an error, the nearest one first. -/
def sourceField (sources : List String) : String × String :=
  ("error_source", Text.quoteList sources)

end LogEvent

end SyncLedger
