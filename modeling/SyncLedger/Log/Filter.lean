import SyncLedger.Log.Directive

/-!
# Log filters

A filter is a list of directives, at most one for each target and set of fields. The most
specific directive that covers a target decides; if none does, nothing is let through. At
the start of the program a filter is made of two texts: a list of directives for any
targets, and one level for the components of the platform. The level is not applied to a
component whose name followed by a sign of equality occurs in the list.

Directives about spans do not say anything about events outside of them, so a filter does
not hold them. It is only by being there that they keep errors from being let through.

How a list is read and how a filter decides is the behaviour of the logging library, taken as
given (`add`, `limit`, `ofText`). The rule of the program is how a filter is set up from the
two texts (`setLevels`, `Logging`).
-/

namespace SyncLedger

/-- Directives that hold outside of spans, no two for the same target and fields. -/
structure LogFilter where
  directives : List LogDirective
deriving DecidableEq

namespace LogFilter

/-- A directive takes the place of an earlier one for the same target and fields. -/
def add (f : LogFilter) (d : LogDirective) : LogFilter :=
  ⟨f.directives.filter (fun e => !e.sharesScope d) ++ [d]⟩

/-- The one of two directives that comes before the other. -/
def sharper (best : Option LogDirective) (d : LogDirective) : Option LogDirective :=
  match best with
  | none => some d
  | some b => if d.precedes b then some d else some b

/-- The directive that decides among those that a test admits. -/
def deciding? (f : LogFilter) (admits : LogDirective → Bool) : Option LogDirective :=
  (f.directives.filter admits).foldl sharper none

/-- The most verbose level that is let through for a target, whatever the fields of an
event. -/
def limit (f : LogFilter) (target : String) : LogLimit :=
  (f.deciding? fun d => d.covers target.toList).bind LogDirective.limit

/-- The most verbose level that is let through for events with fields of the given
names. -/
def eventLimit (f : LogFilter) (target : String) (names : List String) : LogLimit :=
  (f.deciding? fun d => d.covers target.toList && d.isMetBy (names.map String.toList)).bind
    LogDirective.limit

/-- The parts of a text between commas. -/
def pieces (cs : List Char) : List (List Char) := (cs.splitOn ',').filter fun p => !p.isEmpty

/-- A directive that can be read. -/
def readable? (cs : List Char) : Option LogDirective := (LogDirective.read cs).toOption

/-- The filter for a list of directives. What is no directive is dropped, and if nothing
is left, errors are let through. -/
def ofText (cs : List Char) : LogFilter :=
  match (pieces cs).filterMap readable? with
  | [] => ⟨[.plain none (some .error)]⟩
  | ds => (ds.filter LogDirective.isStatic).foldl add ⟨[]⟩

/-! ## The filter at the start -/

/-- The components of the platform, by the targets of their log events. -/
def components : List String :=
  ["controller", "feature_flags", "jobs", "monitoring", "protocol", "replication_config",
   "stream_status", "sync_stats", "worker"]

/-- A word occurs somewhere in a text. -/
def occurs (word : List Char) : List Char → Bool
  | [] => word.isEmpty
  | c :: cs => word.isPrefixOf (c :: cs) || occurs word cs

/-- A component and a sign of equality occur in a list of directives. -/
def mentions (directives : List Char) (component : String) : Bool :=
  occurs (component.toList ++ ['=']) directives

/-- The level of the components that the list does not mention is set, up to the first
one for which it cannot be read. -/
def setLevels (directives level : List Char) :
    List String → LogFilter → LogFilter × Option DirectiveError
  | [], f => (f, none)
  | component :: rest, f =>
    if mentions directives component then setLevels directives level rest f
    else
      match LogDirective.read (component.toList ++ '=' :: level) with
      | .ok d => setLevels directives level rest (f.add d)
      | .error e => (f, some e)

end LogFilter

/-- Logging as it is set up at the start. -/
structure Logging where
  filter : LogFilter
  /-- The level of the components, as it was given. -/
  level : String
  /-- Why the level was not applied. -/
  refused : Option DirectiveError

namespace Logging

/-- The level of the components when none is given. -/
def standardLevel : String := "info"

/-- Logging for a list of directives and a level for the components. -/
def setUp (directives level : Option String) : Logging :=
  let listed := (directives.getD "").toList
  let level := level.getD standardLevel
  let result := LogFilter.setLevels listed level.toList LogFilter.components (.ofText listed)
  ⟨result.1, level, result.2⟩

/-- The line about a level that was not applied. -/
def refusal? (l : Logging) : Option String :=
  l.refused.map fun e =>
    "ignoring invalid REPLICATION_LOG value '" ++ l.level ++ "': " ++ e.message

/-- The target of the event that announces the level, which has no field but its text. -/
def announcer : String := "monitoring::logging"

/-- The level that the first event announces, if that event is let through. -/
def announced? (l : Logging) : Option String :=
  if LogLimit.admits (l.filter.eventLimit announcer ["message"]) .info then some l.level
  else none

end Logging

end SyncLedger
