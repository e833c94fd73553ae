import SyncLedger.Flag.Client
import SyncLedger.Table

/-!
# Flag values from settings

Settings give a default for a flag and overrides for single workspaces and connections.
An override that names a connection comes before one that names only a workspace, and
both come before the default; of several of one kind the first one given counts. An
override that names both needs both to match, and one that names neither has no effect.
-/

namespace SyncLedger

open Decode

/-- The value of a flag for a workspace, a connection, or both. -/
structure FlagOverride where
  flag : Flag
  workspaceId : Option Uuid
  connectionId : Option Uuid
  value : Bool
deriving DecidableEq

namespace FlagOverride

def decode (d : Dialect) : Decoder FlagOverride :=
  record d "FlagOverride"
    ((nothing FlagOverride.mk).and (required "flag" (Flag.decode d))
      |>.and (optional "workspace_id" (uuidOrBytes d))
      |>.and (optional "connection_id" (uuidOrBytes d))
      |>.and (required "value" bool))

/-- An identifier is free or the given one. -/
def admits (named : Option Uuid) (id : Uuid) : Bool :=
  match named with
  | none => true
  | some n => n = id

/-- The override is about the flag, and the identifiers it names are those of the
context. -/
def applies (o : FlagOverride) (flag : Flag) (context : FlagContext) : Bool :=
  o.flag = flag && admits o.workspaceId context.workspaceId
    && admits o.connectionId context.connectionId

/-- The override names a connection. -/
def namesConnection (o : FlagOverride) : Bool := o.connectionId.isSome

/-- The override names a workspace. -/
def namesWorkspace (o : FlagOverride) : Bool := o.workspaceId.isSome

end FlagOverride

/-- Values for flags. -/
structure FlagRules where
  defaults : Table Flag Bool
  overrides : List FlagOverride

namespace FlagRules

/-- No values: every flag has its default. -/
def empty : FlagRules := ⟨Table.empty, []⟩

instance : Inhabited FlagRules := ⟨empty⟩

/-- Gives a flag another default. -/
def withDefault (r : FlagRules) (flag : Flag) (value : Bool) : FlagRules :=
  { r with defaults := r.defaults.insert flag value }

/-- Adds an override after those given before. -/
def withOverride (r : FlagRules) (o : FlagOverride) : FlagRules :=
  { r with overrides := r.overrides ++ [o] }

/-- The overrides that apply. -/
def applicable (r : FlagRules) (flag : Flag) (context : FlagContext) : List FlagOverride :=
  r.overrides.filter fun o => o.applies flag context

/-- The override that decides, if there is one. -/
def deciding? (r : FlagRules) (flag : Flag) (context : FlagContext) : Option FlagOverride :=
  ((r.applicable flag context).find? FlagOverride.namesConnection).or
    ((r.applicable flag context).find? FlagOverride.namesWorkspace)

/-- The value of a flag. -/
def resolve (r : FlagRules) (flag : Flag) (context : FlagContext) : Bool :=
  match r.deciding? flag context with
  | some o => o.value
  | none => (r.defaults.get? flag).getD flag.default

end FlagRules

/-- A flag service: the values it would give, and the flags it cannot answer for. -/
structure FlagService where
  rules : FlagRules
  unavailable : List Flag
deriving Inhabited

namespace FlagService

/-- Asks the service as it is now. -/
def client : FlagClient FlagService where
  evaluate flag context s :=
    if s.unavailable.contains flag then
      (.error ⟨flag, ["flag service unavailable"]⟩, s)
    else (.ok (s.rules.resolve flag context), s)

end FlagService

end SyncLedger
