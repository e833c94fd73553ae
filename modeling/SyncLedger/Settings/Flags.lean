import SyncLedger.Flag.Rules

/-!
# Flag settings

Settings may give a default for each flag and a list of overrides. Turning them into
rules keeps the order of the overrides. An override that names neither a workspace nor a
connection has no effect; it is left out, and a warning says so.
-/

namespace SyncLedger

open Decode

/-- What settings say about flags. -/
structure FlagSettings where
  processRateLimitedMessages : Option Bool
  failSyncOnDestinationTimeout : Option Bool
  overrides : List FlagOverride
deriving DecidableEq

namespace FlagSettings

/-- Settings that say nothing. -/
def empty : FlagSettings := ⟨none, none, []⟩

instance : Inhabited FlagSettings := ⟨empty⟩

def decode (d : Dialect) : Decoder FlagSettings :=
  record d "FeatureFlagsConfig"
    ((nothing FlagSettings.mk).and (optional "process_rate_limited_messages" bool)
      |>.and (optional "fail_sync_on_destination_timeout" bool)
      |>.and (defaulted "overrides" (list (FlagOverride.decode d)) []))

/-- The default that is given for a flag. -/
def default? (s : FlagSettings) : Flag → Option Bool
  | .processRateLimitedMessages => s.processRateLimitedMessages
  | .failSyncOnDestinationTimeout => s.failSyncOnDestinationTimeout

/-- The override names a workspace or a connection. -/
def isBound (o : FlagOverride) : Bool := o.namesWorkspace || o.namesConnection

/-- Rules with the given defaults alone. -/
def defaults (s : FlagSettings) : FlagRules :=
  Flag.all.foldl (fun rules flag =>
    match s.default? flag with
    | some value => rules.withDefault flag value
    | none => rules) FlagRules.empty

/-- The rules that the settings stand for. -/
def rules (s : FlagSettings) : FlagRules :=
  (s.overrides.filter isBound).foldl FlagRules.withOverride s.defaults

/-- The warning about an override without effect. -/
def unbound (o : FlagOverride) : LogEvent where
  level := .warn
  message := "ignoring feature flag override without a workspace or connection id"
  fields := [("flag", o.flag.key)]

/-- The warnings about overrides without effect, in their order. -/
def warnings (s : FlagSettings) : List LogEvent :=
  (s.overrides.filter fun o => !isBound o).map unbound

end FlagSettings

end SyncLedger
