import SyncLedger.Settings.Flags
import SyncLedger.Settings.Telemetry
import SyncLedger.Timeout.Settings

/-!
# Settings files

A settings file has three sections, each of which may be missing: the supervision of
destinations, the flags, and telemetry. The spans of the first are given in seconds; one
that is missing or null has its standard value.
-/

namespace SyncLedger

open Decode

/-- A span in seconds with a value for the case that none is given. -/
def secondsOr (name : String) (otherwise : Duration) : Decode.Field Duration :=
  defaulted name (fun j => (option seconds j).map (·.getD otherwise)) otherwise

/-- The section about the supervision of destinations. -/
def TimeoutSettings.decode (d : Dialect) : Decoder TimeoutSettings :=
  record d "DestinationTimeoutConfig"
    ((nothing TimeoutSettings.mk).and (secondsOr "poll_interval_secs" standard.pollInterval)
      |>.and (secondsOr "timeout_secs" standard.timeout)
      |>.and (secondsOr "shutdown_grace_secs" standard.shutdownGrace))

/-- What a settings file says. -/
structure SettingsFile where
  destinationTimeout : TimeoutSettings
  featureFlags : FlagSettings
  telemetry : Option TelemetrySettings
deriving DecidableEq

/-- Settings in the form in which they are used. -/
structure Settings where
  destinationTimeout : TimeoutSettings
  flags : FlagRules
  telemetry : Option TelemetrySettings

namespace SettingsFile

def decode (d : Dialect) : Decoder SettingsFile :=
  record d "ConfigFile"
    ((nothing SettingsFile.mk).and
        (defaulted "destination_timeout" (TimeoutSettings.decode d) TimeoutSettings.standard)
      |>.and (defaulted "feature_flags" (FlagSettings.decode d) FlagSettings.empty)
      |>.and (nullable "opentelemetry" (TelemetrySettings.decode d)))

/-- The settings that a file stands for. -/
def settings (f : SettingsFile) : Settings :=
  ⟨f.destinationTimeout, f.featureFlags.rules, f.telemetry⟩

/-- What the log says about a file. -/
def warnings (f : SettingsFile) : List LogEvent := f.featureFlags.warnings

end SettingsFile

end SyncLedger
