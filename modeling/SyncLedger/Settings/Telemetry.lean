import SyncLedger.Json.Decode

/-!
# Telemetry settings

Where counters are exported to, and how often. Both may be left out.
-/

namespace SyncLedger

open Decode

/-- What settings say about the export of counters. -/
structure TelemetrySettings where
  metricsUrl : Option String
  exportInterval : Option Duration
deriving DecidableEq, Inhabited

namespace TelemetrySettings

def decode (d : Dialect) : Decoder TelemetrySettings :=
  record d "OpenTelemetryConfig"
    ((nothing TelemetrySettings.mk).and (nullable "metrics_url" string)
      |>.and (optional "metrics_export_interval_secs" seconds))

end TelemetrySettings

end SyncLedger
