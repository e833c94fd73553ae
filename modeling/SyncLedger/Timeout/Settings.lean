import SyncLedger.Time.Duration

/-!
# Settings of the supervision

How often the timers are looked at, how long a call of a destination may take, and how
long closing waits for the supervision to stop.
-/

namespace SyncLedger

/-- Settings of the supervision of a destination. -/
structure TimeoutSettings where
  pollInterval : Duration
  timeout : Duration
  shutdownGrace : Duration
deriving DecidableEq

namespace TimeoutSettings

/-- What holds when nothing else is said: a look every minute, two hours for a call, and
ten seconds for closing. -/
def standard : TimeoutSettings := ⟨.seconds 60, .seconds 7200, .seconds 10⟩

instance : Inhabited TimeoutSettings := ⟨standard⟩

/-- The time between two looks at the timers, in nanoseconds: at least a millisecond. -/
def period (s : TimeoutSettings) : Nat := max s.pollInterval.nanos Duration.perMillisecond

theorem period_pos (s : TimeoutSettings) : 0 < s.period :=
  Nat.lt_of_lt_of_le (by decide) (Nat.le_max_right _ _)

theorem perMillisecond_le_period (s : TimeoutSettings) : Duration.perMillisecond ≤ s.period :=
  Nat.le_max_right _ _

end TimeoutSettings

end SyncLedger
