import SyncLedger.Timeout.Settings
import SyncLedger.Timeout.Timer

/-!
# Polling

A watchdog looks at the timers again and again. Polls are due a period apart, at instants
to the nanosecond, but things only happen at whole milliseconds, and not while the
process is blocked: a poll comes at the first whole millisecond at or after its due
instant at which the watchdog gets to run. If that is at most five milliseconds late, the
next poll is due one period after this one was; otherwise the polls that were missed are
skipped and the next one is due at the next multiple of the period.
-/

namespace SyncLedger.Polling

/-- The first whole millisecond at or after an instant. -/
def wakeUp (instant : Nat) : Nat :=
  (instant + (Duration.perMillisecond - 1)) / Duration.perMillisecond * Duration.perMillisecond

/-- A poll that comes later than this has missed others. -/
def tolerance : Nat := 5 * Duration.perMillisecond

/-- The instant at which the next poll is due after one that was due at `due` and came at
`now`. Only the first poll can be beyond the end of the clock; this one is taken to be on it. -/
def nextDue (period due now : Nat) : Nat :=
  if now ≤ due + tolerance then due + period else now + period - (now - due) % period

/-- The instant at which a poll comes that is due at `due`, `now` at the earliest. -/
def comesAt (now due : Nat) : Nat := max now (wakeUp due)

/-- How polling ends or pauses. -/
inductive Outcome where
  /-- A poll at an instant finds that a call takes too long. -/
  | timedOut (call : DestinationCall) (instant : Nat)
  /-- Nothing was found; the next poll is due at an instant. -/
  | waiting (due : Nat)
deriving DecidableEq

theorem le_wakeUp (instant : Nat) : instant ≤ wakeUp instant := by
  simp only [wakeUp, Duration.perMillisecond]
  omega

theorem wakeUp_lt (instant : Nat) : wakeUp instant < instant + Duration.perMillisecond := by
  simp only [wakeUp, Duration.perMillisecond]
  omega

theorem le_comesAt (now due : Nat) : due ≤ comesAt now due :=
  Nat.le_trans (le_wakeUp due) (Nat.le_max_right _ _)

theorem lt_nextDue {period : Nat} (hp : 0 < period) (due now : Nat) :
    due < nextDue period due now := by
  unfold nextDue
  split
  · omega
  · have := Nat.mod_lt (now - due) hp
    omega

/-- Polls that come before `limit` until one finds that a call takes too long. The timers
do not change in between. -/
def upTo (s : TimeoutSettings) (timers : Timers) (limit now due : Nat) : Outcome :=
  if _h : limit ≤ comesAt now due then .waiting due
  else
    match timers.timedOut? s.timeout.nanos (comesAt now due) with
    | some call => .timedOut call (comesAt now due)
    | none =>
      upTo s timers limit (comesAt now due) (nextDue s.period due (comesAt now due))
termination_by limit - due
decreasing_by
  have h₁ := le_comesAt now due
  have h₂ := lt_nextDue s.period_pos due (comesAt now due)
  omega

/-- The polls for which the watchdog has been called, which all come now, until one finds
that a call takes too long. -/
def catchUp (s : TimeoutSettings) (timers : Timers) (called now due : Nat) : Outcome :=
  if _h : called < wakeUp due then .waiting due
  else
    match timers.timedOut? s.timeout.nanos now with
    | some call => .timedOut call now
    | none => catchUp s timers called now (nextDue s.period due now)
termination_by called + 1 - due
decreasing_by
  have h₁ := le_wakeUp due
  have h₂ := lt_nextDue s.period_pos due now
  omega

/-- An instant before which polling ends if it ends at all: the first poll after the
instant at which a call starts to take too long. -/
def horizon? (s : TimeoutSettings) (timers : Timers) (now due : Nat) : Option Nat :=
  (timers.limit? s.timeout.nanos).map fun limit =>
    max (max now due) limit + s.period + 2 * Duration.perMillisecond

/-- Polls without end, or until one finds that a call takes too long. -/
def forever (s : TimeoutSettings) (timers : Timers) (now due : Nat) : Outcome :=
  match horizon? s timers now due with
  | none => .waiting due
  | some limit => upTo s timers limit now due

/-- Polls that come before a limit, if there is one. -/
def before (s : TimeoutSettings) (timers : Timers) (limit : Option Nat) (now due : Nat) : Outcome :=
  match limit with
  | some limit => upTo s timers limit now due
  | none => forever s timers now due

end SyncLedger.Polling
