import SyncLedger.Time.Duration

/-!
# Timers of destination calls

Two calls of a destination are timed: handing over a record, and telling it that the
input has ended. A timer remembers the millisecond in which its call began, counted from
the creation of the timers. So the time it reads is never less than the time since the
beginning of the call, and exceeds it by less than a millisecond. Instants are numbers of
nanoseconds since the creation of the timers.
-/

namespace SyncLedger

/-- A call of a destination that may stall. -/
inductive DestinationCall where
  | accept
  | notifyEndOfInput
deriving DecidableEq

namespace DestinationCall

/-- How a call is named in messages. -/
def text : DestinationCall → String
  | .accept => "accept"
  | .notifyEndOfInput => "notify end of input"

/-- All calls, in the order in which they are looked at. -/
def all : List DestinationCall := [.accept, .notifyEndOfInput]

end DestinationCall

/-- The timer of one call. -/
structure CallTimer where
  /-- The millisecond in which the call began; none if the timer is stopped. -/
  startedAt : Option Nat
deriving DecidableEq, Inhabited

namespace CallTimer

/-- No call is being timed. -/
def stopped : CallTimer := ⟨none⟩

/-- The last millisecond that a timer can remember. -/
def lastMillisecond : Nat := UInt64.size - 2

/-- A call begins; what was timed before is forgotten. A call that begins later than the last
millisecond is taken to begin in it. This is idealised for the millisecond right after it: its
number fits 64 bits, but one more does not, so a timer that is kept in a word with zero for a
stopped one would overflow there. How exact a timer is can only be said of earlier calls. -/
def start (now : Nat) : CallTimer :=
  ⟨some (min (now / Duration.perMillisecond) lastMillisecond)⟩

/-- The time that the timer reads, in nanoseconds. -/
def elapsed? (t : CallTimer) (now : Nat) : Option Nat :=
  t.startedAt.map fun millis => now - millis * Duration.perMillisecond

/-- The call takes longer than the timeout. -/
def isOver (t : CallTimer) (timeout now : Nat) : Bool :=
  match t.elapsed? now with
  | some elapsed => timeout < elapsed
  | none => false

/-- The instant after which the call takes longer than the timeout. -/
def limit? (t : CallTimer) (timeout : Nat) : Option Nat :=
  t.startedAt.map fun millis => millis * Duration.perMillisecond + timeout

theorem isOver_iff_limit (t : CallTimer) (timeout now : Nat) :
    t.isOver timeout now = true ↔ ∃ limit, t.limit? timeout = some limit ∧ limit < now := by
  cases h : t.startedAt with
  | none => simp [isOver, elapsed?, limit?, h]
  | some millis =>
    simp only [isOver, elapsed?, limit?, h, Option.map_some, decide_eq_true_eq, Option.some.injEq,
      exists_eq_left']
    omega

end CallTimer

/-- The timers of both calls. -/
structure Timers where
  accept : CallTimer
  notifyEndOfInput : CallTimer
deriving DecidableEq, Inhabited

namespace Timers

/-- No call is being timed. -/
def stopped : Timers := ⟨.stopped, .stopped⟩

/-- The timer of a call. -/
def timer (ts : Timers) : DestinationCall → CallTimer
  | .accept => ts.accept
  | .notifyEndOfInput => ts.notifyEndOfInput

/-- Replaces the timer of a call. -/
def set (ts : Timers) (call : DestinationCall) (t : CallTimer) : Timers :=
  match call with
  | .accept => { ts with accept := t }
  | .notifyEndOfInput => { ts with notifyEndOfInput := t }

/-- A call begins. -/
def start (ts : Timers) (call : DestinationCall) (now : Nat) : Timers := ts.set call (.start now)

/-- A call has returned. -/
def reset (ts : Timers) (call : DestinationCall) : Timers := ts.set call .stopped

/-- The first call that takes longer than the timeout. -/
def timedOut? (ts : Timers) (timeout now : Nat) : Option DestinationCall :=
  DestinationCall.all.find? fun call => (ts.timer call).isOver timeout now

/-- The instant after which some call takes longer than the timeout; none if no call is
being timed. -/
def limit? (ts : Timers) (timeout : Nat) : Option Nat :=
  match ts.accept.limit? timeout, ts.notifyEndOfInput.limit? timeout with
  | some a, some b => some (min a b)
  | some a, none => some a
  | none, b => b

theorem timer_set (ts : Timers) (call other : DestinationCall) (t : CallTimer) :
    (ts.set call t).timer other = if other = call then t else ts.timer other := by
  cases call <;> cases other <;> rfl

end Timers

end SyncLedger
