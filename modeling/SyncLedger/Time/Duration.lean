import SyncLedger.Number.Binary64
import SyncLedger.Text.Digits

/-!
# Spans of time

A `Duration` is a whole number of nanoseconds. Settings give spans as a floating-point
number of seconds; `ofSeconds` rounds such a number to the nearest nanosecond, a tie
going to the even one, and refuses what no span can hold. `text` is the form that
messages and log fields show: the largest unit with a whole part, and its fraction
without trailing zeros.
-/

namespace SyncLedger

/-- A span of time in nanoseconds. -/
structure Duration where
  /-- The length in nanoseconds. -/
  nanos : Nat
deriving DecidableEq, Inhabited

/-- Why a number of seconds is no span. -/
inductive DurationError where
  | negative
  | tooLarge
deriving DecidableEq

/-- The wording of a refused number of seconds. -/
def DurationError.message : DurationError → String
  | .negative => "cannot convert float seconds to Duration: value is negative"
  | .tooLarge => "cannot convert float seconds to Duration: value is either too big or NaN"

namespace Duration

/-- Nanoseconds in a second. -/
def perSecond : Nat := 1000000000

/-- Nanoseconds in a millisecond. -/
def perMillisecond : Nat := 1000000

/-- A span of whole seconds. -/
def seconds (n : Nat) : Duration := ⟨n * perSecond⟩

/-- A span of whole milliseconds. -/
def milliseconds (n : Nat) : Duration := ⟨n * perMillisecond⟩

/-- The whole seconds of a span. -/
def wholeSeconds (d : Duration) : Nat := d.nanos / perSecond

/-- The nanoseconds beyond the whole seconds. -/
def subsecondNanos (d : Duration) : Nat := d.nanos % perSecond

/-- A span has fewer than this many seconds. -/
def secondsLimit : Nat := UInt64.size

/-- The span nearest to a number of seconds. A negative zero is no span of negative
length. -/
def ofSeconds (x : Binary64) : Except DurationError Duration :=
  if x.isNaN then .error .tooLarge
  else if x.isNegative && !x.isZero then .error .negative
  else if !x.isFinite then .error .tooLarge
  else
    let num := x.significand <<< x.power.toNat
    let den := 1 <<< (-x.power).toNat
    if secondsLimit * den ≤ num then .error .tooLarge
    else .ok ⟨roundDiv (num * perSecond) den⟩

/-- The digits of a fraction `part / 10 ^ places`, without trailing zeros and with the
point before them; nothing for zero. -/
def fraction (part places : Nat) : List Char :=
  let kept := ((Text.padded places part).reverse.dropWhile (· = '0')).reverse
  if kept.isEmpty then [] else '.' :: kept

/-- A span in units of `10 ^ places` nanoseconds. -/
def inUnits (d : Duration) (places : Nat) (unit : String) : String :=
  let whole := Nat.pow 10 places
  toString (d.nanos / whole) ++ String.ofList (fraction (d.nanos % whole) places) ++ unit

/-- A span as messages show it. -/
def text (d : Duration) : String :=
  if perSecond ≤ d.nanos then d.inUnits 9 "s"
  else if perMillisecond ≤ d.nanos then d.inUnits 6 "ms"
  else if 1000 ≤ d.nanos then d.inUnits 3 "µs"
  else d.inUnits 0 "ns"

@[simp] theorem nanos_seconds (n : Nat) : (seconds n).nanos = n * perSecond := rfl

@[simp] theorem nanos_milliseconds (n : Nat) : (milliseconds n).nanos = n * perMillisecond := rfl

end Duration

end SyncLedger
