import SyncLedger.Text.Digits
import SyncLedger.Time.DateTime

/-!
# Dates and times of day

TOML has four kinds of moments: a date, a time of day, both together, and both with an
offset from UTC. No setting is a moment, so it matters only where one ends and that it
exists in the calendar. A second may be numbered 60, as the library that reads TOML has it.
-/

namespace SyncLedger.Toml

open Text

/-- A number of exactly `count` decimal digits. -/
def fixed? (count : Nat) (cs : List Char) : Option (Nat × List Char) :=
  (digits? (cs.take count)).bind fun n =>
    if count ≤ cs.length then some (n, cs.drop count) else none

/-- What follows a character. -/
def mark? (mark : Char) : List Char → Option (List Char)
  | c :: r => if c = mark then some r else none
  | [] => none

/-- What follows a date of the calendar. -/
def date? (cs : List Char) : Option (List Char) := do
  let (year, r) ← fixed? 4 cs
  let (month, r) ← fixed? 2 (← mark? '-' r)
  let (day, r) ← fixed? 2 (← mark? '-' r)
  let _ ← Date.ofFields? year month day
  return r

/-- What follows a fraction of a second, if there is one. -/
def skipFraction : List Char → List Char
  | '.' :: c :: r => if c.isDigit then r.dropWhile Char.isDigit else '.' :: c :: r
  | r => r

/-- What follows a time of day. -/
def time? (cs : List Char) : Option (List Char) := do
  let (hour, r) ← fixed? 2 cs
  let (minute, r) ← fixed? 2 (← mark? ':' r)
  let (second, r) ← fixed? 2 (← mark? ':' r)
  let _ ← TimeOfDay.ofFields? hour minute second 0
  return skipFraction r

/-- What follows hours and minutes of an offset. -/
def offset? (cs : List Char) : Option (List Char) := do
  let (hour, r) ← fixed? 2 cs
  let (minute, r) ← fixed? 2 (← mark? ':' r)
  let _ ← TimeOfDay.ofFields? hour minute 0 0
  return r

/-- What follows an offset from UTC, if there is one. -/
def skipOffset : List Char → List Char
  | c :: r =>
    if c = 'Z' ∨ c = 'z' then r
    else if c = '+' ∨ c = '-' then (offset? r).getD (c :: r)
    else c :: r
  | [] => []

/-- What follows the time of day after a date, if there is one. -/
def skipTime : List Char → List Char
  | c :: r =>
    if c = 'T' ∨ c = 't' ∨ c = ' ' then
      match time? r with
      | some r => skipOffset r
      | none => c :: r
    else c :: r
  | [] => []

/-- What follows a moment. -/
def moment? (cs : List Char) : Option (List Char) := ((date? cs).map skipTime).or (time? cs)

end SyncLedger.Toml
