import SyncLedger.Text.Blank
import SyncLedger.Text.Digits
import SyncLedger.Time.DateTime

/-!
# The text of an instant

Instants are written as `YYYY-MM-DDTHH:MM:SS[.fraction]Z`, with no fraction when it is
zero and otherwise 3, 6 or 9 digits, the fewest that are exact; a year outside 0 … 9999
has a sign and at least four digits.

Reading is more generous than writing. Blanks may stand before every field and around
the separators of a date, fields may have fewer digits, the date and the time may be
separated by a blank, digits of the fraction after the ninth are dropped, and any offset
of less than a day is accepted. `read?` refuses everything else, in particular a missing
offset and text after it. How generous it is, is up to the library for dates and times and
taken as given.
-/

namespace SyncLedger.Rfc3339

open Text

/-! ## Writing -/

/-- A year: four digits, or a sign and at least four digits. -/
def year (y : Int) : List Char :=
  if 0 ≤ y ∧ y ≤ 9999 then padded 4 y.toNat
  else (if y < 0 then '-' else '+') :: padded 4 y.natAbs

/-- A fraction of a second. -/
def fraction (nano : Nat) : List Char :=
  if nano = 0 then []
  else if nano % 1000000 = 0 then '.' :: padded 3 (nano / 1000000)
  else if nano % 1000 = 0 then '.' :: padded 6 (nano / 1000)
  else '.' :: padded 9 nano

/-- The characters of an instant. -/
def write (d : DateTime) : List Char :=
  year d.date.year ++ '-' :: padded 2 d.date.month ++ '-' :: padded 2 d.date.day
    ++ 'T' :: padded 2 d.time.hour ++ ':' :: padded 2 d.time.minute
    ++ ':' :: padded 2 d.time.second ++ fraction d.time.nano ++ ['Z']

/-- The text of an instant. -/
def text (d : DateTime) : String := String.ofList (write d)

/-! ## Reading -/

/-- At least one and at most `width` digits from the front. -/
def number? (width : Nat) (cs : List Char) : Option (Nat × List Char) :=
  let ds := (cs.take width).takeWhile Char.isDigit
  if ds.isEmpty then none else some (decimalValue ds, cs.drop ds.length)

/-- Blanks, then a number of at most two digits. -/
def field? (cs : List Char) : Option (Nat × List Char) := number? 2 (trimStart cs)

/-- Blanks, then a year; with a sign it may have any number of digits. -/
def year? (cs : List Char) : Option (Int × List Char) :=
  match trimStart cs with
  | '-' :: r => (number? r.length r).map fun p => (-(p.1 : Int), p.2)
  | '+' :: r => (number? r.length r).map fun p => ((p.1 : Int), p.2)
  | r => (number? 4 r).map fun p => ((p.1 : Int), p.2)

/-- Blanks, then the given separator. -/
def separator? (sep : Char) (cs : List Char) : Option (List Char) :=
  match trimStart cs with
  | c :: r => if c = sep then some r else none
  | [] => none

/-- The mark between the date and the time. -/
def dateEnd? : List Char → Option (List Char)
  | c :: r => if c = 'T' ∨ c = 't' ∨ c = ' ' then some r else none
  | [] => none

/-- An optional fraction, in nanoseconds; digits after the ninth do not count. -/
def fraction? : List Char → Option (Nat × List Char)
  | '.' :: r =>
    (number? 9 r).map fun p =>
      (p.1 * Nat.pow 10 (9 - (r.length - p.2.length)), p.2.dropWhile Char.isDigit)
  | r => some (0, r)

/-- Two digits, exactly. -/
def twoDigits? : List Char → Option (Nat × List Char)
  | a :: b :: r =>
    if a.isDigit && b.isDigit then some (10 * digitValue a + digitValue b, r) else none
  | _ => none

/-- The offset from UTC in minutes. -/
def offset? (cs : List Char) : Option (Int × List Char) :=
  match cs with
  | 'Z' :: r => some (0, r)
  | 'z' :: r => some (0, r)
  | u :: t :: c :: r =>
    if u.toLower = 'u' ∧ t.toLower = 't' ∧ c.toLower = 'c' then some (0, r)
    else if u = '+' then signed? 1 (t :: c :: r)
    else if u = '-' ∨ u = '−' then signed? (-1) (t :: c :: r)
    else none
  | _ => none
where
  /-- Hours and minutes, with colons or blanks between them or nothing. -/
  signed? (sign : Int) (cs : List Char) : Option (Int × List Char) := do
    let (hours, r) ← twoDigits? cs
    let (minutes, r) ← twoDigits? (r.dropWhile fun c => c = ':' || isBlank c)
    if hours < 24 ∧ minutes < 60 then
      some (sign * (hours * 60 + minutes), r)
    else none

/-- The instant that a text denotes. -/
def read? (cs : List Char) : Option DateTime := do
  let (y, r) ← year? cs
  let r ← separator? '-' r
  let (month, r) ← field? r
  let r ← separator? '-' r
  let (day, r) ← field? r
  let r ← dateEnd? r
  let (hour, r) ← field? r
  let r ← separator? ':' r
  let (minute, r) ← field? r
  let r ← separator? ':' r
  let (second, r) ← field? r
  let (nano, r) ← fraction? r
  let (offset, r) ← offset? (trimStart r)
  if (trimStart r).isEmpty then
    let date ← Date.ofFields? y month day
    let time ← TimeOfDay.ofFields? hour minute second nano
    DateTime.ofLocal? date time offset
  else none

/-- The instant that a string denotes. -/
def parse? (s : String) : Option DateTime := read? s.toList

end SyncLedger.Rfc3339
