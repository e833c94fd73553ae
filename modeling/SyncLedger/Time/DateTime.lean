/-!
# Dates and times

A `DateTime` is an instant of UTC given by its calendar fields, so that its text is read
and written without calendar arithmetic. A second numbered 60 is a leap second; it comes
after second 59 and before the next minute, which the order by fields gives by itself.
Arithmetic is needed in two places only: an instant given in milliseconds since 1970
(`ofEpochMillis`), and a local time at some minutes from UTC (`shift`).
-/

namespace SyncLedger

/-- Every fourth year, except centuries that are not divisible by 400. -/
def isLeapYear (year : Int) : Bool :=
  year % 4 == 0 && (year % 100 != 0 || year % 400 == 0)

/-- The number of days of a month; `0` for a number that is no month. -/
def daysInMonth (year : Int) (month : Nat) : Nat :=
  if month = 2 then (if isLeapYear year then 29 else 28)
  else if month = 4 ∨ month = 6 ∨ month = 9 ∨ month = 11 then 30
  else if 1 ≤ month ∧ month ≤ 12 then 31
  else 0

/-- The years that can be represented. -/
def yearRange (year : Int) : Prop := -262143 ≤ year ∧ year ≤ 262142

instance (year : Int) : Decidable (yearRange year) := by unfold yearRange; infer_instance

/-- A date of the Gregorian calendar, extended to all representable years. -/
structure Date where
  year : Int
  month : Nat
  day : Nat
  year_mem : yearRange year
  day_pos : 1 ≤ day
  day_le : day ≤ daysInMonth year month
deriving DecidableEq

/-- A time of day to the nanosecond. Second 60 is a leap second. -/
structure TimeOfDay where
  hour : Nat
  minute : Nat
  second : Nat
  nano : Nat
  hour_lt : hour < 24
  minute_lt : minute < 60
  second_le : second ≤ 60
  nano_lt : nano < 1000000000
deriving DecidableEq

/-- An instant of UTC. -/
structure DateTime where
  date : Date
  time : TimeOfDay
deriving DecidableEq

namespace Date

/-- The date with these fields, if there is one. -/
def ofFields? (year : Int) (month day : Nat) : Option Date :=
  if h : yearRange year ∧ 1 ≤ day ∧ day ≤ daysInMonth year month then
    some ⟨year, month, day, h.1, h.2.1, h.2.2⟩
  else none

/-- The day after, if it is representable. -/
def next? (d : Date) : Option Date :=
  if d.day < daysInMonth d.year d.month then ofFields? d.year d.month (d.day + 1)
  else if d.month < 12 then ofFields? d.year (d.month + 1) 1
  else ofFields? (d.year + 1) 1 1

/-- The day before, if it is representable. -/
def prev? (d : Date) : Option Date :=
  if 1 < d.day then ofFields? d.year d.month (d.day - 1)
  else if 1 < d.month then ofFields? d.year (d.month - 1) (daysInMonth d.year (d.month - 1))
  else ofFields? (d.year - 1) 12 31

/-- The date a number of days after 1970-01-01, if it is representable. Years are
counted from March, so that a leap day is the last day of its year; 400 such years have
146097 days. -/
def ofEpochDays? (days : Int) : Option Date :=
  let shifted := days + 719468
  let era := shifted / 146097
  let dayOfEra := shifted % 146097
  let yearOfEra := (dayOfEra - dayOfEra / 1460 + dayOfEra / 36524 - dayOfEra / 146096) / 365
  let dayOfYear := dayOfEra - (365 * yearOfEra + yearOfEra / 4 - yearOfEra / 100)
  let monthFromMarch := (5 * dayOfYear + 2) / 153
  let day := dayOfYear - (153 * monthFromMarch + 2) / 5 + 1
  let month := if monthFromMarch < 10 then monthFromMarch + 3 else monthFromMarch - 9
  let year := yearOfEra + era * 400 + (if month ≤ 2 then 1 else 0)
  ofFields? year month.toNat day.toNat

theorem ofFields?_self (d : Date) : ofFields? d.year d.month d.day = some d := by
  simp [ofFields?, d.year_mem, d.day_pos, d.day_le]

end Date

namespace TimeOfDay

/-- The time with these fields, if there is one. -/
def ofFields? (hour minute second nano : Nat) : Option TimeOfDay :=
  if h : hour < 24 ∧ minute < 60 ∧ second ≤ 60 ∧ nano < 1000000000 then
    some ⟨hour, minute, second, nano, h.1, h.2.1, h.2.2.1, h.2.2.2⟩
  else none

theorem ofFields?_self (t : TimeOfDay) :
    ofFields? t.hour t.minute t.second t.nano = some t := by
  simp [ofFields?, t.hour_lt, t.minute_lt, t.second_le, t.nano_lt]

end TimeOfDay

namespace DateTime

/-- The beginning of 1970. -/
def epoch : DateTime :=
  ⟨⟨1970, 1, 1, by decide, by decide, by decide⟩,
    ⟨0, 0, 0, 0, by decide, by decide, by decide, by decide⟩⟩

instance : Inhabited DateTime := ⟨epoch⟩

/-- The fields in order of weight; instants are ordered by them. -/
def fields (d : DateTime) : List Int :=
  [d.date.year, d.date.month, d.date.day, d.time.hour, d.time.minute, d.time.second, d.time.nano]

/-- Lexicographic comparison of fields. -/
def fieldsBefore : List Int → List Int → Bool
  | a :: as, b :: bs => a < b || (a == b && fieldsBefore as bs)
  | _, _ => false

/-- The first instant is earlier than the second. -/
def before (a b : DateTime) : Bool := fieldsBefore a.fields b.fields

/-- The instant a number of milliseconds after 1970-01-01T00:00:00, if it is
representable. -/
def ofEpochMillis? (millis : Int) : Option DateTime := do
  let date ← Date.ofEpochDays? (millis / 86400000)
  let rest := (millis % 86400000).toNat
  let time ← TimeOfDay.ofFields? (rest / 3600000) (rest / 60000 % 60) (rest / 1000 % 60)
    (rest % 1000 * 1000000)
  return ⟨date, time⟩

/-- The instant at which clocks that are `offset` minutes ahead of UTC show the given
date and time; `offset` is less than a day. -/
def ofLocal? (date : Date) (time : TimeOfDay) (offset : Int) : Option DateTime := do
  let minutes : Int := time.hour * 60 + time.minute - offset
  let date ←
    if minutes < 0 then date.prev?
    else if 1440 ≤ minutes then date.next?
    else some date
  let minutes := (minutes % 1440).toNat
  let time ← TimeOfDay.ofFields? (minutes / 60) (minutes % 60) time.second time.nano
  return ⟨date, time⟩

end DateTime

end SyncLedger
