/-!
# Binary floating-point numbers as words

A `Binary64` is the 64-bit word of a double-precision number. Everything that is done
with one here is exact integer arithmetic on the parts of the word: a finite number is
`± m * 2 ^ q` with natural `m`, and a quotient of naturals is rounded to the nearest
number, ties to the even word. No machine arithmetic on floating-point values takes
part, so every result is a fact about naturals.
-/

namespace SyncLedger

/-- The word of a double-precision number. -/
structure Binary64 where
  /-- Sign, 11 bits of exponent, 52 bits of fraction. -/
  bits : UInt64
deriving DecidableEq, Inhabited

/-- The quotient rounded to the nearest natural, a tie going to the even one. -/
def roundDiv (num den : Nat) : Nat :=
  let q := num / den
  let r := num % den
  if den < 2 * r ∨ (2 * r = den ∧ q % 2 = 1) then q + 1 else q

namespace Binary64

/-- The weight of the sign bit. -/
def signWeight : Nat := 0x8000000000000000

/-- The weight of the lowest exponent bit. -/
def exponentWeight : Nat := 0x0010000000000000

/-- The word of positive infinity, without its sign. -/
def infinityWord : Nat := 0x7ff0000000000000

/-- The sign bit is set. -/
def isNegative (x : Binary64) : Bool := decide (signWeight ≤ x.bits.toNat)

/-- The word without its sign bit. -/
def magnitudeWord (x : Binary64) : Nat := x.bits.toNat % signWeight

/-- Neither an infinity nor a NaN. -/
def isFinite (x : Binary64) : Bool := decide (x.magnitudeWord < infinityWord)

/-- Not a number. -/
def isNaN (x : Binary64) : Bool := decide (infinityWord < x.magnitudeWord)

/-- The biased exponent. -/
def exponentField (x : Binary64) : Nat := x.magnitudeWord / exponentWeight

/-- The fraction bits. -/
def fractionField (x : Binary64) : Nat := x.magnitudeWord % exponentWeight

/-- The natural `m` of `± m * 2 ^ q`; the leading bit is implicit unless the exponent
field is zero. -/
def significand (x : Binary64) : Nat :=
  if x.exponentField = 0 then x.fractionField else exponentWeight + x.fractionField

/-- The power `q` of `± m * 2 ^ q`. -/
def power (x : Binary64) : Int :=
  if x.exponentField = 0 then -1074 else (x.exponentField : Int) - 1075

/-- The number is zero, of either sign. -/
def isZero (x : Binary64) : Bool := decide (x.magnitudeWord = 0)

/-- A word from its sign and the rest. -/
def ofWord (negative : Bool) (word : Nat) : Binary64 :=
  ⟨UInt64.ofNat (if negative then signWeight + word else word)⟩

/-- `num / den * 2 ^ (-e)` as a quotient of naturals. -/
def scaled (num den : Nat) (e : Int) : Nat × Nat :=
  (num <<< (-e).toNat, den <<< e.toNat)

/-- The power of two by which a positive quotient is scaled to have 53 bits before the
point, and at least the power of the smallest positive number. -/
def scalePower (num den : Nat) : Int :=
  let e : Int := (Nat.log2 num : Int) - (Nat.log2 den : Int) - 52
  let s := scaled num den e
  max (if s.1 < exponentWeight * s.2 then e - 1 else e) (-1074)

/-- The number nearest to `± num / den`, a tie going to the even word; the infinity of
the sign when the quotient is too large. -/
def ofRatio (negative : Bool) (num den : Nat) : Binary64 :=
  if num = 0 then ofWord negative 0
  else
    let e := scalePower num den
    let s := scaled num den e
    let word := (e + 1074).toNat * exponentWeight + roundDiv s.1 s.2
    ofWord negative (min word infinityWord)

/-- The number nearest to an integer. -/
def ofInt (n : Int) : Binary64 := ofRatio (decide (n < 0)) n.natAbs 1

/-- The number nearest to `± m * 10 ^ e`. Beyond 400 places in either direction the
answer is an infinity or a zero whatever the digits, which keeps the powers small. -/
def ofDecimal (negative : Bool) (m : Nat) (e : Int) : Binary64 :=
  if m = 0 then ofWord negative 0
  else
    let places : Int := (Nat.toDigits 10 m).length
    if 400 < places + e then ofWord negative infinityWord
    else if places + e < -400 then ofWord negative 0
    else ofRatio negative (m * Nat.pow 10 e.toNat) (Nat.pow 10 (-e).toNat)

/-- Positive infinity. -/
def infinity : Binary64 := ofWord false infinityWord

/-- A quiet NaN. -/
def nan : Binary64 := ofWord false 0x7ff8000000000000

/-- The number with the opposite sign. -/
def neg (x : Binary64) : Binary64 := ofWord (!x.isNegative) x.magnitudeWord

end Binary64

end SyncLedger
