import SyncLedger.Json.Basic
import SyncLedger.Text.Digits

/-!
# Numbers

A TOML number is a whole number in decimal digits or, with a mark in front, in
hexadecimal, octal or binary ones, or a decimal number with a fraction or an exponent.
Single underscores may stand between digits. A whole number has to fit a signed 64-bit
word; every other number is read as the nearest floating-point number.

The format does not say what becomes of a number that is too large. That it is refused, but read
as an infinity if it is negative, is taken as given from the library that reads TOML.
-/

namespace SyncLedger.Toml

open Text

/-- The digits that go on a row of digits, without the underscores between them. -/
def moreDigits (isDigit : Char → Bool) : List Char → List Char × List Char
  | '_' :: c :: r =>
    if isDigit c then
      let p := moreDigits isDigit r
      (c :: p.1, p.2)
    else ([], '_' :: c :: r)
  | c :: r =>
    if isDigit c then
      let p := moreDigits isDigit r
      (c :: p.1, p.2)
    else ([], c :: r)
  | [] => ([], [])

/-- A row of digits. -/
def digitRow? (isDigit : Char → Bool) : List Char → Option (List Char × List Char)
  | c :: r =>
    if isDigit c then
      let p := moreDigits isDigit r
      some (c :: p.1, p.2)
    else none
  | [] => none

/-- A sign, if there is one; whether it is a minus. -/
def sign : List Char → Bool × List Char
  | '-' :: r => (true, r)
  | '+' :: r => (false, r)
  | r => (false, r)

/-- The digits of a whole number; only zero itself begins with a zero. -/
def wholeDigits? : List Char → Option (List Char × List Char)
  | '0' :: r => some (['0'], r)
  | r => digitRow? Char.isDigit r

/-- The digits of a fraction, if there is one. -/
def fraction? : List Char → Option (Option (List Char) × List Char)
  | '.' :: r => (digitRow? Char.isDigit r).map fun p => (some p.1, p.2)
  | r => some (none, r)

/-- An exponent, if there is one. -/
def exponent? : List Char → Option (Option Int × List Char)
  | [] => some (none, [])
  | c :: r =>
    if c = 'e' ∨ c = 'E' then
      let s := sign r
      (digitRow? Char.isDigit s.2).map fun p =>
        let n : Int := decimalValue p.1
        (some (if s.1 then -n else n), p.2)
    else some (none, c :: r)

/-- The number for a whole number, if it fits 64 bits. -/
def ofWhole? (n : Int) : Option Json :=
  if Int64.minValue.toInt ≤ n ∧ n ≤ Int64.maxValue.toInt then some (.int n) else none

/-- A decimal number, after its sign. One that is too large for a finite number is
refused, unless it is negative. -/
def decimal? (negative : Bool) (cs : List Char) : Option (Json × List Char) := do
  let (whole, r) ← wholeDigits? cs
  let (frac, r) ← fraction? r
  let (exp, r) ← exponent? r
  match frac, exp with
  | none, none =>
    let n : Int := decimalValue whole
    return (← ofWhole? (if negative then -n else n), r)
  | _, _ =>
    let fs := frac.getD []
    let x := Binary64.ofDecimal negative (decimalValue (whole ++ fs)) (exp.getD 0 - fs.length)
    if x = Binary64.infinity then none else return (.float x, r)

/-- A digit of a number system with at most 16 digits. -/
def isDigitOf (base : Nat) (c : Char) : Bool := (hexValue? c).any (· < base)

/-- The rest of a whole number in a number system other than the decimal one. -/
def inBase? (base : Nat) (cs : List Char) : Option (Json × List Char) :=
  (digitRow? (isDigitOf base) cs).bind fun p =>
    let n := p.1.foldl (fun n c => base * n + (hexValue? c).getD 0) 0
    (ofWhole? n).map fun x => (x, p.2)

/-- A number. Infinities and NaN have names. -/
def number? : List Char → Option (Json × List Char)
  | '0' :: 'x' :: r => inBase? 16 r
  | '0' :: 'o' :: r => inBase? 8 r
  | '0' :: 'b' :: r => inBase? 2 r
  | cs =>
    let s := sign cs
    match s.2 with
    | 'i' :: 'n' :: 'f' :: r =>
      some (.float (if s.1 then Binary64.infinity.neg else Binary64.infinity), r)
    | 'n' :: 'a' :: 'n' :: r => some (.float Binary64.nan, r)
    | r => decimal? s.1 r

end SyncLedger.Toml
