import SyncLedger.Json.Basic
import SyncLedger.Text.Digits

/-!
# Reading structured data

`Json.parse?` reads one value from a text that holds nothing else. A number without a
point and an exponent that fits 64 bits, signed or unsigned, is whole; every other
number is the nearest floating-point number, and so is a negative zero. A number that is
too large for one is refused.

Every call of the mutually recursive readers uses up one unit of fuel and at least every
second one a character, so twice the length of the text is enough fuel.
-/

namespace SyncLedger.Json

open Text

/-- The characters that may stand between tokens. -/
def isSpace (c : Char) : Bool := c = ' ' || c = '\t' || c = '\n' || c = '\r'

/-- Drops the spaces at the front. -/
def skip (cs : List Char) : List Char := cs.dropWhile isSpace

/-- Four hexadecimal digits. -/
def unit? : List Char → Option (Nat × List Char)
  | a :: b :: c :: d :: r => do
    let a ← hexValue? a
    let b ← hexValue? b
    let c ← hexValue? c
    let d ← hexValue? d
    return (((a * 16 + b) * 16 + c) * 16 + d, r)
  | _ => none

/-- The character of a numeric escape, after its `\u`. A character beyond the first
65536 is written as a pair of surrogates; a surrogate alone is no character. -/
def numbered? (cs : List Char) : Option (Char × List Char) := do
  let (hi, r) ← unit? cs
  if 0xD800 ≤ hi ∧ hi < 0xDC00 then
    match r with
    | '\\' :: 'u' :: r =>
      let (lo, r) ← unit? r
      if 0xDC00 ≤ lo ∧ lo < 0xE000 then
        return (Char.ofNat (0x10000 + (hi - 0xD800) * 0x400 + (lo - 0xDC00)), r)
      else none
    | _ => none
  else if 0xDC00 ≤ hi ∧ hi < 0xE000 then none
  else return (Char.ofNat hi, r)

/-- The character of an escape, after its backslash. -/
def escaped? : List Char → Option (Char × List Char)
  | '"' :: r => some ('"', r)
  | '\\' :: r => some ('\\', r)
  | '/' :: r => some ('/', r)
  | 'b' :: r => some ('\x08', r)
  | 'f' :: r => some ('\x0c', r)
  | 'n' :: r => some ('\n', r)
  | 'r' :: r => some ('\r', r)
  | 't' :: r => some ('\t', r)
  | 'u' :: r => numbered? r
  | _ => none

/-- The rest of a string, after its opening quote, and what follows it. `acc` holds the
characters read so far, the last one first. -/
def string? : Nat → List Char → List Char → Option (String × List Char)
  | 0, _, _ => none
  | n + 1, acc, cs =>
    match cs with
    | '"' :: r => some (String.ofList acc.reverse, r)
    | '\\' :: r => (escaped? r).bind fun p => string? n (p.1 :: acc) p.2
    | c :: r => if c.toNat < 0x20 then none else string? n (c :: acc) r
    | [] => none

/-- The exponent of a number, if there is one. -/
def exponent? : List Char → Option (Option Int × List Char)
  | c :: r =>
    if c = 'e' ∨ c = 'E' then
      let (negative, r) := match r with
        | '-' :: r => (true, r)
        | '+' :: r => (false, r)
        | r => (false, r)
      let ds := r.takeWhile Char.isDigit
      if ds.isEmpty then none
      else
        let n : Int := decimalValue ds
        some (some (if negative then -n else n), r.drop ds.length)
    else some (none, c :: r)
  | [] => some (none, [])

/-- The fraction of a number, if there is one. -/
def fraction? : List Char → Option (Option (List Char) × List Char)
  | '.' :: r =>
    let ds := r.takeWhile Char.isDigit
    if ds.isEmpty then none else some (some ds, r.drop ds.length)
  | r => some (none, r)

/-- The floating-point number nearest to `± m * 10 ^ e`, unless that is an infinity. -/
def ofDecimal? (negative : Bool) (m : Nat) (e : Int) : Option Json :=
  let x := Binary64.ofDecimal negative m e
  if x.isFinite then some (float x) else none

/-- A whole number if it fits 64 bits, else the nearest floating-point number. -/
def ofInteger? (negative : Bool) (n : Nat) : Option Json :=
  if negative then
    if 0 < n ∧ Int64.minValue.toInt ≤ -(n : Int) then some (int (-(n : Int)))
    else ofDecimal? true n 0
  else if n < UInt64.size then some (int n)
  else ofDecimal? false n 0

/-- A number. The digits before the point do not start with a zero unless it is the
only one. -/
def number? (cs : List Char) : Option (Json × List Char) := do
  let (negative, r) := match cs with
    | '-' :: r => (true, r)
    | r => (false, r)
  let ds := r.takeWhile Char.isDigit
  if ds.isEmpty || (ds.head? == some '0' && ds.length != 1) then none
  else
    let (frac, r) ← fraction? (r.drop ds.length)
    let (exp, r) ← exponent? r
    match frac, exp with
    | none, none => (ofInteger? negative (decimalValue ds)).map (·, r)
    | _, _ =>
      let fs := frac.getD []
      let e := exp.getD 0 - fs.length
      (ofDecimal? negative (decimalValue (ds ++ fs)) e).map (·, r)

mutual

/-- A value, after any spaces. -/
def value? : Nat → List Char → Option (Json × List Char)
  | 0, _ => none
  | n + 1, cs =>
    match skip cs with
    | 'n' :: 'u' :: 'l' :: 'l' :: r => some (null, r)
    | 't' :: 'r' :: 'u' :: 'e' :: r => some (bool true, r)
    | 'f' :: 'a' :: 'l' :: 's' :: 'e' :: r => some (bool false, r)
    | '"' :: r => (string? (r.length + 1) [] r).map fun p => (str p.1, p.2)
    | '[' :: r =>
      match skip r with
      | ']' :: r => some (arr [], r)
      | r => (items? n r).map fun p => (arr p.1, p.2)
    | '\x7b' :: r =>
      match skip r with
      | '\x7d' :: r => some (obj [], r)
      | r => (fields? n r).map fun p => (ofFields p.1, p.2)
    | r => number? r

/-- One or more values with commas between them, and the closing bracket. -/
def items? : Nat → List Char → Option (List Json × List Char)
  | 0, _ => none
  | n + 1, cs =>
    (value? n cs).bind fun p =>
      match skip p.2 with
      | ',' :: r => (items? n r).map fun q => (p.1 :: q.1, q.2)
      | ']' :: r => some ([p.1], r)
      | _ => none

/-- One or more named values with commas between them, and the closing brace. -/
def fields? : Nat → List Char → Option (List (String × Json) × List Char)
  | 0, _ => none
  | n + 1, cs =>
    match skip cs with
    | '"' :: r =>
      (string? (r.length + 1) [] r).bind fun name =>
        match skip name.2 with
        | ':' :: r =>
          (value? n r).bind fun p =>
            match skip p.2 with
            | ',' :: r => (fields? n r).map fun q => ((name.1, p.1) :: q.1, q.2)
            | '\x7d' :: r => some ([(name.1, p.1)], r)
            | _ => none
        | _ => none
    | _ => none

end

/-- The value that a text holds, if it holds one and nothing else. -/
def parse? (s : String) : Option Json :=
  let cs := s.toList
  (value? (2 * cs.length + 2) cs).bind fun p =>
    if (skip p.2).isEmpty then some p.1 else none

end SyncLedger.Json
