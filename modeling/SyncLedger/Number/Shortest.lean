import SyncLedger.Number.Binary64

/-!
# The shortest decimal that reads back

A finite number is shown with the fewest decimal digits that round to it, and of those
decimals the nearest one. The reals that round to `m * 2 ^ q` form an interval around
it; on the grid of multiples of `10 ^ k` only the two neighbours of the number can be
the nearest grid point inside, so the grids are tried from the coarsest down.
-/

namespace SyncLedger.Binary64

/-- The reals that round to a number, in units of `2 ^ (q - 2)`: the number itself, the
ends of the interval, and whether the ends belong to it. -/
structure RoundingInterval where
  value : Nat
  lower : Nat
  upper : Nat
  closed : Bool

/-- The interval of a positive finite number. Below a power of two the numbers are
twice as dense, so there the lower end is nearer. -/
def roundingInterval (x : Binary64) : RoundingInterval :=
  let m := x.significand
  { value := 4 * m
    lower := if m = exponentWeight ∧ 1 < x.exponentField then 4 * m - 1 else 4 * m - 2
    upper := 4 * m + 2
    closed := m % 2 == 0 }

/-- The grid point `d * 10 ^ k`, in units of `2 ^ p`, lies in the interval. Both sides
are multiplied out so that only naturals are compared. -/
def RoundingInterval.holds (iv : RoundingInterval) (p : Int) (d : Nat) (k : Int) : Bool :=
  let point := (d * Nat.pow 10 k.toNat) <<< (-p).toNat
  let unit := Nat.pow 10 (-k).toNat <<< p.toNat
  if iv.closed then iv.lower * unit ≤ point && point ≤ iv.upper * unit
  else iv.lower * unit < point && point < iv.upper * unit

/-- The multiple of `10 ^ k` inside the interval that is nearest to the number, if any;
of two equally near the even one. -/
def RoundingInterval.onGrid (iv : RoundingInterval) (p : Int) (k : Int) : Option Nat :=
  let num := (iv.value * Nat.pow 10 (-k).toNat) <<< p.toNat
  let den := Nat.pow 10 k.toNat <<< (-p).toNat
  let d := num / den
  let below := iv.holds p d k
  let above := iv.holds p (d + 1) k
  let isAboveNearer := den < 2 * (num % den) || den = 2 * (num % den) && d % 2 = 1
  if below && above then some (if isAboveNearer then d + 1 else d)
  else if below then some d
  else if above then some (d + 1)
  else none

/-- The first grid with a point inside, going down from `10 ^ k`. -/
def RoundingInterval.search (iv : RoundingInterval) (p : Int) : Nat → Int → Nat × Int
  | 0, k => (0, k)
  | n + 1, k =>
    match iv.onGrid p k with
    | some d => (d, k)
    | none => iv.search p n (k - 1)

/-- Digits and power of ten of the shortest decimal that rounds to a positive finite
number. The search starts above the number and needs at most 17 digits. -/
def shortest (x : Binary64) : Nat × Int :=
  let top : Int := ((Nat.log2 x.significand : Int) + x.power) * 30103 / 100000 + 2
  x.roundingInterval.search (x.power - 2) 24 top

/-- `d * 10 ^ k` in positional notation, with at least one digit after the point. -/
def positional (d : Nat) (k : Int) : List Char :=
  let ds := Nat.toDigits 10 d
  if 0 ≤ k then ds ++ List.replicate k.toNat '0' ++ ['.', '0']
  else
    let places := (-k).toNat
    if places < ds.length then
      ds.take (ds.length - places) ++ '.' :: ds.drop (ds.length - places)
    else '0' :: '.' :: (List.replicate (places - ds.length) '0' ++ ds)

/-- `d * 10 ^ k` with one digit before the point and the power of ten, with its sign, after
an `e`; a single digit stands without a point. -/
def scientific (d : Nat) (k : Int) : List Char :=
  let ds := Nat.toDigits 10 d
  let exponent : Int := k + ds.length - 1
  let sign := if exponent < 0 then '-' else '+'
  (if ds.length = 1 then ds else ds.take 1 ++ '.' :: ds.drop 1)
    ++ 'e' :: sign :: Nat.toDigits 10 exponent.natAbs

/-- A number as messages show it: the shortest digits, in positional notation if the
point is at most 16 places behind or 4 places before the first digit. -/
def text (x : Binary64) : String :=
  if x.isNaN then "NaN"
  else
    let body :=
      if !x.isFinite then ['i', 'n', 'f']
      else if x.isZero then ['0', '.', '0']
      else
        let s := x.shortest
        let point : Int := (Nat.toDigits 10 s.1).length + s.2
        if -5 < point ∧ point ≤ 16 then positional s.1 s.2 else scientific s.1 s.2
    String.ofList (if x.isNegative then '-' :: body else body)

end SyncLedger.Binary64
