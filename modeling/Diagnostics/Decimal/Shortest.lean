import Diagnostics.Decimal.Binary64
import Diagnostics.Decimal.Numeral

/-!
# The shortest decimal text of a double

A finite double stands for all real numbers that round to it. `shortestDigits` finds
the fewest decimal digits that denote one of them: it tries one digit, two, and so on,
and tests the two neighbours of the double on each decimal grid. `Binary64.chars`
writes them in positional notation when the point falls near them and with an exponent
otherwise.
-/

namespace Diagnostics.Decimal

/-- The real numbers that round to a positive double, as multiples of `1 / scale`: those
between `low` and `high`, the ends included when `closed`; the double itself is `centre`. -/
structure RoundingInterval where
  low : Nat
  centre : Nat
  high : Nat
  scale : Nat
  closed : Bool

/-- The interval of a double of size `m · 2 ^ (q - 1074)`. The gap below a power of two is half
the gap above it. -/
def RoundingInterval.ofSignificand (m q : Nat) : RoundingInterval :=
  let below := if m = Nat.pow 2 52 && q ≠ 0 then 1 else 2
  let factor := Nat.pow 2 (q - 1076)
  ⟨(4 * m - below) * factor, 4 * m * factor, (4 * m + 2) * factor, Nat.pow 2 (1076 - q), m % 2 = 0⟩

/-- The decimal number `n · 10 ^ exponent` lies in the interval. -/
def RoundingInterval.holds (r : RoundingInterval) (n : Nat) (exponent : Int) : Bool :=
  let up := Nat.pow 10 exponent.toNat
  let down := Nat.pow 10 (-exponent).toNat
  let x := n * up * r.scale
  if r.closed then r.low * down ≤ x && x ≤ r.high * down
  else r.low * down < x && x < r.high * down

/-- The number of places before the decimal point, `p` with `10 ^ (p - 1) ≤ n / d < 10 ^ p`. -/
def placesBeforePoint (n d : Nat) : Int :=
  if d ≤ n then (digits (n / d)).length else 1 - (digits ((d - 1) / n)).length

/-- Tries grids of `count`, `count + 1`, … significant digits, at most `fuel` of them, and gives
the digits as a number with their count; seventeen digits always suffice. -/
def shortestFrom (r : RoundingInterval) (places : Int) : Nat → Nat → Nat × Nat
  | 0, count => (r.centre, count)
  | fuel + 1, count =>
    let exponent := places - count
    let n := r.centre * Nat.pow 10 (-exponent).toNat
    let d := r.scale * Nat.pow 10 exponent.toNat
    let floor := n / d
    let rest := n % d
    let lowHit := r.holds floor exponent
    let highHit := r.holds (floor + 1) exponent
    if lowHit && highHit then
      (if 2 * rest < d || (2 * rest == d && floor % 2 == 0) then floor else floor + 1, count)
    else if lowHit then (floor, count)
    else if highHit then (floor + 1, count)
    else shortestFrom r places fuel (count + 1)

/-- The fewest digits that denote a positive double, with the number of places before the
decimal point. -/
def shortestDigits (m q : Nat) : List Char × Int :=
  let r := RoundingInterval.ofSignificand m q
  let places := placesBeforePoint r.centre r.scale
  let found := shortestFrom r places 17 1
  let spelled := digits found.1
  (spelled, places + (spelled.length - found.2))

/-- The exponent with its sign and at least two digits. -/
def exponentChars (e : Int) : List Char :=
  let size := digits e.natAbs
  (if e < 0 then '-' else '+') :: (if size.length < 2 then '0' :: size else size)

/-- Digits with the decimal point after `places` of them: positional for 10⁻⁴ up to below 10¹⁶,
always with a digit on both sides of the point, and scientific elsewhere. -/
def notationOf (ds : List Char) (places : Int) : List Char :=
  if places ≤ -4 || 16 < places then
    ds.take 1 ++ (if ds.length ≤ 1 then [] else '.' :: ds.drop 1) ++ 'e' :: exponentChars (places - 1)
  else if places ≤ 0 then
    '0' :: '.' :: List.replicate (-places).toNat '0' ++ ds
  else
    let whole := ds.take places.toNat
    let fraction := ds.drop places.toNat
    whole ++ List.replicate (places.toNat - ds.length) '0' ++ '.' ::
      (if fraction.isEmpty then ['0'] else fraction)

/-- Drops the zeros at the end of a digit string but for the first digit. -/
def dropTrailingZeros (ds : List Char) : List Char :=
  match (ds.reverse.dropWhile (· == '0')).reverse with
  | [] => ['0']
  | kept => kept

/-- The text of a double: the sign, then its shortest digits; `infinite` and `undefined` are the
words for the values that have none. -/
def Binary64.chars (x : Binary64) (infinite undefined : List Char) : List Char :=
  if x.isNaN then undefined
  else
    (if x.isNegative then ['-'] else []) ++
      if !x.isFinite then infinite
      else
        let s := x.significand
        if s.1 = 0 then ['0', '.', '0']
        else
          let found := shortestDigits s.1 s.2
          notationOf (dropTrailingZeros found.1) found.2

end Diagnostics.Decimal
