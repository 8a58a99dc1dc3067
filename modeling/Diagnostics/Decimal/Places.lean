import Diagnostics.Decimal.Shortest

/-!
# Decimal text of a chosen precision

`fixedChars` writes a nonnegative fraction with a given number of places behind the
point, `scientificChars` with an exponent, and `generalChars` in whichever of the two
forms suits the size of the number. The digits are exact: the fraction is rounded once,
to the nearest number of so many digits, a tie to the even one.
-/

namespace Diagnostics.Decimal

/-- The size of a finite double as a numerator and a denominator. -/
def Binary64.fraction (x : Binary64) : Nat × Nat :=
  let s := x.significand
  (s.1 * Nat.pow 2 (s.2 - 1074), Nat.pow 2 (1074 - s.2))

/-- The integer nearest to zero on this side of a finite double. -/
def Binary64.truncated (x : Binary64) : Int :=
  let f := x.fraction
  let size : Int := (f.1 / f.2 : Nat)
  if x.isNegative then -size else size

/-- The digits of a number with zeros in front, at least `width` of them. -/
def paddedDigits (width n : Nat) : List Char :=
  let ds := digits n
  List.replicate (width - ds.length) '0' ++ ds

/-- Digits with those behind the point; a point without digits behind it shows only when it is
asked for. -/
def pointed (point : Bool) (whole behind : List Char) : List Char :=
  if behind.isEmpty && !point then whole else whole ++ '.' :: behind

/-- The fraction `n / d` with a number of places behind the point. -/
def fixedChars (point : Bool) (places n d : Nat) : List Char :=
  let ds := paddedDigits (places + 1) (Binary64.roundDiv (n * Nat.pow 10 places) d)
  pointed point (ds.take (ds.length - places)) (ds.drop (ds.length - places))

/-- The first `count` digits of the fraction `n / d`, rounded, and the number of places before the
point. -/
def significantDigits (count n d : Nat) : List Char × Int :=
  if n = 0 then (List.replicate count '0', 1)
  else
    let places := placesBeforePoint n d
    let exponent : Int := count - places
    let ds := digits
      (Binary64.roundDiv (n * Nat.pow 10 exponent.toNat) (d * Nat.pow 10 (-exponent).toNat))
    if count < ds.length then (ds.take count, places + 1) else (ds, places)

/-- Digits with the point behind the first of them and the exponent that is then due. -/
def withExponent (point : Bool) (ds : List Char) (places : Int) : List Char :=
  pointed point (ds.take 1) (ds.drop 1) ++ 'e' :: exponentChars (places - 1)

/-- The fraction `n / d` with an exponent and a number of places behind the point. -/
def scientificChars (point : Bool) (places n d : Nat) : List Char :=
  let found := significantDigits (places + 1) n d
  withExponent point found.1 found.2

/-- Zeros at the end are dropped, unless they are asked for. -/
def trimmed (keep : Bool) (ds : List Char) : List Char :=
  if keep then ds else (ds.reverse.dropWhile (· == '0')).reverse

/-- The fraction `n / d` with `count` digits, at least one: positional from 10⁻⁴ up to the size that
the digits reach, and with an exponent elsewhere. Zeros at the end show only with the point. -/
def generalChars (point : Bool) (count n d : Nat) : List Char :=
  let count := max 1 count
  let found := significantDigits count n d
  let places := found.2
  if places ≤ -4 || (count : Int) < places then
    withExponent point (found.1.take 1 ++ trimmed point (found.1.drop 1)) places
  else if places ≤ 0 then
    pointed point ['0'] (List.replicate (-places).toNat '0' ++ trimmed point found.1)
  else
    pointed point (found.1.take places.toNat) (trimmed point (found.1.drop places.toNat))

end Diagnostics.Decimal
