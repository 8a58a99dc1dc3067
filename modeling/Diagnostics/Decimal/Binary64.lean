/-!
# Double-precision numbers

A `Binary64` is the bit pattern of an IEEE 754 double. `Binary64.significand` splits a
finite one into a natural significand and a power of two, and `Binary64.ofDecimal`
is the double nearest to a decimal number, a tie going to the even significand. All
of it is exact arithmetic on natural numbers.
-/

namespace Diagnostics.Decimal

/-- The bit pattern of a double-precision number. -/
structure Binary64 where
  bits : UInt64
deriving DecidableEq, Repr

namespace Binary64

/-- The sign bit is set. -/
def isNegative (x : Binary64) : Bool :=
  Nat.pow 2 63 ≤ x.bits.toNat

/-- The bits below the sign. -/
def unsignedBits (x : Binary64) : Nat :=
  x.bits.toNat % Nat.pow 2 63

/-- The unsigned bits of infinity; those above are not numbers. -/
def infinityBits : Nat :=
  0x7ff * Nat.pow 2 52

/-- The double with a sign and unsigned bits. -/
def ofBits (negative : Bool) (unsigned : Nat) : Binary64 :=
  ⟨UInt64.ofNat ((if negative then Nat.pow 2 63 else 0) + unsigned)⟩

/-- Infinity with a sign. -/
def infinity (negative : Bool) : Binary64 :=
  ofBits negative infinityBits

/-- The quiet pattern that is not a number. -/
def nan : Binary64 :=
  ofBits false (infinityBits + Nat.pow 2 51)

/-- The number is neither infinite nor undefined. -/
def isFinite (x : Binary64) : Bool :=
  x.unsignedBits < infinityBits

/-- The number is undefined. -/
def isNaN (x : Binary64) : Bool :=
  infinityBits < x.unsignedBits

/-- The significand `m` and the exponent `q` of a finite double of size `m · 2 ^ (q - 1074)`. -/
def significand (x : Binary64) : Nat × Nat :=
  let e := x.unsignedBits / Nat.pow 2 52
  let f := x.unsignedBits % Nat.pow 2 52
  if e = 0 then (f, 0) else (f + Nat.pow 2 52, e - 1)

/-- The quotient rounded to the nearest natural number, a tie to the even one. -/
def roundDiv (n d : Nat) : Nat :=
  let quotient := n / d
  let rest := n % d
  if d < 2 * rest || (2 * rest == d && quotient % 2 == 1) then quotient + 1 else quotient

/-- The exponent `q` of the grid `2 ^ (q - 1074)` on which the ratio `n / d` of positive
numbers is rounded: its quotient has fifty-three bits, or fewer on the finest grid. -/
def gridExponent (n d : Nat) : Nat :=
  let estimate : Int := (n.log2 : Int) - d.log2 - 52
  let tooCoarse : Bool :=
    if 0 ≤ estimate then n < d * Nat.pow 2 (estimate.toNat + 52)
    else n * Nat.pow 2 (-estimate).toNat < d * Nat.pow 2 52
  ((if tooCoarse then estimate - 1 else estimate) + 1074).toNat

/-- The unsigned bits of the double nearest to `n / d`, for positive `d`. -/
def nearestBits (n d : Nat) : Nat :=
  if n = 0 then 0
  else
    let q := gridExponent n d
    let m := if 1074 ≤ q then roundDiv n (d * Nat.pow 2 (q - 1074)) else roundDiv (n * Nat.pow 2 (1074 - q)) d
    min (q * Nat.pow 2 52 + m) infinityBits

/-- The double nearest to `± n · 10 ^ exponent`. A number of more than 310 places before the
point is infinite and one of more than 330 zeros behind it is zero, so no larger power of
ten is computed. -/
def ofDecimal (negative : Bool) (n : Nat) (exponent : Int) : Binary64 :=
  let places : Int := (Nat.toDigits 10 n).length + exponent
  if n = 0 || places < -330 then ofBits negative 0
  else if 310 < places then infinity negative
  else if 0 ≤ exponent then ofBits negative (nearestBits (n * Nat.pow 10 exponent.toNat) 1)
  else ofBits negative (nearestBits n (Nat.pow 10 (-exponent).toNat))

end Binary64

end Diagnostics.Decimal
