/-!
# Decimal numerals

The plain decimal spelling of natural numbers and integers.
-/

namespace Diagnostics.Decimal

/-- The decimal digits of a natural number, without leading zeros. -/
def digits (n : Nat) : List Char :=
  Nat.toDigits 10 n

/-- The decimal spelling of an integer, with a minus sign in front of a negative one. -/
def numeralChars : Int → List Char
  | .ofNat n => digits n
  | .negSucc n => '-' :: digits (n + 1)

/-- The decimal spelling of an integer. -/
def numeral (i : Int) : String :=
  String.ofList (numeralChars i)

/-- The number of digits beyond which integers and their spellings are not turned into each other. -/
def maxDigits : Nat := 4300

/-- The integer has too many digits to be spelled. -/
def isOverlong (i : Int) : Bool :=
  Nat.pow 10 maxDigits ≤ i.natAbs

end Diagnostics.Decimal
