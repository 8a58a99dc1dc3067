import Diagnostics.Text.Ranges

/-!
# Digits

`decimal?` gives the value of a decimal digit of any script and `isDigit` is the
wider class that also holds superscripts, circled digits and the like, which have a
digit value but no place in a numeral. `natural?` and `integer?` read numerals
written in decimal digits.
-/

namespace Diagnostics.Text

/-- The code points of the digit zero in the scripts that write numbers in base ten. -/
def zeroPoints : List Nat :=
  [0x30, 0x660, 0x6f0, 0x7c0, 0x966, 0x9e6, 0xa66, 0xae6, 0xb66, 0xbe6, 0xc66, 0xce6, 0xd66,
    0xde6, 0xe50, 0xed0, 0xf20, 0x1040, 0x1090, 0x17e0, 0x1810, 0x1946, 0x19d0, 0x1a80, 0x1a90,
    0x1b50, 0x1bb0, 0x1c40, 0x1c50, 0xa620, 0xa8d0, 0xa900, 0xa9d0, 0xa9f0, 0xaa50, 0xabf0,
    0xff10, 0x104a0, 0x10d30, 0x11066, 0x110f0, 0x11136, 0x111d0, 0x112f0, 0x11450, 0x114d0,
    0x11650, 0x116c0, 0x11730, 0x118e0, 0x11950, 0x11c50, 0x11d50, 0x11da0, 0x16a60, 0x16ac0,
    0x16b50, 0x1d7ce, 0x1d7d8, 0x1d7e2, 0x1d7ec, 0x1d7f6, 0x1e140, 0x1e2f0, 0x1e950, 0x1fbf0]

/-- The digits that are not decimal: superscripts, subscripts, circled and bracketed digits. -/
def otherDigitRanges : List (Nat × Nat) :=
  [(0xb2, 0xb3), (0xb9, 0xb9), (0x1369, 0x1371), (0x19da, 0x19da), (0x2070, 0x2070),
    (0x2074, 0x2079), (0x2080, 0x2089), (0x2460, 0x2468), (0x2474, 0x247c), (0x2488, 0x2490),
    (0x24ea, 0x24ea), (0x24f5, 0x24fd), (0x24ff, 0x24ff), (0x2776, 0x277e), (0x2780, 0x2788),
    (0x278a, 0x2792), (0x10a40, 0x10a43), (0x10e60, 0x10e68), (0x11052, 0x1105a),
    (0x1f100, 0x1f10a)]

/-- The value of a decimal digit. -/
def decimal? (c : Char) : Option Nat :=
  (zeroPoints.find? fun z => z ≤ c.toNat && c.toNat ≤ z + 9).map (c.toNat - ·)

/-- The character is a digit of some kind. -/
def isDigit (c : Char) : Bool :=
  (decimal? c).isSome || inRanges otherDigitRanges c.toNat

/-- The number that the decimal digits denote, read on from the value of those before. -/
def naturalFrom (before : Nat) : List Char → Option Nat
  | [] => some before
  | c :: cs => (decimal? c).bind fun d => naturalFrom (10 * before + d) cs

/-- The number that a nonempty run of decimal digits denotes. -/
def natural? (cs : List Char) : Option Nat :=
  if cs.isEmpty then none else naturalFrom 0 cs

/-- The blanks that may surround an integer numeral. -/
def isNumeralBlank (c : Char) : Bool :=
  inRanges [(0x9, 0xd), (0x20, 0x20), (0x85, 0x85), (0xa0, 0xa0), (0x1680, 0x1680),
    (0x2000, 0x200a), (0x2028, 0x2029), (0x202f, 0x202f), (0x205f, 0x205f), (0x3000, 0x3000)] c.toNat

/-- A numeral with its single underscores between digits taken out; an underscore elsewhere
makes it no numeral. -/
def dropUnderscores : List Char → Option (List Char)
  | [] => some []
  | ['_'] => none
  | c :: '_' :: d :: cs =>
    if c == '_' || d == '_' then none else (dropUnderscores (d :: cs)).map (c :: ·)
  | c :: cs => if c == '_' then none else (dropUnderscores cs).map (c :: ·)

/-- The integer that a numeral denotes: blanks around it, a sign, and single underscores
between the digits are allowed. -/
def integer? (s : String) : Option Int :=
  let body := ((s.toList.dropWhile isNumeralBlank).reverse.dropWhile isNumeralBlank).reverse
  match body with
  | '-' :: digits => (dropUnderscores digits).bind fun ds => (natural? ds).map fun n => -(n : Int)
  | '+' :: digits => (dropUnderscores digits).bind fun ds => (natural? ds).map Int.ofNat
  | digits => (dropUnderscores digits).bind fun ds => (natural? ds).map Int.ofNat

end Diagnostics.Text
