import Diagnostics.Decimal.Places
import Diagnostics.Template.Directive
import Diagnostics.Value

/-!
# Showing a value

`Conversion.render` is a value in the form that the letter of a directive asks for, as
wide and as precise as it asks for. A `Fault` says why a template cannot be filled.
-/

namespace Diagnostics.Template

open Decimal Text

/-- Why a template cannot be filled. -/
inductive Fault
  /-- A directive names a value, and values have no names. -/
  | noNames
  /-- The template ends within a name. -/
  | openKey
  /-- No value has the name. -/
  | unknownName (name : String)
  /-- The template ends within a directive. -/
  | incomplete
  | tooFewValues
  | tooManyValues
  /-- A width or a precision is no integer. -/
  | badSize
  | widthTooBig
  | precisionTooBig
  /-- A width among the values is too large. -/
  | widthOverflow
  /-- A precision among the values is too large. -/
  | precisionOverflow
  /-- More digits of an integer are asked for than there is room. -/
  | digitOverflow
  /-- The value is no number that has an integer part. -/
  | notReal (letter : Char) (kindName : String)
  /-- The value is no integer. -/
  | notInteger (letter : Char) (kindName : String)
  /-- The value is no number. -/
  | notNumber (kindName : String)
  | undefinedAsInteger
  | infiniteAsInteger
  /-- The integer is larger than all doubles. -/
  | integerTooLarge
  /-- The value is neither a character nor the number of one. -/
  | notCharacter
  /-- The number is not that of a character. -/
  | noCharacter
  /-- No conversion has the letter. -/
  | unknownLetter (c : Conversion)
deriving DecidableEq, Repr

/-- The number in hexadecimal digits, as few as possible. -/
def shortHex (n : Nat) : List Char :=
  Nat.toDigits 16 n

/-- The letter as a message shows it: a question mark for one outside of the basic range. -/
def shownLetter (c : Char) : Char :=
  if 31 ≤ c.toNat && c.toNat ≤ 126 then c else '?'

/-- The wording of a fault. -/
def Fault.message : Fault → String
  | noNames => "format requires a mapping"
  | openKey => "incomplete format key"
  | unknownName name => quoted name
  | incomplete => "incomplete format"
  | tooFewValues => "not enough arguments for format string"
  | tooManyValues => "not all arguments converted during string formatting"
  | badSize => "* wants int"
  | widthTooBig => "width too big"
  | precisionTooBig => "precision too big"
  | widthOverflow => "Python int too large to convert to C ssize_t"
  | precisionOverflow => "Python int too large to convert to C int"
  | digitOverflow => "precision too large"
  | notReal letter kindName =>
    "%" ++ letter.toString ++ " format: a real number is required, not " ++ kindName
  | notInteger letter kindName =>
    "%" ++ letter.toString ++ " format: an integer is required, not " ++ kindName
  | notNumber kindName => "must be real number, not " ++ kindName
  | undefinedAsInteger => "cannot convert float NaN to integer"
  | infiniteAsInteger => "cannot convert float infinity to integer"
  | integerTooLarge => "int too large to convert to float"
  | notCharacter => "%c requires int or char"
  | noCharacter => "%c arg not in range(0x110000)"
  | unknownLetter c =>
    "unsupported format character '" ++ (shownLetter c.letter).toString ++ "' (0x"
      ++ String.ofList (shortHex c.letter.toNat) ++ ") at index " ++ toString c.index

/-! ### Fields -/

/-- A directive whose sizes are known. -/
structure Shape where
  flags : Flags := {}
  width : Nat := 0
  precision : Option Nat := none

namespace Shape

/-- A text in its field. -/
def pad (s : Shape) (text : List Char) : List Char :=
  let filling := List.replicate (s.width - text.length) ' '
  if s.flags.left then text ++ filling else filling ++ text

/-- The sign of a number. -/
def sign (s : Shape) (negative : Bool) : List Char :=
  if negative then ['-'] else if s.flags.plus then ['+'] else if s.flags.blank then [' '] else []

/-- A number in its field; `mark` stands between the sign and the digits. Zeros that fill the field
stand behind the mark. -/
def padNumber (s : Shape) (negative : Bool) (mark ds : List Char) : List Char :=
  let front := s.sign negative ++ mark
  if s.flags.zero && !s.flags.left then
    front ++ List.replicate (s.width - (front.length + ds.length)) '0' ++ ds
  else s.pad (front ++ ds)

/-- A text in its field, cut to the precision. -/
def text (s : Shape) (cs : List Char) : List Char :=
  s.pad ((s.precision.map cs.take).getD cs)

end Shape

/-! ### Integers -/

/-- The integer part of a value that has one. -/
def integerPart (letter : Char) : Value String → Except Fault Int
  | .int i => .ok i
  | .bool b => .ok (if b then 1 else 0)
  | .float x =>
    if x.isNaN then .error .undefinedAsInteger
    else if !x.isFinite then .error .infiniteAsInteger
    else .ok x.truncated
  | v => .error (.notReal letter v.kindName)

/-- The value as an integer. -/
def integer (letter : Char) : Value String → Except Fault Int
  | .int i => .ok i
  | .bool b => .ok (if b then 1 else 0)
  | v => .error (.notInteger letter v.kindName)

/-- The largest number that a precision may be. -/
def maxPrecision : Nat := 2147483647

/-- The largest number that a width may be. -/
def maxWidth : Nat := 9223372036854775807

/-- An integer in its field: with at least as many digits as the precision asks for, in the given
base. -/
def Shape.integer (s : Shape) (base : Nat) (mark : List Char) (i : Int) : Except Fault (List Char) :=
  let precision := s.precision.getD 0
  if maxPrecision - 3 < precision then .error .digitOverflow
  else
    let ds := Nat.toDigits base i.natAbs
    .ok (s.padNumber (i < 0) mark (List.replicate (precision - ds.length) '0' ++ ds))

/-! ### Numbers with a fraction -/

/-- The value as a double. -/
def double : Value String → Except Fault Binary64
  | .float x => .ok x
  | .bool b => .ok (Binary64.ofDecimal false (if b then 1 else 0) 0)
  | .int i =>
    let x := Binary64.ofDecimal (i < 0) i.natAbs 0
    if x.isFinite then .ok x else .error .integerTooLarge
  | v => .error (.notNumber v.kindName)

/-- A double in its field; `write` writes the size of a finite one, with a point if it is asked to
and with the precision, a numerator and a denominator. -/
def Shape.double (s : Shape) (write : Bool → Nat → Nat → Nat → List Char) (x : Binary64) :
    List Char :=
  if x.isNaN then s.padNumber false [] ['n', 'a', 'n']
  else
    let f := x.fraction
    let ds := if x.isFinite then write s.flags.full (s.precision.getD 6) f.1 f.2 else ['i', 'n', 'f']
    s.padNumber x.isNegative [] ds

/-! ### Characters -/

/-- The character that a value is or is the number of. -/
def character : Value String → Except Fault Char
  | .text s =>
    match s.toList with
    | [c] => .ok c
    | _ => .error .notCharacter
  | .int i =>
    if 0 ≤ i && i < 0x110000 then .ok (Char.ofNat i.toNat) else .error .noCharacter
  | .bool b => .ok (if b then '\x01' else '\x00')
  | _ => .error .notCharacter

/-- A character by its code point when it is not a basic one. -/
def asciiChar (c : Char) : List Char :=
  if c.toNat < 0x80 then [c]
  else if c.toNat < 0x100 then '\\' :: 'x' :: hexDigits 2 c.toNat
  else if c.toNat < 0x10000 then '\\' :: 'u' :: hexDigits 4 c.toNat
  else '\\' :: 'U' :: hexDigits 8 c.toNat

/-! ### Conversions -/

/-- The basic letters in upper case. -/
def capital (cs : List Char) : List Char :=
  cs.map Char.toUpper

/-- A value in its field, in the form that a letter asks for: `s` for the plain text, `r` for the
literal and `a` for the literal in basic characters; `d`, `i` and `u` for the integer part, `o` and
`x` for an integer in base eight and sixteen; `e`, `f` and `g` for a number with an exponent, without
one, and in the form that suits it; `c` for a character. -/
def Conversion.render (s : Shape) (v : Value String) (c : Conversion) : Except Fault (List Char) :=
  let mark (letter : Char) : List Char := if s.flags.full then ['0', letter] else []
  match c.letter with
  | 's' => .ok (s.text v.plain.toList)
  | 'r' => .ok (s.text v.literalChars)
  | 'a' => .ok (s.text (v.literalChars.flatMap asciiChar))
  | 'd' => (integerPart 'd' v).bind (s.integer 10 [])
  | 'i' => (integerPart 'i' v).bind (s.integer 10 [])
  | 'u' => (integerPart 'u' v).bind (s.integer 10 [])
  | 'o' => (integer 'o' v).bind (s.integer 8 (mark 'o'))
  | 'x' => (integer 'x' v).bind (s.integer 16 (mark 'x'))
  | 'X' => (integer 'X' v).bind fun i => (s.integer 16 (mark 'x') i).map capital
  | 'e' => (double v).map (s.double scientificChars)
  | 'E' => (double v).map fun x => capital (s.double scientificChars x)
  | 'f' => (double v).map (s.double fixedChars)
  | 'F' => (double v).map fun x => capital (s.double fixedChars x)
  | 'g' => (double v).map (s.double generalChars)
  | 'G' => (double v).map fun x => capital (s.double generalChars x)
  | 'c' => (character v).map fun ch => s.pad [ch]
  | _ => .error (.unknownLetter c)

end Diagnostics.Template
