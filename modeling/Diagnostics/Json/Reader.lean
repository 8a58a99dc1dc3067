import Diagnostics.Value
import Diagnostics.Text.Hex

/-!
# Reading JSON

`Json.read` reads a JSON text. The readers work on the characters that are left; a
reader that stops returns what was wrong together with the text from the place where
it was wrong, so a position is a difference of lengths. Besides JSON itself the words
`NaN`, `Infinity` and `-Infinity` are accepted as numbers. A member written twice
keeps its first place and its last value.
-/

namespace Diagnostics.Json

open Decimal Text

/-- What is wrong with a text that is not JSON. -/
inductive Cause
  | valueExpected
  | nameExpected
  | colonExpected
  | commaExpected
  | extraData
  | unterminatedString
  | controlCharacter
  | unknownEscape
  | badUnitEscape
  | byteOrderMark
deriving DecidableEq, Repr

/-- The wording of a cause. -/
def Cause.message : Cause → String
  | .valueExpected => "Expecting value"
  | .nameExpected => "Expecting property name enclosed in double quotes"
  | .colonExpected => "Expecting ':' delimiter"
  | .commaExpected => "Expecting ',' delimiter"
  | .extraData => "Extra data"
  | .unterminatedString => "Unterminated string starting at"
  | .controlCharacter => "Invalid control character at"
  | .unknownEscape => "Invalid \\escape"
  | .badUnitEscape => "Invalid \\uXXXX escape"
  | .byteOrderMark => "Unexpected UTF-8 BOM (decode using utf-8-sig)"

/-- Reading stopped for a cause at the text `rest`. -/
structure Stop where
  cause : Cause
  rest : List Char

/-- The outcome of a reader: what it read and the text behind it. -/
abbrev Read (α : Type) := Except Stop (α × List Char)

/-- The character is white space between the tokens of JSON. -/
def isSpace (c : Char) : Bool :=
  c == ' ' || c == '\t' || c == '\n' || c == '\r'

/-- The text behind the white space in front. -/
def skipSpace (cs : List Char) : List Char :=
  cs.dropWhile isSpace

/-! ### Strings -/

/-- The character that a one-letter escape stands for. -/
def escaped? : Char → Option Char
  | '"' => some '"'
  | '\\' => some '\\'
  | '/' => some '/'
  | 'b' => some '\x08'
  | 'f' => some '\x0c'
  | 'n' => some '\n'
  | 'r' => some '\r'
  | 't' => some '\t'
  | _ => none

/-- Puts units in front of those that a string reader read. -/
def withUnits (us : List UInt16) (r : Read (List UInt16)) : Read (List UInt16) :=
  r.map fun read => (us ++ read.1, read.2)

/-- Reads the units of a string up to its closing quote; `opening` is the text from the opening quote
on. A unit escape has to be followed by some character of the string. -/
def readUnits (opening : List Char) : List Char → Read (List UInt16)
  | [] => .error ⟨.unterminatedString, opening⟩
  | '"' :: rest => .ok ([], rest)
  | ['\\'] => .error ⟨.unterminatedString, opening⟩
  | '\\' :: 'u' :: a :: b :: c :: d :: x :: rest =>
    match hexValue? [a, b, c, d] with
    | none => .error ⟨.badUnitEscape, 'u' :: a :: b :: c :: d :: x :: rest⟩
    | some n => withUnits [.ofNat n] (readUnits opening (x :: rest))
  | '\\' :: 'u' :: rest => .error ⟨.badUnitEscape, 'u' :: rest⟩
  | '\\' :: letter :: rest =>
    match escaped? letter with
    | some c => withUnits (unitsOf c) (readUnits opening rest)
    | none => .error ⟨.unknownEscape, '\\' :: letter :: rest⟩
  | c :: rest =>
    if c.toNat < 0x20 then .error ⟨.controlCharacter, c :: rest⟩
    else withUnits (unitsOf c) (readUnits opening rest)

/-- Reads a string whose opening quote has been taken off. -/
def readString (rest : List Char) : Read RawText :=
  (readUnits ('"' :: rest) rest).map fun read => (⟨read.1⟩, read.2)

/-! ### Numbers -/

/-- The number that ASCII digits denote. -/
def naturalOf (ds : List Char) : Nat :=
  Nat.ofDigitChars 10 ds 0

/-- The digits in front, and the text behind them. -/
def spanDigits (cs : List Char) : List Char × List Char :=
  cs.span Char.isDigit

/-- The digits of the whole part: a zero alone, or digits that do not start with zero. -/
def spanWhole : List Char → List Char × List Char
  | '0' :: rest => (['0'], rest)
  | cs => spanDigits cs

/-- The digits of a fraction, when a point and a digit are in front. -/
def spanFraction : List Char → List Char × List Char
  | '.' :: rest =>
    match spanDigits rest with
    | ([], _) => ([], '.' :: rest)
    | found => found
  | cs => ([], cs)

/-- The exponent, when the letter for it and a digit are in front, a sign between them allowed. -/
def spanExponent (cs : List Char) : Option Int × List Char :=
  let tryDigits (sign : Int) (rest : List Char) : Option Int × List Char :=
    match spanDigits rest with
    | ([], _) => (none, cs)
    | (ds, behind) => (some (sign * naturalOf ds), behind)
  match cs with
  | 'e' :: '-' :: rest | 'E' :: '-' :: rest => tryDigits (-1) rest
  | 'e' :: '+' :: rest | 'E' :: '+' :: rest => tryDigits 1 rest
  | 'e' :: rest | 'E' :: rest => tryDigits 1 rest
  | _ => (none, cs)

/-- Reads a number without its sign: an integer, or a double when it has a fraction or an
exponent. -/
def readUnsigned? (negative : Bool) (cs : List Char) : Option (Value × List Char) :=
  match spanWhole cs with
  | ([], _) => none
  | (whole, behindWhole) =>
    let (fraction, behindFraction) := spanFraction behindWhole
    let (exponent, behind) := spanExponent behindFraction
    if fraction.isEmpty && exponent.isNone then
      let n := naturalOf whole
      some (.int (if negative then -(n : Int) else n), behind)
    else
      let n := naturalOf (whole ++ fraction)
      some (.float (Binary64.ofDecimal negative n (exponent.getD 0 - fraction.length)), behind)

/-- Reads a number, or one of the words for a double without digits. -/
def readNumber? : List Char → Option (Value × List Char)
  | 'N' :: 'a' :: 'N' :: rest => some (.float .nan, rest)
  | 'I' :: 'n' :: 'f' :: 'i' :: 'n' :: 'i' :: 't' :: 'y' :: rest => some (.float (.infinity false), rest)
  | '-' :: 'I' :: 'n' :: 'f' :: 'i' :: 'n' :: 'i' :: 't' :: 'y' :: rest =>
    some (.float (.infinity true), rest)
  | '-' :: rest => readUnsigned? true rest
  | cs => readUnsigned? false cs

/-! ### Values -/

mutual

/-- Reads a value that starts with the first character; `fuel` bounds the nesting. -/
def readValue : Nat → List Char → Read Value
  | 0, cs => .error ⟨.valueExpected, cs⟩
  | _ + 1, '"' :: rest => (readString rest).map fun read => (.text read.1, read.2)
  | fuel + 1, '{' :: rest =>
    match skipSpace rest with
    | '}' :: behind => .ok (.object [], behind)
    | cs => (readMembers fuel cs).map fun read => (.object (Members.ofWritten read.1), read.2)
  | fuel + 1, '[' :: rest =>
    match skipSpace rest with
    | ']' :: behind => .ok (.list [], behind)
    | cs => (readItems fuel cs).map fun read => (.list read.1, read.2)
  | _ + 1, 'n' :: 'u' :: 'l' :: 'l' :: rest => .ok (.null, rest)
  | _ + 1, 't' :: 'r' :: 'u' :: 'e' :: rest => .ok (.bool true, rest)
  | _ + 1, 'f' :: 'a' :: 'l' :: 's' :: 'e' :: rest => .ok (.bool false, rest)
  | _ + 1, cs =>
    match readNumber? cs with
    | some read => .ok read
    | none => .error ⟨.valueExpected, cs⟩

/-- Reads the items of a list from its first one to the closing bracket. -/
def readItems : Nat → List Char → Read (List Value)
  | 0, cs => .error ⟨.valueExpected, cs⟩
  | fuel + 1, cs =>
    match readValue fuel cs with
    | .error stop => .error stop
    | .ok (v, rest) =>
      match skipSpace rest with
      | ']' :: behind => .ok ([v], behind)
      | ',' :: more => (readItems fuel (skipSpace more)).map fun read => (v :: read.1, read.2)
      | other => .error ⟨.commaExpected, other⟩

/-- Reads the members of an object from the first name to the closing brace. -/
def readMembers : Nat → List Char → Read Members
  | 0, cs => .error ⟨.nameExpected, cs⟩
  | fuel + 1, '"' :: cs =>
    match readString cs with
    | .error stop => .error stop
    | .ok (key, rest) =>
      match skipSpace rest with
      | ':' :: behindColon =>
        match readValue fuel (skipSpace behindColon) with
        | .error stop => .error stop
        | .ok (v, behindValue) =>
          match skipSpace behindValue with
          | '}' :: behind => .ok ([(key, v)], behind)
          | ',' :: more => (readMembers fuel (skipSpace more)).map fun read => ((key, v) :: read.1, read.2)
          | other => .error ⟨.commaExpected, other⟩
      | other => .error ⟨.colonExpected, other⟩
  | _ + 1, cs => .error ⟨.nameExpected, cs⟩

end

/-- Reads a whole text: one value with white space around it. The value readers take at most two
steps for each character, which is what the fuel allows. -/
def readAll : List Char → Except Stop Value
  | '\ufeff' :: cs => .error ⟨.byteOrderMark, '\ufeff' :: cs⟩
  | cs =>
    match readValue (2 * cs.length + 1) (skipSpace cs) with
    | .error stop => .error stop
    | .ok (v, rest) =>
      match skipSpace rest with
      | [] => .ok v
      | behind => .error ⟨.extraData, behind⟩

/-! ### Faults -/

/-- A cause at a place of the text: the count of characters before it, its line and column. -/
structure Fault where
  cause : Cause
  position : Nat
  line : Nat
  column : Nat
deriving DecidableEq, Repr

/-- The fault of a reader that stopped in `text`. Lines end with LF. -/
def Fault.ofStop (text : List Char) (stop : Stop) : Fault :=
  let before := text.take (text.length - stop.rest.length)
  { cause := stop.cause
    position := before.length
    line := before.count '\n' + 1
    column := (before.reverse.takeWhile (· ≠ '\n')).length + 1 }

/-- The wording of a fault with its place. -/
def Fault.message (f : Fault) : String :=
  f.cause.message ++ ": line " ++ toString f.line ++ " column " ++ toString f.column ++ " (char "
    ++ toString f.position ++ ")"

/-- The value that a JSON text denotes. -/
def read (s : String) : Except Fault Value :=
  (readAll s.toList).mapError (Fault.ofStop s.toList)

end Diagnostics.Json
