import Diagnostics.Json.Reader
import Diagnostics.Toml.Basic
import Diagnostics.Value

/-!
# TOML scalars

The readers for the strings, numbers, truth values and dates of TOML. A date is kept
as its text.
-/

namespace Diagnostics.Toml

open Decimal Text

/-- What a reader read and the text behind it, or nothing when the text does not match. -/
abbrev Read (α : Type) := Option (α × List Char)

/-- A blank within a line. -/
def isInline (c : Char) : Bool :=
  c == ' ' || c == '\t'

/-- The text behind the blanks in front. -/
def skipInline (cs : List Char) : List Char :=
  cs.dropWhile isInline

/-- Adds a character to what a string reader read. -/
def consRead (c : Char) (r : Read (List Char)) : Read (List Char) :=
  r.map fun read => (c :: read.1, read.2)

/-! ### Strings -/

/-- Adds a character, when there is one, to what a string reader read. -/
def consRead? (c : Option Char) (r : Read (List Char)) : Read (List Char) :=
  match c with
  | some c => consRead c r
  | none => none

/-- The character whose code point the hexadecimal digits give; there is none for surrogates and
beyond the last plane. -/
def point? (digits : List Char) : Option Char :=
  match hexValue? digits with
  | some n => if n.isValidChar then some (Char.ofNat n) else none
  | none => none

/-- Reads the rest of a basic string behind its opening quote. -/
def readBasic : List Char → Read (List Char)
  | [] => none
  | '"' :: rest => some ([], rest)
  | '\\' :: 'u' :: a :: b :: c :: d :: rest => consRead? (point? [a, b, c, d]) (readBasic rest)
  | '\\' :: 'U' :: a :: b :: c :: d :: e :: f :: g :: h :: rest =>
    consRead? (point? [a, b, c, d, e, f, g, h]) (readBasic rest)
  | '\\' :: letter :: rest => consRead? (escaped? letter) (readBasic rest)
  | c :: rest => if isControl c then none else consRead c (readBasic rest)

/-- Reads the rest of a literal string behind its opening quote. -/
def readLiteral : List Char → Read (List Char)
  | [] => none
  | '\'' :: rest => some ([], rest)
  | c :: rest => if isControl c then none else consRead c (readLiteral rest)

/-- The backslash before this text ends its line. -/
def endsLine (cs : List Char) : Bool :=
  (skipInline cs).head? = some '\n'

/-- Reads the rest of a basic string over several lines. Behind a backslash at the end of a line,
white space is skipped. Up to two quotes may stand before the closing three. -/
def readLongBasic : (skipping : Bool) → List Char → Read (List Char)
  | _, [] => none
  | _, '"' :: '"' :: '"' :: '"' :: '"' :: rest => some (['"', '"'], rest)
  | _, '"' :: '"' :: '"' :: '"' :: rest => some (['"'], rest)
  | _, '"' :: '"' :: '"' :: rest => some ([], rest)
  | _, '\\' :: 'u' :: a :: b :: c :: d :: rest =>
    consRead? (point? [a, b, c, d]) (readLongBasic false rest)
  | _, '\\' :: 'U' :: a :: b :: c :: d :: e :: f :: g :: h :: rest =>
    consRead? (point? [a, b, c, d, e, f, g, h]) (readLongBasic false rest)
  | _, '\\' :: c :: rest =>
    if endsLine (c :: rest) then readLongBasic true rest
    else consRead? (escaped? c) (readLongBasic false rest)
  | skipping, c :: rest =>
    if skipping && (isInline c || c = '\n') then readLongBasic true rest
    else if isControl c && c ≠ '\n' then none
    else consRead c (readLongBasic false rest)

/-- Reads the rest of a literal string over several lines. -/
def readLongLiteral : List Char → Read (List Char)
  | [] => none
  | '\'' :: '\'' :: '\'' :: '\'' :: '\'' :: rest => some (['\'', '\''], rest)
  | '\'' :: '\'' :: '\'' :: '\'' :: rest => some (['\''], rest)
  | '\'' :: '\'' :: '\'' :: rest => some ([], rest)
  | c :: rest => if isControl c && c ≠ '\n' then none else consRead c (readLongLiteral rest)

/-- The text behind a line break in front. -/
def dropBreak : List Char → List Char
  | '\n' :: rest => rest
  | cs => cs

/-- Reads a string of any of the four kinds. -/
def readString : List Char → Read (List Char)
  | '"' :: '"' :: '"' :: rest => readLongBasic false (dropBreak rest)
  | '"' :: rest => readBasic rest
  | '\'' :: '\'' :: '\'' :: rest => readLongLiteral (dropBreak rest)
  | '\'' :: rest => readLiteral rest
  | _ => none

/-! ### Numbers and words -/

/-- A digit run without its underscores, each of which has to stand between two digits. -/
def dropSeparators : List Char → Option (List Char)
  | [] => some []
  | ['_'] => none
  | '_' :: '_' :: _ => none
  | '_' :: cs => dropSeparators cs
  | c :: cs => (dropSeparators cs).map (c :: ·)

/-- The digits in front, underscores taken out, and the text behind them; `isOne` tells a digit. -/
def readDigits (isOne : Char → Bool) (cs : List Char) : Read (List Char) :=
  match cs.span fun c => isOne c || c = '_' with
  | ([], _) => none
  | ('_' :: _, _) => none
  | (run, rest) => (dropSeparators run).map fun ds => (ds, rest)

/-- The number that digits denote in a base. -/
def valueIn (base : Nat) (ds : List Char) : Nat :=
  ds.foldl (fun n c => base * n + (hexDigit? c).getD 0) 0

/-- The integer in a base other than ten that a token is as a whole. -/
def basedInteger? (base : Nat) (cs : List Char) : Option Value :=
  match readDigits (fun c => ((hexDigit? c).map fun d => decide (d < base)).getD false) cs with
  | some (ds, []) => some (.int (valueIn base ds))
  | _ => none

/-- The fraction of a number: the digits behind a point, none when there is no point. -/
def readFraction : List Char → Read (Option (List Char))
  | '.' :: rest => (readDigits Char.isDigit rest).map fun read => (some read.1, read.2)
  | cs => some (none, cs)

/-- The exponent that a token ends with, none when it ends before. -/
def readExponent : List Char → Option (Option Int)
  | [] => some none
  | 'e' :: rest | 'E' :: rest =>
    let signed (sign : Int) (cs : List Char) : Option (Option Int) :=
      match readDigits Char.isDigit cs with
      | some (ds, []) => some (some (sign * valueIn 10 ds))
      | _ => none
    match rest with
    | '-' :: cs => signed (-1) cs
    | '+' :: cs => signed 1 cs
    | cs => signed 1 cs
  | _ => none

/-- The decimal number that a token without its sign is. A whole part has no leading zero. -/
def decimal? (negative : Bool) (cs : List Char) : Option Value :=
  match readDigits Char.isDigit cs with
  | none => none
  | some (whole, behindWhole) =>
    if whole.head? = some '0' && whole.length ≠ 1 then none
    else
      match readFraction behindWhole with
      | none => none
      | some (fraction, behindFraction) =>
        (readExponent behindFraction).map fun exponent =>
          if fraction.isNone && exponent.isNone then
            .int (if negative then -(valueIn 10 whole : Int) else valueIn 10 whole)
          else
            let places := fraction.getD []
            .float (Binary64.ofDecimal negative (valueIn 10 (whole ++ places))
              (exponent.getD 0 - places.length))

/-- The number that a token without its sign is. -/
def unsigned? (negative : Bool) : List Char → Option Value
  | ['i', 'n', 'f'] => some (.float (.infinity negative))
  | ['n', 'a', 'n'] => some (.float .nan)
  | cs => decimal? negative cs

/-- The character may stand in a date or a time. -/
def isDateChar (c : Char) : Bool :=
  c.isDigit || c == '-' || c == ':' || c == '.' || c == '+' || c == 'T' || c == 't' || c == 'Z' || c == 'z'

/-- The token starts like a date or a time: four digits and a dash, or two digits and a colon. -/
def isDate : List Char → Bool
  | a :: b :: c :: d :: '-' :: rest =>
    a.isDigit && b.isDigit && c.isDigit && d.isDigit && rest.all isDateChar
  | a :: b :: ':' :: rest => a.isDigit && b.isDigit && rest.all isDateChar
  | _ => false

/-- The value of a token that is not a string. -/
def word? (cs : List Char) : Option Value :=
  match cs with
  | ['t', 'r', 'u', 'e'] => some (.bool true)
  | ['f', 'a', 'l', 's', 'e'] => some (.bool false)
  | '0' :: 'x' :: ds => basedInteger? 16 ds
  | '0' :: 'o' :: ds => basedInteger? 8 ds
  | '0' :: 'b' :: ds => basedInteger? 2 ds
  | '-' :: ds => unsigned? true ds
  | '+' :: ds => unsigned? false ds
  | _ => if isDate cs then some (.text (String.ofList cs)) else unsigned? false cs

/-- The character ends a token. -/
def endsToken (c : Char) : Bool :=
  isInline c || c == '\n' || c == ',' || c == ']' || c == '}' || c == '#'

/-- Reads a value that is neither a string nor a container. -/
def readWord (cs : List Char) : Read Value :=
  match cs.span fun c => !endsToken c with
  | (token, rest) => (word? token).map fun v => (v, rest)

end Diagnostics.Toml
