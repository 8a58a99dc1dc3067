import Diagnostics.Text.Lines
import Diagnostics.Text.Quoted

/-!
# Raw texts

A text in a document is made of sixteen-bit units. A unit stands for a character of the
basic plane, or it is a half of a surrogate pair; two halves that belong together stand
for one character, and a half alone stands for none. `RawText` is such a text. One
without lone halves is a `String` (`RawText.whole`); any other cannot be written as UTF-8,
and `RawText.Tear` says where it is torn.
-/

namespace Diagnostics

namespace Text

/-- The unit starts a surrogate pair. -/
def isHighUnit (u : UInt16) : Bool :=
  0xd800 ≤ u.toNat && u.toNat < 0xdc00

/-- The unit ends a surrogate pair. -/
def isLowUnit (u : UInt16) : Bool :=
  0xdc00 ≤ u.toNat && u.toNat < 0xe000

/-- The units of a character: its code point, or its surrogate pair when it stands beyond the basic
plane. -/
def unitsOf (c : Char) : List UInt16 :=
  if c.toNat < 0x10000 then [.ofNat c.toNat]
  else [.ofNat (0xd800 + (c.toNat - 0x10000) / 0x400), .ofNat (0xdc00 + (c.toNat - 0x10000) % 0x400)]

/-- What units stand for: a character, or nothing when it is half of a surrogate pair. -/
inductive Symbol
  | char (c : Char)
  | half (u : UInt16)
deriving DecidableEq, Repr

namespace Symbol

/-- The character of a symbol. -/
def char? : Symbol → Option Char
  | char c => some c
  | half _ => none

/-- The half that a symbol is. -/
def half? : Symbol → Option UInt16
  | char _ => none
  | half u => some u

/-- The symbol of a unit that belongs to no pair. -/
def ofUnit (u : UInt16) : Symbol :=
  if isHighUnit u || isLowUnit u then half u else char (Char.ofNat u.toNat)

/-- The character of a surrogate pair. -/
def ofPair (high low : UInt16) : Symbol :=
  char (Char.ofNat (0x10000 + (high.toNat - 0xd800) * 0x400 + (low.toNat - 0xdc00)))

/-- The symbols of units, each surrogate pair joined. -/
def ofUnits : List UInt16 → List Symbol
  | [] => []
  | [u] => [ofUnit u]
  | high :: low :: rest =>
    if isHighUnit high && isLowUnit low then ofPair high low :: ofUnits rest
    else ofUnit high :: ofUnits (low :: rest)

end Symbol

/-- A half of a surrogate pair by its code point, as it is shown where characters are escaped. -/
def halfEscape (u : UInt16) : List Char :=
  '\\' :: 'u' :: hexDigits 4 u.toNat

end Text

open Text

/-- A text of sixteen-bit units, which may hold halves of surrogate pairs. -/
structure RawText where
  units : List UInt16
deriving DecidableEq, Repr

namespace RawText

/-- A text as units. -/
def ofString (s : String) : RawText :=
  ⟨s.toList.flatMap unitsOf⟩

instance : Coe String RawText :=
  ⟨ofString⟩

instance : Append RawText :=
  ⟨fun t u => ⟨t.units ++ u.units⟩⟩

/-- The texts with a separator between them. -/
def join (separator : RawText) (texts : List RawText) : RawText :=
  ⟨Text.join separator.units (texts.map units)⟩

/-- The symbols of a text. -/
def symbols (t : RawText) : List Symbol :=
  Symbol.ofUnits t.units

/-! ### Texts with lone halves -/

/-- The first place where a text is torn. -/
structure Tear where
  /-- The text in front. -/
  before : String
  /-- The lone halves that stand there side by side. -/
  halves : List UInt16
deriving DecidableEq, Repr

/-- The first place among some symbols where a text is torn. -/
def Tear.ofSymbols (symbols : List Symbol) : Tear :=
  let rest := symbols.dropWhile fun x => x.char?.isSome
  { before := String.ofList ((symbols.takeWhile fun x => x.char?.isSome).filterMap Symbol.char?)
    halves := (rest.takeWhile fun x => x.half?.isSome).filterMap Symbol.half? }

/-- Why a torn text cannot be written. -/
def Tear.message (tear : Tear) : String :=
  let position := tear.before.length
  let what : String :=
    match tear.halves with
    | [u] => "character '" ++ String.ofList (halfEscape u) ++ "' in position " ++ toString position
    | halves => "characters in position " ++ toString position ++ "-" ++ toString (position + halves.length - 1)
  "'utf-8' codec can't encode " ++ what ++ ": surrogates not allowed"

/-- The text as characters, or where it is torn. -/
def whole (t : RawText) : Except Tear String :=
  match t.symbols.mapM Symbol.char? with
  | some cs => .ok (String.ofList cs)
  | none => .error (.ofSymbols t.symbols)

/-- The text as characters, when it is not torn. -/
def whole? (t : RawText) : Option String :=
  t.whole.toOption

/-! ### Showing texts -/

/-- A symbol where lone halves are escaped. -/
def escapedSymbol : Symbol → List Char
  | .char c => [c]
  | .half u => halfEscape u

/-- The text with its lone halves escaped, as the error stream shows it. -/
def escaped (t : RawText) : String :=
  String.ofList (t.symbols.flatMap escapedSymbol)

/-- A symbol between quotes. -/
def quotedSymbol (quote : Char) : Symbol → List Char
  | .char c => quotedChar quote c
  | .half u => halfEscape u

/-- The characters of the text between quotes. -/
def quotedChars (t : RawText) : List Char :=
  let quote := quoteFor (t.symbols.filterMap Symbol.char?)
  quote :: t.symbols.flatMap (quotedSymbol quote) ++ [quote]

end RawText

/-! ### Texts of either kind -/

/-- What texts of values are asked for: how they are quoted, and their characters. -/
class Wording (τ : Type) where
  quotedChars : τ → List Char
  whole? : τ → Option String

instance : Wording String :=
  ⟨fun s => Text.quotedChars s.toList, some⟩

instance : Wording RawText :=
  ⟨RawText.quotedChars, RawText.whole?⟩

end Diagnostics
