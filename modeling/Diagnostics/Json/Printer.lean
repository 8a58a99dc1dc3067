import Diagnostics.Value

/-!
# Writing JSON

`Json.print` writes a value as JSON in printable ASCII: every other unit of a text is
written as an escape, so that a character beyond the basic plane becomes a surrogate
pair and a lone half of one remains. In the compact layout the text is one line; in the
indented layout each item and member of a nonempty container stands on a line of its own.
-/

namespace Diagnostics.Json

open Decimal Text

/-- How containers are laid out. -/
inductive Layout
  /-- All on one line, a blank behind each comma. -/
  | compact
  /-- A line per item, indented by `width` for each level. -/
  | indented (width : Nat)
deriving DecidableEq, Repr

/-- What stands between a bracket and its content at a level. -/
def Layout.edge : Layout → Nat → List Char
  | .compact, _ => []
  | .indented width, level => '\n' :: List.replicate (width * level) ' '

/-- What stands between two items at a level. -/
def Layout.separator : Layout → Nat → List Char
  | .compact, _ => [',', ' ']
  | .indented width, level => ',' :: (Layout.indented width).edge level

/-- The escape of a sixteen-bit unit. -/
def unitEscape (n : Nat) : List Char :=
  '\\' :: 'u' :: hexDigits 4 n

/-- A character of ASCII as it stands in a JSON string. -/
def escapeChar (c : Char) : List Char :=
  if c = '"' then ['\\', '"']
  else if c = '\\' then ['\\', '\\']
  else if c = '\n' then ['\\', 'n']
  else if c = '\r' then ['\\', 'r']
  else if c = '\t' then ['\\', 't']
  else if c = '\x08' then ['\\', 'b']
  else if c = '\x0c' then ['\\', 'f']
  else if 0x20 ≤ c.toNat ∧ c.toNat < 0x7f then [c]
  else unitEscape c.toNat

/-- A unit as it stands in a JSON string. -/
def unitChars (u : UInt16) : List Char :=
  if u.toNat < 0x80 then escapeChar (Char.ofNat u.toNat) else unitEscape u.toNat

/-- A text as a JSON string. -/
def stringChars (t : RawText) : List Char :=
  '"' :: t.units.flatMap unitChars ++ ['"']

/-- A double as a JSON number, or the word for a value that JSON has no number for. -/
def floatChars (x : Binary64) : List Char :=
  x.chars "Infinity".toList "NaN".toList

mutual

/-- The characters of a value whose first line stands at `level`. -/
def printAt (layout : Layout) (level : Nat) : Value → List Char
  | .null => "null".toList
  | .bool true => "true".toList
  | .bool false => "false".toList
  | .int i => numeralChars i
  | .float x => floatChars x
  | .text s => stringChars s
  | .list [] => ['[', ']']
  | .list (v :: vs) =>
    '[' :: layout.edge (level + 1) ++ printAt layout (level + 1) v ++ printItems layout (level + 1) vs
      ++ layout.edge level ++ [']']
  | .object [] => ['{', '}']
  | .object ((key, v) :: ms) =>
    '{' :: layout.edge (level + 1) ++ stringChars key ++ ':' :: ' ' :: printAt layout (level + 1) v
      ++ printMembers layout (level + 1) ms ++ layout.edge level ++ ['}']

/-- The items behind the first one, each after its separator. -/
def printItems (layout : Layout) (level : Nat) : List Value → List Char
  | [] => []
  | v :: vs => layout.separator level ++ printAt layout level v ++ printItems layout level vs

/-- The members behind the first one, each after its separator. -/
def printMembers (layout : Layout) (level : Nat) : Members → List Char
  | [] => []
  | (key, v) :: ms =>
    layout.separator level ++ stringChars key ++ ':' :: ' ' :: printAt layout level v
      ++ printMembers layout level ms

end

/-- The value as JSON text. -/
def print (layout : Layout) (v : Value) : String :=
  String.ofList (printAt layout 0 v)

end Diagnostics.Json
