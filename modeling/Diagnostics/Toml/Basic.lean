import Diagnostics.Text.Hex

/-!
# Words of TOML

What the reader and the writers of TOML share: which characters a key may hold
without quotes, the one-letter escapes of quoted texts, and the headers of tables.
`basicText` writes a quoted text.
-/

namespace Diagnostics.Toml

open Text

/-- The character may stand in a key without quotes. -/
def isBare (c : Char) : Bool :=
  c.isAlphanum || c == '_' || c == '-'

/-- The text may be a part of a key without quotes. -/
def IsName (key : String) : Prop :=
  key.toList ≠ [] ∧ ∀ c ∈ key.toList, isBare c = true

instance (key : String) : Decidable (IsName key) :=
  decidable_of_iff (key.toList ≠ [] ∧ key.toList.all isBare = true) (and_congr Iff.rfl List.all_eq_true)

/-- The character that a one-letter escape stands for. -/
def escaped? : Char → Option Char
  | '"' => some '"'
  | '\\' => some '\\'
  | 'b' => some '\x08'
  | 'f' => some '\x0c'
  | 'n' => some '\n'
  | 'r' => some '\r'
  | 't' => some '\t'
  | _ => none

/-- The letter of the escape for a character that has one. -/
def escapeLetter? : Char → Option Char
  | '"' => some '"'
  | '\\' => some '\\'
  | '\x08' => some 'b'
  | '\x0c' => some 'f'
  | '\n' => some 'n'
  | '\r' => some 'r'
  | '\t' => some 't'
  | _ => none

/-- A control character, which strings may not hold; the tab is allowed. -/
def isControl (c : Char) : Bool :=
  (c.toNat < 0x20 && c ≠ '\t') || c.toNat = 0x7f

/-- The character may stand in a comment. -/
def isComment (c : Char) : Bool :=
  c ≠ '\n' && !isControl c

/-- One character of a quoted text; a control character without a letter is written by its code
point. -/
def basicChar (c : Char) : List Char :=
  match escapeLetter? c with
  | some letter => ['\\', letter]
  | none => if isControl c then '\\' :: 'u' :: hexDigits 4 c.toNat else [c]

/-- A text between double quotes. -/
def basicText (cs : List Char) : List Char :=
  '"' :: cs.flatMap basicChar ++ ['"']

/-- The full name of a key of a table, as headers spell it; the document itself has no name. -/
def fullName (table key : List Char) : List Char :=
  if table.isEmpty then key else table ++ '.' :: key

/-- The header of a table. -/
def header (name : List Char) : List Char :=
  '[' :: name ++ [']', '\n']

/-- The header of an element of an array of tables. -/
def elementHeader (name : List Char) : List Char :=
  '[' :: '[' :: name ++ [']', ']', '\n']

end Diagnostics.Toml
