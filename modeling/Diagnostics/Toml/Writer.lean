import Diagnostics.Text.Quoted
import Diagnostics.Toml.Library

/-!
# Writing TOML

`Toml.write` writes a table. What is neither a table nor an array of tables comes
first, one key on a line; then the arrays of tables; then the tables level by level,
each under a header with its full name. A table that holds nothing but tables has no
header of its own. Null has no spelling and is left out.

An array with a table among its items is written as an array of tables. An item that
is no table has to be empty then, or there is no way to write the array.
-/

namespace Diagnostics

open Decimal Text

mutual

/-- How deep lists and objects are nested in a value. -/
def Value.depth : Toml.Value → Nat
  | .list items => Value.itemsDepth items + 1
  | .object members => Members.depth members + 1
  | _ => 0

/-- The greatest depth of the items of a list. -/
def Value.itemsDepth : List Toml.Value → Nat
  | [] => 0
  | v :: vs => max v.depth (Value.itemsDepth vs)

/-- The greatest depth of the values of an object. -/
def Members.depth : Toml.Members → Nat
  | [] => 0
  | (_, v) :: ms => max v.depth (Members.depth ms)

end

namespace Toml

/-- Why a value cannot be written. -/
inductive WriteFault
  /-- A text begins with a character that has no spelling, and the rest of it has none to join on. -/
  | lostCharacter
  /-- A text stands in the place of a table. -/
  | textAsTable
  /-- A list stands in the place of a table. -/
  | listAsTable
  /-- A value of another kind stands in the place of a table. -/
  | scalarAsTable (kindName : String)
deriving DecidableEq, Repr

/-- What the writer ends with for a fault. -/
def WriteFault.failure : WriteFault → Failure
  | lostCharacter => ⟨"IndexError", "list index out of range"⟩
  | textAsTable => ⟨"TypeError", "string indices must be integers, not 'str'"⟩
  | listAsTable => ⟨"TypeError", "list indices must be integers or slices, not str"⟩
  | scalarAsTable kindName => ⟨"TypeError", "'" ++ kindName ++ "' object is not iterable"⟩

/-! ### Texts and keys -/

/-- The stretches of an escaped text between the marks `\x`, which TOML does not know. -/
def stretches : List Char → List (List Char)
  | [] => [[]]
  | '\\' :: 'x' :: cs => [] :: stretches cs
  | c :: cs =>
    match stretches cs with
    | [] => [[c]]
    | s :: ss => (c :: s) :: ss

/-- The text with every two backslashes made one. -/
def halve : List Char → List Char
  | [] => []
  | '\\' :: '\\' :: cs => '\\' :: halve cs
  | c :: cs => c :: halve cs

/-- What takes the place of a mark behind a text: `x`, which starts no escape, or behind a lone
backslash the start of an escape with four digits. -/
def joint (before : List Char) : List Char :=
  let run := (before.reverse.takeWhile (· == '\\')).length
  if run = 0 || min run (before.length - 1) % 2 = 1 then ['x'] else ['u', '0', '0']

/-- Joins stretches onto the text so far. -/
def joinStretches (before : List Char) : List (List Char) → List Char
  | [] => before
  | s :: ss =>
    let halved := halve before
    joinStretches (halved ++ joint halved ++ s) ss

/-- The inside of a quoted text. An empty stretch at the start is dropped, and with it the mark
behind it. -/
def textBody (s : String) : Except WriteFault (List Char) :=
  match stretches (s.toList.flatMap (quotedChar '"')) with
  | [] => .ok []
  | [only] => .ok only
  | [[], _] => .error .lostCharacter
  | [] :: first :: rest => .ok (joinStretches first rest)
  | first :: rest => .ok (joinStretches first rest)

/-- A text in double quotes. -/
def textChars (s : String) : Except WriteFault (List Char) :=
  (textBody s).map fun body => '"' :: body ++ ['"']

/-- The key needs no quotes. A line end behind it goes unnoticed. -/
def isBareKey (key : List Char) : Bool :=
  let named := if key.getLast? = some '\n' then key.dropLast else key
  !named.isEmpty && named.all isBare

/-- A key, in quotes when it is not bare. -/
def keyChars (key : String) : Except WriteFault (List Char) :=
  if isBareKey key.toList then .ok key.toList else textChars key

/-! ### Values on one line -/

/-- An exponent without the zero that pads it. -/
def shortExponent : List Char → List Char
  | 'e' :: sign :: '0' :: ds => 'e' :: sign :: ds
  | [] => []
  | c :: cs => c :: shortExponent cs

/-- Items one after the other, each with a blank before it and a comma behind it. -/
def spread (items : List (List Char)) : List Char :=
  '[' :: items.flatMap (fun item => ' ' :: item ++ [',']) ++ [']']

mutual

/-- A value on one line; of a table within a list only the keys remain. -/
def valueChars : Value → Except WriteFault (List Char)
  | .null => textChars "None"
  | .bool true => .ok "true".toList
  | .bool false => .ok "false".toList
  | .int i => .ok (numeralChars i)
  | .float x => .ok (shortExponent (Value.floatLiteral x))
  | .text s => textChars s
  | .list items => (itemsChars items).map spread
  | .object members => (members.mapM fun m => textChars m.1).map spread

/-- The items of a list. -/
def itemsChars : List Value → Except WriteFault (List (List Char))
  | [] => .ok []
  | v :: vs => do
    let first ← valueChars v
    let rest ← itemsChars vs
    return first :: rest

end

/-! ### Tables -/

/-- A table, or what stands in the place of one, with its name as headers spell it. -/
structure Section where
  name : List Char
  value : Value

namespace Section

/-- A section of a table, by its full name. -/
def within (outer : List Char) (s : Section) : Section :=
  { s with name := fullName outer s.name }

/-- Puts a section behind others, or in the place of the one that has its name. -/
def put (s : Section) : List Section → List Section
  | [] => [s]
  | t :: ts => if t.name = s.name then { t with value := s.value } :: ts else t :: put s ts

/-- The sections, of those with one name the last in the place of the first. -/
def distinct (ss : List Section) : List Section :=
  ss.foldl (fun kept s => put s kept) []

end Section

/-- What a section holds: the lines and the arrays of tables that stand under its header, and the
tables that get headers of their own. -/
structure Parts where
  lines : List Char := []
  arrays : List Char := []
  tables : List Section := []

namespace Parts

/-- What stands under the header. -/
def text (p : Parts) : List Char :=
  p.lines ++ p.arrays

/-- The parts of all members of a table. -/
def concat (ps : List Parts) : Parts :=
  { lines := ps.flatMap lines
    arrays := ps.flatMap arrays
    tables := Section.distinct (ps.flatMap tables) }

end Parts

/-- The given tables and those within them with their parts, level by level; `rounds` bounds the
levels. -/
def levels (parts : Section → Except WriteFault Parts) :
    (rounds : Nat) → List Section → Except WriteFault (List (Section × Parts))
  | 0, _ => .ok []
  | _ + 1, [] => .ok []
  | rounds + 1, ss => do
    let here ← ss.mapM fun s => (parts s).map fun p => (s, p)
    let next := Section.distinct (here.flatMap fun sp => sp.2.tables.map (Section.within sp.1.name))
    let deeper ← levels parts rounds next
    return here ++ deeper

/-- The text of a table within an element of an array: a table without lines leaves no header. -/
def nestedText (sp : Section × Parts) : List Char :=
  if sp.2.text.isEmpty then [] else header sp.1.name ++ sp.2.text

/-- The text under the header of an element of an array, with an empty line that sets it apart. -/
def elementBody : List Char → List Char
  | [] => ['\n']
  | '[' :: cs => '\n' :: '[' :: cs
  | cs => cs ++ ['\n']

/-- An element of an array of tables. -/
def element (parts : Section → Except WriteFault Parts) (rounds : Nat) (s : Section) :
    Except WriteFault (List Char) := do
  let own ← parts s
  let nested ← levels parts rounds (own.tables.map (Section.within s.name))
  return elementHeader s.name ++ elementBody own.text ++ nested.flatMap nestedText

/-- What one member of a table comes to; `parts` and `rounds` serve for the tables within it. -/
def memberParts (parts : Section → Except WriteFault Parts) (rounds : Nat) (outer : List Char)
    (m : String × Value) : Except WriteFault Parts := do
  let key ← keyChars m.1
  let line (v : Value) : Except WriteFault Parts :=
    (valueChars v).map fun cs => { lines := key ++ " = ".toList ++ cs ++ ['\n'] }
  match m.2 with
  | .null => return {}
  | .object members => return { tables := [{ name := key, value := .object members }] }
  | .list items =>
    if items.any Value.isObject then
      let elements ← items.mapM fun v =>
        element parts rounds { name := fullName outer key, value := v }
      return { arrays := elements.flatten }
    else line (.list items)
  | v => line v

/-- What a value without members comes to in the place of a table: nothing when it is empty. -/
def strayParts : Value → Except WriteFault Parts
  | .text s =>
    match s.toList with
    | [] => .ok {}
    | c :: _ => (keyChars (String.ofList [c])).bind fun _ => .error .textAsTable
  | .list [] => .ok {}
  | .list (v :: _) => (keyChars v.plain).bind fun _ => .error .listAsTable
  | v => .error (.scalarAsTable v.kindName)

/-- What a section holds; `depth` bounds how deep tables are nested in it. -/
def partsOf : (depth : Nat) → Section → Except WriteFault Parts
  | 0, _ => .ok {}
  | depth + 1, s =>
    match s.value with
    | .object members => (members.mapM (memberParts (partsOf depth) depth s.name)).map Parts.concat
    | v => strayParts v

/-- Writes a table under its header behind the text so far, with an empty line between. -/
def append (before : List Char) (sp : Section × Parts) : List Char :=
  if sp.2.text.isEmpty && !sp.2.tables.isEmpty then before
  else
    before ++ (if before.isEmpty || ['\n', '\n'].isSuffixOf before then [] else ['\n'])
      ++ header sp.1.name ++ sp.2.text

/-- The characters of `write`. -/
def writeChars (v : Value) : Except WriteFault (List Char) := do
  let depth := v.depth + 1
  let top ← partsOf depth { name := [], value := v }
  let tables ← levels (partsOf depth) depth top.tables
  return tables.foldl append top.text

/-- Writes a table. -/
def write (v : Value) : Except Failure String :=
  ((writeChars v).map String.ofList).mapError WriteFault.failure

end Toml

end Diagnostics
