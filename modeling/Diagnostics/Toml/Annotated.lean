import Diagnostics.Toml.Library

/-!
# Documents with comments

`Toml.writeDocument` writes a document line by line: its comments, and what its settings
come to.

A setting may be a table or an array of tables. Such sections stand behind all lines,
because a line behind a header would belong to it; the comments of the settings that
follow stay where they are written.
-/

namespace Diagnostics.Toml

open Decimal Text

/-- Why a document cannot be written: null has no spelling. -/
inductive DocumentFault
  | nullSetting
  | nullWithin
deriving DecidableEq, Repr

/-- What the writer ends with for a fault. -/
def DocumentFault.failure : DocumentFault → Failure
  | nullSetting => ⟨"ValueError", "Non comment/whitespace items must have an associated key"⟩
  | nullWithin => ⟨"ConvertError", "Unable to convert an object of <class 'NoneType'> to a TOML item"⟩

mutual

/-- Null occurs in the value. -/
def hasNull : Value → Bool
  | .null => true
  | .list items => someNull items
  | .object members => someNullMember members
  | _ => false

/-- Null occurs in a value of the list. -/
def someNull : List Value → Bool
  | [] => false
  | v :: vs => hasNull v || someNull vs

/-- Null occurs in the value of a member. -/
def someNullMember : List (String × Value) → Bool
  | [] => false
  | (_, v) :: ms => hasNull v || someNullMember ms

end

/-! ### Lines -/

/-- A key, in quotes when it is not bare. -/
def documentKey (key : String) : List Char :=
  if key ≠ "" && key.toList.all isBare then key.toList else basicText key.toList

/-- A key and what it is set to. -/
def assignment (key value : List Char) : List Char :=
  key ++ " = ".toList ++ value

/-- What an inline table holds, in two parts: the members that are tables come last. -/
structure InlineMembers where
  plain : List (List Char) := []
  tables : List (List Char) := []

mutual

/-- A value on one line. The members of a table that is an item of a list are apart by a comma and
a blank, those of one within another by a comma alone; `item` tells which. Null leaves nothing. -/
def inlineChars (item : Bool) : Value → List Char
  | .null => []
  | .bool true => "true".toList
  | .bool false => "false".toList
  | .int i => numeralChars i
  | .float x => Value.floatLiteral x
  | .text s => basicText s.toList
  | .list items => '[' :: join [',', ' '] (inlineItems items) ++ [']']
  | .object members =>
    let ms := inlineMembers members
    '\x7b' :: join (if item then [',', ' '] else [',']) (ms.plain ++ ms.tables) ++ ['\x7d']

/-- The items of a list. -/
def inlineItems : List Value → List (List Char)
  | [] => []
  | v :: vs => inlineChars true v :: inlineItems vs

/-- The members of an inline table. -/
def inlineMembers : List (String × Value) → InlineMembers
  | [] => {}
  | (key, v) :: ms =>
    let chars := assignment (documentKey key) (inlineChars false v)
    let rest := inlineMembers ms
    if v.isObject then { rest with tables := chars :: rest.tables }
    else { rest with plain := chars :: rest.plain }

end

/-! ### Sections -/

/-- What a member of a table comes to. -/
inductive Passage
  | line (cs : List Char)
  | array (cs : List Char)
  | table (cs : List Char)

namespace Passage

/-- The passage is that of a table. -/
def isTable : Passage → Bool
  | table _ => true
  | _ => false

/-- The text of a line. -/
def lineText : Passage → List Char
  | line cs => cs
  | _ => []

/-- The text of a section. -/
def sectionText : Passage → List Char
  | line _ => []
  | array cs => cs
  | table cs => cs

/-- The passage with an empty line before it when it is a section. -/
def apart : Passage → Passage
  | line cs => .line cs
  | array cs => .array ('\n' :: cs)
  | table cs => .table ('\n' :: cs)

/-- The passages of a table: its lines, then its sections, tables behind arrays, with an empty line
before every section that is not the first of all passages. -/
def arrange (ps : List Passage) : List Char :=
  let sorted := ps.filter (fun p => !p.isTable) ++ ps.filter isTable
  let spaced := sorted.take 1 ++ (sorted.drop 1).map apart
  spaced.flatMap lineText ++ spaced.flatMap sectionText

end Passage

/-- The value is an array of tables. -/
def isTableArray : Value → Bool
  | .list items => !items.isEmpty && items.all Value.isObject
  | _ => false

/-- A table that holds nothing but sections needs no header of its own. -/
def isImplied (members : Members) : Bool :=
  !members.isEmpty && members.all fun m => m.2.isObject || isTableArray m.2

mutual

/-- What a value comes to under its key in a table. -/
def passage (table key : List Char) : Value → Passage
  | .object members =>
    let name := fullName table key
    .table ((if isImplied members then [] else header name) ++ Passage.arrange (passages name members))
  | .list items =>
    if isTableArray (.list items) then .array (elementChars (fullName table key) false items)
    else .line (assignment key (inlineChars true (.list items)) ++ ['\n'])
  | v => .line (assignment key (inlineChars true v) ++ ['\n'])

/-- The passages of the members of a table. -/
def passages (table : List Char) : List (String × Value) → List Passage
  | [] => []
  | (key, v) :: ms => passage table (documentKey key) v :: passages table ms

/-- The elements of an array of tables, with an empty line behind those that hold something;
`apart` asks for one before the first. -/
def elementChars (name : List Char) (apart : Bool) : List Value → List Char
  | .object members :: vs =>
    (if apart then ['\n'] else []) ++ elementHeader name ++ Passage.arrange (passages name members)
      ++ elementChars name (!members.isEmpty) vs
  | _ => []

end

/-! ### The document -/

/-- A document in the making: its lines, and behind them its sections with what follows them. -/
structure Draft where
  upper : List Char := []
  lower : List Char := []

namespace Draft

/-- The characters of a draft. -/
def chars (d : Draft) : List Char :=
  d.upper ++ d.lower

/-- Writes characters at the end. -/
def write (d : Draft) (cs : List Char) : Draft :=
  if d.lower.isEmpty then { d with upper := d.upper ++ cs } else { d with lower := d.lower ++ cs }

/-- Writes what a setting comes to. -/
def add (d : Draft) : Passage → Draft
  | .line cs => { d with upper := d.upper ++ cs }
  | .array cs | .table cs => { d with lower := d.lower ++ '\n' :: cs }

/-- Writes a line of a table. -/
def line (table : List Char) (d : Draft) : Line → Except DocumentFault Draft
  | .comment text => .ok (d.write ('#' :: ' ' :: text.toList ++ ['\n']))
  | .blank => .ok (d.write ['\n'])
  | .setting _ .null => .error .nullSetting
  | .setting key v =>
    if hasNull v then .error .nullWithin else .ok (d.add (passage table (documentKey key) v))

/-- Writes lines of a table. -/
def lines (table : List Char) (ls : List Line) : Except DocumentFault Draft :=
  ls.foldlM (line table) {}

end Draft

/-- The characters of a document. -/
def documentChars (d : Document) : Except DocumentFault (List Char) := do
  let table := join ['.'] (d.path.map String.toList)
  let top ← Draft.lines [] d.top
  let body ← Draft.lines table d.lines
  return top.chars ++ (if d.path.isEmpty then [] else header table) ++ body.chars

/-- Writes a document. -/
def writeDocument (d : Document) : Except Failure String :=
  ((documentChars d).map String.ofList).mapError DocumentFault.failure

end Diagnostics.Toml
