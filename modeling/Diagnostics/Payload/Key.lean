import Diagnostics.Payload.Tree

/-!
# Keys of payload maps

The keys of a map become texts. A text, a path and a member of an enumeration have a
text of their own, and any other key becomes its literal, in which a record shows its
fields by name. `Tree.keyText` is the text of a key.
-/

namespace Diagnostics

open Decimal Text

/-- The literal of something that may be absent. -/
def optionLiteral {α : Type} (literal : α → List Char) (o : Option α) : List Char :=
  (o.map literal).getD "None".toList

/-- The literal of a text. -/
def textLiteral (s : RawText) : List Char :=
  s.quotedChars

/-- The literals of the items of a tuple between brackets; a comma follows a lone item. -/
def tupleLiteral : List (List Char) → List Char
  | [item] => '(' :: item ++ [',', ')']
  | items => '(' :: join [',', ' '] items ++ [')']

/-- A record with the literals of its fields. -/
def recordLiteral (kind : String) (fields : List (String × List Char)) : List Char :=
  kind.toList ++ '(' :: join [',', ' '] (fields.map fun f => f.1.toList ++ '=' :: f.2) ++ [')']

/-- The literal of a level. -/
def Level.literal (l : Level) : List Char :=
  "<DiagnosticLevel.".toList ++ l.label.toList ++ ':' :: ' ' :: digits l.number ++ ['>']

/-- The literal of a colour mode. -/
def ColorMode.literal (m : ColorMode) : List Char :=
  "<ColorMode.".toList ++ (upper m.name).toList ++ ": '".toList ++ m.name.toList ++ ['\'', '>']

/-- The literal of a position. -/
def Position.literal (p : Position) : List Char :=
  recordLiteral "Position"
    [("line", numeralChars p.line), ("column", optionLiteral numeralChars p.column)]

/-- The literal of a location. -/
def Location.literal (l : Location) : List Char :=
  recordLiteral "SourceLocation"
    [("start", l.start.literal), ("end", optionLiteral Position.literal l.stop)]

/-- The literal of a stack trace. -/
def Stack.literal : Stack → List Char
  | whole s => textLiteral s
  | lines ls => tupleLiteral (ls.map textLiteral)

/-- The literal of a diagnostic. -/
def Diagnostic.literal (d : Diagnostic) : List Char :=
  recordLiteral "NormalizedDiagnostic"
    [("checker", textLiteral d.checker),
     ("message", optionLiteral textLiteral d.message),
     ("conclusion", optionLiteral textLiteral d.conclusion),
     ("stack", optionLiteral Stack.literal d.stack),
     ("id", optionLiteral textLiteral d.id),
     ("code_frame", optionLiteral textLiteral d.codeFrame),
     ("striped_code_frame", optionLiteral textLiteral d.plainFrame),
     ("loc", optionLiteral Location.literal d.location),
     ("level", optionLiteral Level.literal d.level)]

namespace Payload

/-- The literal of a place. -/
def Place.literal (p : Place) : List Char :=
  recordLiteral "RuntimeLocation"
    [("file", textLiteral p.file), ("line", numeralChars p.line), ("column", numeralChars p.column)]

/-- The literal of an entry. -/
def Entry.literal (e : Entry) : List Char :=
  recordLiteral "DiagnosticToRuntime"
    [("message", textLiteral e.message),
     ("stack", textLiteral e.stack),
     ("id", optionLiteral textLiteral e.id),
     ("frame", optionLiteral textLiteral e.frame),
     ("checker_id", textLiteral e.checker),
     ("level", optionLiteral Level.literal e.level),
     ("loc", optionLiteral Place.literal e.place)]

/-- The literal of a member of an enumeration. -/
def Constant.literal (c : Constant) : List Char :=
  '<' :: c.kind.toList ++ '.' :: c.name.toList ++ ':' :: ' ' :: c.value.plain.literalChars ++ ['>']

namespace Tree

mutual

/-- The literal of a key; lists and maps cannot be keys and have none. -/
def literal : Tree → List Char
  | .null => "None".toList
  | .bool true => "True".toList
  | .bool false => "False".toList
  | .int i => numeralChars i
  | .float x => Value.floatLiteral x
  | .text s => textLiteral s
  | .path p => "PosixPath(".toList ++ textLiteral p.text ++ [')']
  | .level l => l.literal
  | .color m => m.literal
  | .constant c => c.literal
  | .tuple items => tupleLiteral (literals items)
  | .set [] => "frozenset()".toList
  | .set items => "frozenset(\x7b".toList ++ join [',', ' '] (literals items) ++ ['}', ')']
  | .entry e => e.literal
  | .place p => p.literal
  | .diagnostic d => d.literal
  | .location l => l.literal
  | .position p => p.literal
  | .list _ | .map _ => []

/-- The literals of the items of a key. -/
def literals : List Tree → List (List Char)
  | [] => []
  | t :: ts => literal t :: literals ts

end

/-- The text that a key becomes. -/
def keyText : Tree → RawText
  | .text s => s
  | .path p => p.text
  | .level l => numeral l.number
  | .color m => "ColorMode." ++ upper m.name
  | .constant c => c.text
  | t => String.ofList t.literal

end Tree

end Payload

end Diagnostics
