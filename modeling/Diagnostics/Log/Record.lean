import Diagnostics.Ansi
import Diagnostics.Log.Notice
import Diagnostics.Template.Fill
import Diagnostics.Text.Digit
import Diagnostics.Text.Lines
import Diagnostics.Text.Word

/-!
# Log records

A `Record` is a notice with the place in the program that it comes from. A `Layout` is
one of the forms that the line of a record takes, and `Record.inLayout` is that line,
coloured by severity. `Record.format` takes the form from a template instead, which has
to show something of the record.
-/

namespace Diagnostics.Log

open Text

/-- A notice with the place that it comes from. -/
structure Record where
  notice : Notice
  path : String := ""
  line : Int := 0
  function : String := ""

namespace Record

/-- The text of the notice, as the error stream shows it. -/
def message (r : Record) : String :=
  r.notice.text.escaped

/-- The name of the file that a record comes from: the last part of its path. -/
def fileName (r : Record) : List Char :=
  (splitOn '/' r.path.toList).getLast?.getD []

/-- A file name without its extension. Dots that it starts with belong to the name. -/
def stem (name : List Char) : List Char :=
  let dots := name.takeWhile (· == '.')
  let rest := name.drop dots.length
  if rest.contains '.' then
    dots ++ ((rest.reverse.dropWhile (· != '.')).drop 1).reverse
  else name

/-- What a template may show of a record, by name. -/
def members (r : Record) : Members String :=
  [("name", .text "x"), ("msg", .text r.message), ("args", .null),
    ("levelname", .text (severityName r.notice.severity)), ("levelno", .int r.notice.severity),
    ("pathname", .text r.path), ("filename", .text (String.ofList r.fileName)),
    ("module", .text (String.ofList (stem r.fileName))), ("exc_info", .null), ("exc_text", .null),
    ("stack_info", .null), ("lineno", .int r.line), ("funcName", .text r.function),
    ("threadName", .text "MainThread"), ("processName", .text "MainProcess"),
    ("message", .text r.message)]

end Record

/-- The style of lines of a severity. -/
def styleOf (severity : Int) : Style :=
  if critical ≤ severity then { foreground := some .brightRed }
  else if error ≤ severity then { foreground := some .red }
  else if warning ≤ severity then { foreground := some .yellow }
  else if info ≤ severity then { foreground := some .green }
  else if debug ≤ severity then { foreground := some .brightBlack }
  else if trace ≤ severity then { foreground := some .blue }
  else { foreground := some .red, dim := true }

/-- The text in the style of the severity of a record, when lines are coloured. -/
def Record.styled (r : Record) (colored : Bool) (text : String) : String :=
  if colored then (styleOf r.notice.severity).apply text else text

/-! ### Layouts -/

/-- What the line of a record shows. -/
inductive Layout
  /-- The message. -/
  | bare
  /-- The severity and the message. -/
  | brief
  /-- The severity, the place in the program and the message. -/
  | detailed
deriving DecidableEq, Repr

/-- The text of a record in a layout. -/
def Layout.text (r : Record) : Layout → String
  | bare => r.message
  | brief => "[" ++ severityName r.notice.severity ++ "] " ++ r.message
  | detailed =>
    "[" ++ severityName r.notice.severity ++ "] [" ++ String.ofList r.fileName ++ ":"
      ++ toString r.line ++ "] [" ++ r.function ++ "] " ++ r.message

/-- The line of a record. -/
def Record.inLayout (l : Layout) (colored : Bool) (r : Record) : String :=
  r.styled colored (l.text r)

/-! ### Templates -/

/-- The letters that may end a reference in a template. -/
def referenceLetters : List Char :=
  "diouxefgcrsa%DIOUXEFGCRSA\u0130\u0131\u017f".toList

/-- The characters behind a width or precision, when there is one. -/
def dropSize? : List Char → Option (List Char)
  | '*' :: cs => some cs
  | cs =>
    let rest := cs.dropWhile fun c => (decimal? c).isSome
    if rest.length < cs.length then some rest else none

/-- The characters start with what may follow the name in a reference. -/
def isReferenceEnd (cs : List Char) : Bool :=
  let cs := cs.dropWhile fun c => ['#', '0', '+', ' ', '-'].contains c
  let cs := (dropSize? cs).getD cs
  let cs := match cs with
    | '.' :: behind => (dropSize? behind).getD ('.' :: behind)
    | cs => cs
  match cs with
  | c :: _ => referenceLetters.contains c
  | [] => false

/-- The characters start with a reference by name. -/
def isReference : List Char → Bool
  | '%' :: '(' :: cs =>
    let behind := cs.dropWhile isWordChar
    behind.length < cs.length
      && match behind with
        | ')' :: rest => isReferenceEnd rest
        | _ => false
  | _ => false

/-- There is a reference by name among the characters. -/
def hasReference : List Char → Bool
  | [] => false
  | c :: cs => isReference (c :: cs) || hasReference cs

/-- Why a template gives no line. -/
inductive FormatFault
  /-- The template shows nothing of the record. -/
  | noReference (template : String)
  /-- The template asks for what records do not have. -/
  | unknownField (name : String)
  | fill (f : Template.Fault)
deriving DecidableEq, Repr

/-- The wording of a fault. -/
def FormatFault.message : FormatFault → String
  | noReference template => "Invalid format '" ++ template ++ "' for '%' style"
  | unknownField name => "Formatting field not found in record: " ++ quoted name
  | fill f => f.message

/-- The template that is meant when none is given. -/
def defaultTemplate : String := "%(message)s"

/-- The line of a record with the form that a template gives it; an empty template stands for the
default one. -/
def Record.format (template : String) (colored : Bool) (r : Record) : Except FormatFault String :=
  let template := if template = "" then defaultTemplate else template
  if hasReference template.toList then
    match Template.fill template (.ofMembers r.members) with
    | .ok text => .ok (r.styled colored text)
    | .error (.unknownName name) => .error (.unknownField name)
    | .error f => .error (.fill f)
  else .error (.noReference template)

end Diagnostics.Log
