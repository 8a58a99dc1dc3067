import Diagnostics.Level
import Diagnostics.Location

/-!
# Diagnostics

`Diagnostic` is the one record that every checker's findings are brought into.
Everything downstream, from filtering to terminal text and client payloads, works on
this record. `Stack.text` is the stack trace as one text.
-/

namespace Diagnostics

open Text

/-- A stack trace: one text, or its lines. -/
inductive Stack
  | whole (s : RawText)
  | lines (ls : List RawText)
deriving DecidableEq, Repr

/-- The stack trace as one text, its lines joined by LF. -/
def Stack.text : Stack → RawText
  | .whole s => s
  | .lines ls => .join "\n" ls

/-- What one checker found at one place. -/
structure Diagnostic where
  /-- The checker that found it. -/
  checker : RawText
  /-- The description. -/
  message : Option RawText := none
  /-- A remark shown behind the code frame. -/
  conclusion : Option RawText := none
  /-- The stack trace. -/
  stack : Option Stack := none
  /-- The path of the file it is about, or another name for it. -/
  id : Option RawText := none
  /-- The coloured source excerpt. -/
  codeFrame : Option RawText := none
  /-- The source excerpt without styling. -/
  plainFrame : Option RawText := none
  /-- The place in the file. -/
  location : Option Location := none
  /-- The severity, when known. -/
  level : Option Level := none
deriving DecidableEq, Repr

namespace Diagnostic

/-- The severity to show: one that is not known counts as an error. -/
def shownLevel (d : Diagnostic) : Level :=
  d.level.getD .error

/-- The stack trace as one text, empty when there is none. -/
def stackText (d : Diagnostic) : RawText :=
  (d.stack.map Stack.text).getD ""

end Diagnostic

end Diagnostics
