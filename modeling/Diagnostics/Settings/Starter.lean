import Diagnostics.Settings.Discovery

/-!
# The starter document

`Settings.starter` is a configuration document to begin with: every setting has a comment
above it, and a setting that is not given has its default.
-/

namespace Diagnostics.Settings

/-- A setting of the starter document. -/
structure StarterEntry where
  comment : String
  key : String
  default : Toml.Value

namespace StarterEntry

/-- The settings of the starter document in their order. -/
def all : List StarterEntry :=
  [ { comment := "Diagnostic levels to report: warning, error, suggestion, message"
      key := "log_levels", default := .list [] },
    { comment := "Color output: auto, always or never"
      key := "color", default := .text "auto" },
    { comment := "Print per-diagnostic code frames in `checkrelay report`"
      key := "terminal", default := .bool true },
    { comment := "Emit client payloads in `checkrelay payload`"
      key := "overlay", default := .bool true } ]

/-- What the starter document has under the key of an entry. -/
def value (given : Toml.Members) (e : StarterEntry) : Toml.Value :=
  (Members.get? e.key given).getD e.default

/-- The lines of an entry: its comment, and what its key is set to. -/
def lines (given : Toml.Members) (e : StarterEntry) : List Toml.Line :=
  [.comment e.comment, .setting e.key (e.value given)]

end StarterEntry

/-- The key under which a project file has the settings. -/
def projectPath : Toml.KeyPath :=
  ["tool", "checkrelay"]

/-- The starter document with the given settings, for a file of its own or as a table of a project
file. -/
def starter (nested : Bool) (given : Toml.Members) : Toml.Document :=
  { top := [.comment "checkrelay configuration", .blank]
    path := if nested then projectPath else []
    lines := StarterEntry.all.flatMap (StarterEntry.lines given) }

end Diagnostics.Settings
