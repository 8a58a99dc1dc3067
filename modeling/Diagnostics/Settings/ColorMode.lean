import Diagnostics.Environment
import Diagnostics.Text.Blank
import Diagnostics.Text.Case

/-!
# Colour modes

A colour mode says what the user wants; `ColorMode.isColored` decides whether output
is coloured. Machine formats never are; then the mode counts, unless it leaves the
matter open, then the environment, and last whether the output is a terminal.
-/

namespace Diagnostics

open Text

/-- What the user wants of colours. -/
inductive ColorMode
  /-- Colour on a terminal only. -/
  | auto
  | always
  | never
deriving DecidableEq, Repr

namespace ColorMode

/-- All modes. -/
def all : List ColorMode :=
  [.auto, .always, .never]

/-- The name of a mode. -/
def name : ColorMode → String
  | .auto => "auto"
  | .always => "always"
  | .never => "never"

/-- The mode of a name, in any case and with blanks around it. -/
def ofText? (s : String) : Option ColorMode :=
  let key := lower (trim s)
  all.find? fun m => m.name = key

/-- What the environment says about colours: `FORCE_COLOR` asks for them unless it is empty or zero,
and otherwise `NO_COLOR` forbids them whatever its value. -/
def fromEnvironment? (e : Environment) : Option Bool :=
  match e.get? "FORCE_COLOR", e.get? "NO_COLOR" with
  | some force, no => if force ≠ "" && force ≠ "0" then some true else no.map fun _ => false
  | none, no => no.map fun _ => false

/-- The output format is one for machines. -/
def isMachineFormat (format : Option String) : Bool :=
  match format with
  | some f => lower f = "json"
  | none => false

/-- Output in `format` is coloured under the wanted mode, the environment and whether the output is
a terminal. -/
def isColored (wanted : Option ColorMode) (format : Option String) (e : Environment) (terminal : Bool) :
    Bool :=
  if isMachineFormat format then false
  else
    match wanted with
    | some .always => true
    | some .never => false
    | _ => (fromEnvironment? e).getD terminal

end ColorMode

end Diagnostics
