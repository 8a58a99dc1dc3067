import Diagnostics.Files.Path
import Diagnostics.Level
import Diagnostics.Log.Notice
import Diagnostics.Settings.ColorMode

/-!
# Settings

`Settings` says which diagnostics are reported and how. A `Source`, such as a
configuration table or the command line, says something about some of the settings;
`Settings.apply` puts what it says over the settings so far. `Source.ofTable` reads a
source from a table and ignores whatever has the wrong type, each time with a notice.
`Settings.applyTable` breaks off at a colour with an integer that is too long to be
spelled.
-/

namespace Diagnostics

open Text

/-- Which diagnostics are reported and how. -/
structure Settings where
  /-- The reported levels. -/
  levels : List Level := Level.all
  color : ColorMode := .auto
  /-- Diagnostics are shown in full on the terminal, not only in the summary. -/
  terminal : Bool := true
  /-- Payloads are emitted. -/
  overlay : Bool := true
  /-- The files that the settings were read from. -/
  files : List Path := []
deriving DecidableEq, Repr

/-- What one source says about the settings. -/
structure Source where
  levels : Option (List Level) := none
  color : Option ColorMode := none
  terminal : Option Bool := none
  overlay : Option Bool := none
  file : Option Path := none
deriving DecidableEq, Repr

namespace Settings

/-- Puts what a source says over the settings so far. -/
def apply (s : Settings) (source : Source) : Settings :=
  { levels := source.levels.getD s.levels
    color := source.color.getD s.color
    terminal := source.terminal.getD s.terminal
    overlay := source.overlay.getD s.overlay
    files := s.files ++ source.file.toList }

/-- The settings as a configuration table. -/
def table (s : Settings) : Toml.Members :=
  [("log_levels", .list (s.levels.map fun l => .text l.name)),
   ("color", .text s.color.name),
   ("terminal", .bool s.terminal),
   ("overlay", .bool s.overlay)]

end Settings

namespace Source

/-- The levels that the items of a list name, each once, in the order of their first naming. -/
def levelsOf (items : List Toml.Value) : List Level :=
  (items.filterMap Level.ofValue?).eraseDups

/-- The levels that a table gives. -/
def levelsIn (table : Toml.Members) : Option (List Level) :=
  match Members.get? "log_levels" table with
  | some (.list items) => some (levelsOf items)
  | _ => none

/-- The colour mode that a table gives. -/
def colorIn (table : Toml.Members) : Option ColorMode :=
  (Members.get? "color" table).bind fun v => ColorMode.ofText? v.plain

/-- The truth value that a table gives. -/
def flagIn (key : String) (table : Toml.Members) : Option Bool :=
  match Members.get? key table with
  | some (.bool b) => some b
  | _ => none

/-- What a configuration table says, read from a file or not. -/
def ofTable (file : Option Path) (table : Toml.Members) : Source :=
  { levels := levelsIn table
    color := colorIn table
    terminal := flagIn "terminal" table
    overlay := flagIn "overlay" table
    file }

/-- Reading the table breaks off at its colour, which cannot be spelled. -/
def breaksOff (table : Toml.Members) : Bool :=
  (Members.get? "color" table).any Value.isOverlong

/-! ### Notices -/

/-- The keys of a configuration table. -/
def knownKeys : List String :=
  ["log_levels", "color", "terminal", "overlay"]

/-- The notice on something that is ignored. -/
def ignored (text : String) : Log.Notice :=
  ⟨Log.warning, text⟩

/-- How notices name the place of a table. -/
def placeName (file : Option Path) : String :=
  (file.map Path.text).getD "<config>"

/-- The notices on the levels of a table. -/
def levelNotices (place : String) (table : Toml.Members) : List Log.Notice :=
  match Members.get? "log_levels" table with
  | none => []
  | some (.list items) =>
    (items.filter fun v => (Level.ofValue? v).isNone).map fun v =>
      ignored (place ++ ": unknown diagnostic level " ++ v.literal ++ " skipped")
  | some v => [ignored (place ++ ": 'log_levels' must be a list, got " ++ v.literal)]

/-- The notice on a text that is no colour mode. -/
def unknownColor (s : String) : Log.Notice :=
  ignored ("Unknown color mode " ++ quoted s ++ " (expected auto, always or never)")

/-- The notices of reading a colour mode. -/
def colorNotices (s : String) : List Log.Notice :=
  if (ColorMode.ofText? s).isSome then [] else [unknownColor s]

/-- The notices on a truth value of a table. -/
def flagNotices (place key : String) (table : Toml.Members) : List Log.Notice :=
  match Members.get? key table with
  | none | some (.bool _) => []
  | some v => [ignored (place ++ ": '" ++ key ++ "' must be a boolean, got " ++ v.literal)]

/-- The keys of a table that are not known, in their alphabetical order. -/
def unknownKeys (table : Toml.Members) : List String :=
  ((table.map Prod.fst).filter fun key => !knownKeys.contains key).mergeSort fun a b => a ≤ b

/-- The notices on what stands behind the levels in a table. -/
def laterNotices (place : String) (table : Toml.Members) : List Log.Notice :=
  ((Members.get? "color" table).map fun v => colorNotices v.plain).getD []
    ++ flagNotices place "terminal" table
    ++ flagNotices place "overlay" table
    ++ match unknownKeys table with
      | [] => []
      | keys => [ignored (place ++ ": ignoring unknown keys: " ++ joinTexts ", " keys)]

/-- The notices of reading a table. -/
def notices (file : Option Path) (table : Toml.Members) : List Log.Notice :=
  let place := placeName file
  levelNotices place table ++ if breaksOff table then [] else laterNotices place table

end Source

namespace Settings

/-- Settings that a table was put over. -/
structure Applied where
  settings : Settings
  /-- Reading the table broke off. -/
  broken : Bool := false
deriving DecidableEq, Repr

/-- Puts a table over the settings so far, which was read from a file or not. When reading it breaks off,
it has given its levels and nothing else. -/
def applyTable (s : Settings) (file : Option Path) (table : Toml.Members) : Applied :=
  if Source.breaksOff table then
    { settings := s.apply { levels := Source.levelsIn table }, broken := true }
  else { settings := s.apply (.ofTable file table) }

end Settings

end Diagnostics
