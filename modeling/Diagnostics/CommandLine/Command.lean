import Diagnostics.CommandLine.Switch

/-!
# Commands

The commands of the program with their switches, and the help text of a command.
-/

namespace Diagnostics.CommandLine

open Text

/-- A command as its help text describes it. -/
structure Command where
  about : String
  /-- What follows the options in the usage line. -/
  operands : List String := []
  switches : List Switch
  /-- Switches may stand behind other arguments. -/
  anywhere : Bool := true
  /-- Arguments that are no switches are allowed. -/
  takesRest : Bool := false
  /-- The commands within the command, with what they are about. -/
  inner : List (String × String) := []

namespace Command

/-- The switch that every command has. -/
def helpSwitch : Switch :=
  { key := .help, letter := some 'h', name := "--help", about := "Show this message and exit." }

/-- The switch for a configuration file. -/
def configSwitch : Switch :=
  { key := .config, name := "--config", shape := .value "FILE"
    about := "Read settings from this TOML file instead of discovering one." }

/-- The switch for levels. -/
def levelSwitch : Switch :=
  { key := .level, name := "--level", shape := .value "DIAGNOSTICLEVEL"
    about := "Diagnostic level to report (repeatable); overrides log_levels." }

/-- The switch for building frames. -/
def framesSwitch : Switch :=
  { key := .frames, name := "--frames", shape := .toggle "--no-frames"
    about := "Build missing code frames from the referenced source files." }

/-- The command that renders diagnostics for the terminal. -/
def report : Command :=
  { about := "Render checker diagnostics for the terminal."
    operands := ["[INPUTS]..."]
    takesRest := true
    switches :=
      [ configSwitch, levelSwitch,
        { key := .terminal, name := "--terminal", shape := .toggle "--no-terminal"
          about := "Print full diagnostics (default) or only the per-checker summaries." },
        framesSwitch, helpSwitch ] }

/-- The command that emits payloads for clients. -/
def payload : Command :=
  { about := "Emit the client payload JSON for each checker."
    operands := ["[INPUTS]..."]
    takesRest := true
    switches :=
      [ configSwitch, levelSwitch,
        { key := .overlay, name := "--overlay", shape := .toggle "--no-overlay"
          about := "Override the overlay setting (payloads are only emitted when enabled)." },
        framesSwitch,
        { key := .indent, name := "--indent", shape := .value "INTEGER RANGE"
          about := "Pretty-print JSON with this indentation.  [x>=0]" },
        helpSwitch ] }

/-- The command that shows the version. -/
def version : Command :=
  { about := "Show the current version of CheckRelay."
    switches :=
      [ { key := .format, name := "--format", shape := .value "OUTPUTFORMAT"
          about := "Output format (text, json)." },
        helpSwitch ] }

/-- The command that shows a starter configuration. -/
def init : Command :=
  { about := "Display an initial CheckRelay configuration file."
    switches :=
      [ { key := .pyproject, name := "--pyproject"
          about := "Generate config for inclusion in pyproject.toml." },
        helpSwitch ] }

/-- The command that shows the settings in effect. -/
def dump : Command :=
  { about := "Display the effective CheckRelay configuration."
    switches := [configSwitch, levelSwitch, helpSwitch] }

/-- The command that holds those on configuration. -/
def config : Command :=
  { about := "Inspect and scaffold CheckRelay configuration."
    operands := ["COMMAND", "[ARGS]..."]
    anywhere := false
    takesRest := true
    switches := [helpSwitch]
    inner := [("dump", dump.about), ("init", init.about)] }

/-- The program as a whole. -/
def program : Command :=
  { about := "CheckRelay: render checker diagnostics for terminals and overlay clients."
    operands := ["[COMMAND]", "[ARGS]..."]
    anywhere := false
    takesRest := true
    switches :=
      [ { key := .quiet, letter := some 'q', name := "--quiet"
          about := "Suppress non-essential output." },
        { key := .verbose, letter := some 'v', name := "--verbose"
          about := "Increase verbosity. Repeat for debug (-vv) and trace (-vvv) logging." },
        { key := .noColor, name := "--no-color"
          about := "Disable color output (equivalent to --color=never)." },
        { key := .color, name := "--color", shape := .value "COLORMODE"
          about := "Color output: auto (default), always, or never." },
        helpSwitch ]
    inner :=
      [ ("config", config.about), ("payload", payload.about), ("report", report.about),
        ("version", version.about) ] }

end Command

/-! ### Help texts -/

namespace Help

/-- The width of help texts. -/
def width : Nat := 80

/-- The greatest width of a column of names. -/
def maxColumn : Nat := 30

/-- A line may be broken behind a hyphen between a word of two letters or more and another letter;
`before` holds the characters in front of the hyphen, the last first. -/
def breaksAt (before : List Char) (behind : List Char) : Bool :=
  match before, behind with
  | a :: b :: _, c :: _ => a.isAlpha && b.isAlpha && c.isAlpha
  | _, _ => false

/-- Adds a character to the piece being read. -/
def close (piece : List Char) (pieces : List (List Char)) : List (List Char) :=
  if piece.isEmpty then pieces else piece.reverse :: pieces

/-- The pieces of a text between which lines may be broken: runs of blanks, and words or parts of
words. `piece` is the piece being read, its last character first. -/
def piecesFrom : (piece : List Char) → List Char → List (List Char)
  | piece, [] => close piece []
  | piece, c :: cs =>
    match piece with
    | [] => piecesFrom [c] cs
    | p :: _ =>
      if (p == ' ') != (c == ' ') then close piece (piecesFrom [c] cs)
      else if c == '-' && breaksAt piece cs then close (c :: piece) (piecesFrom [] cs)
      else piecesFrom (c :: piece) cs

/-- A piece is a run of blanks. -/
def isGap (piece : List Char) : Bool :=
  piece.all (· == ' ')

/-- A line without the blanks at its end. -/
def trimEnd (line : List Char) : List Char :=
  (line.reverse.dropWhile (· == ' ')).reverse

/-- Fills lines of a width with pieces; `line` is the line being filled. Blanks are dropped where a
line is broken. -/
def fill (width : Nat) : (line : List Char) → List (List Char) → List (List Char)
  | line, [] => if line.isEmpty then [] else [trimEnd line]
  | line, piece :: pieces =>
    if line.isEmpty then fill width (if isGap piece then [] else piece) pieces
    else if line.length + piece.length ≤ width then fill width (line ++ piece) pieces
    else trimEnd line :: fill width (if isGap piece then [] else piece) pieces

/-- A text in lines of a width. -/
def wrap (width : Nat) (s : String) : List String :=
  (fill width [] (piecesFrom [] s.toList)).map String.ofList

/-- A text filled up with blanks. -/
def pad (n : Nat) (s : String) : String :=
  s ++ String.ofList (List.replicate (n - s.length) ' ')

/-- A blank margin. -/
def margin (n : Nat) : String :=
  String.ofList (List.replicate n ' ')

/-- One entry of a list of names and descriptions, whose second column starts at `column`. -/
def entry (column : Nat) (e : String × String) : List String :=
  let lines := wrap (width - column - 2) e.2
  let later := lines.map (margin (column + 2) ++ ·)
  if e.1.length + 2 ≤ column then
    match lines with
    | [] => ["  " ++ e.1]
    | first :: _ => ("  " ++ pad column e.1 ++ first) :: later.drop 1
  else ("  " ++ e.1) :: later

/-- A titled list of names and descriptions, with an empty line in front; nothing for no entries. -/
def block (title : String) (entries : List (String × String)) : List String :=
  if entries.isEmpty then []
  else
    let longest := (entries.map fun e => e.1.length).foldl max 0
    "" :: (title ++ ":") :: entries.flatMap (entry (min longest maxColumn + 2))

/-- How a switch is written in a help text. -/
def spelling (s : Switch) : String :=
  let names := ((s.letter.map fun c => String.ofList ['-', c, ',', ' ']).getD "") ++ s.name
  match s.shape with
  | .flag => names
  | .toggle off => names ++ " / " ++ off
  | .value kind => names ++ " " ++ kind

/-- The usage line of a command. -/
def usage (path : String) (c : Command) : String :=
  "Usage: " ++ joinTexts " " (path :: "[OPTIONS]" :: c.operands)

/-- The help text of a command. -/
def render (path : String) (c : Command) : String :=
  let lines :=
    [usage path c, ""] ++ (wrap (width - 2) c.about).map ("  " ++ ·)
      ++ block "Options" (c.switches.map fun s => (spelling s, s.about))
      ++ block "Commands" c.inner
  joinTexts "" (lines.map (· ++ "\n"))

end Help

end Diagnostics.CommandLine
