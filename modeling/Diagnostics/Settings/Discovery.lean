import Diagnostics.Files.Tree
import Diagnostics.Settings.Basic
import Diagnostics.Toml.Library

/-!
# Finding and loading settings

`Settings.discover` looks for the configuration file nearest to a start, going up
through the directories above it; `Settings.load` reads the settings from it, or from
a file that is given. A file that is missing or is no TOML counts as an empty table and
is reported by a notice. Bytes that are not UTF-8, paths with the null character and
colours that cannot be spelled are not put up with.
-/

namespace Diagnostics

open Text

variable [Toml.Library]

/-- The name of a configuration file. -/
def configName : String := "checkrelay.toml"

/-- The name of a project file, which may hold the configuration as one of its tables. -/
def projectName : String := "pyproject.toml"

/-- A text is a document, or it is reported and counts as an empty one. -/
inductive TableRead
  | table (ms : Toml.Members)
  /-- The text is no TOML. -/
  | malformed
  /-- The file cannot be opened. -/
  | unreadable (f : OsFault)

namespace TableRead

/-- Reads a file as TOML. -/
def ofFile (t : FileTree) (cwd : FilePlace) (p : Path) : Except ReadFault TableRead :=
  match t.readText cwd p with
  | .ok text => .ok (((Toml.Library.read? text).map table).getD malformed)
  | .error (.os f) => .ok (unreadable f)
  | .error f => .error f

/-- The table that was read, empty when there is none. -/
def members : TableRead → Toml.Members
  | table ms => ms
  | malformed | unreadable _ => []

/-- The notices on what was read from a path. -/
def notices (p : Path) : TableRead → List Log.Notice
  | table _ => []
  | malformed => [⟨Log.error, "Error decoding TOML from " ++ p.text⟩]
  | unreadable f => [⟨Log.error, "Error loading TOML from " ++ p.text ++ ": " ++ f.message p⟩]

end TableRead

/-- The table of a file, empty when it cannot be had. -/
def FileTree.readTable (t : FileTree) (cwd : FilePlace) (p : Path) : Except ReadFault Toml.Members :=
  (TableRead.ofFile t cwd p).map TableRead.members

/-- The notices of reading the table of a file. -/
def FileTree.tableNotices (t : FileTree) (cwd : FilePlace) (p : Path) : List Log.Notice :=
  match TableRead.ofFile t cwd p with
  | .ok r => r.notices p
  | .error _ => []

/-- The configuration within the table of a file: the table `tool.checkrelay` of a project file, if
there is one, and all of any other file. -/
def configTable? (p : Path) (ms : Toml.Members) : Option Toml.Members :=
  if p.name ≠ projectName then some ms
  else
    match Members.get? "tool" ms with
    | some (.object tool) =>
      match Members.get? "checkrelay" tool with
      | some (.object config) => some config
      | _ => none
    | _ => none

/-! ### Discovery -/

namespace FilePlace

/-- The places from the one whose names are given last first up to the root. -/
def upwardFrom : List String → List FilePlace
  | [] => [[]]
  | name :: names => (name :: names).reverse :: upwardFrom names

/-- The place and all places above it, the nearest first. -/
def upward (place : FilePlace) : List FilePlace :=
  upwardFrom place.reverse

end FilePlace

/-- The files that a directory may keep the configuration in, the preferred one first. -/
def candidatesIn (place : FilePlace) : List Path :=
  [.ofRoot (place ++ [configName]), .ofRoot (place ++ [projectName])]

namespace FileTree

/-- The file exists and holds a configuration: a configuration file does in any case, and is not
opened for it. -/
def qualifies (t : FileTree) (p : Path) : Except ReadFault Bool :=
  match t.isFile [] p with
  | .error f => .error (.os f)
  | .ok false => .ok false
  | .ok true =>
    if p.name = configName then .ok true
    else (t.readTable [] p).map fun ms => (configTable? p ms).isSome

/-- The first candidate that qualifies. -/
def firstQualified (t : FileTree) : List Path → Except ReadFault (Option Path)
  | [] => .ok none
  | p :: ps =>
    match t.qualifies p with
    | .error f => .error f
    | .ok true => .ok (some p)
    | .ok false => t.firstQualified ps

/-- The notices of looking for the first candidate that qualifies. -/
def searchNotices (t : FileTree) : List Path → List Log.Notice
  | [] => []
  | p :: ps =>
    (match t.isFile [] p with
      | .ok true => if p.name = configName then [] else t.tableNotices [] p
      | _ => [])
      ++ match t.qualifies p with
        | .ok false => t.searchNotices ps
        | _ => []

/-- The directory where a search from a place starts: the place, or the one above it for a file. -/
def searchStart (t : FileTree) (place : FilePlace) : Except OsFault FilePlace :=
  (t.isFile [] (.ofRoot place)).map fun isFile => if isFile then place.dropLast else place

/-- The candidates of a search, the nearest first. -/
def candidates (t : FileTree) (cwd : FilePlace) (start : Path) : Except ReadFault (List Path) :=
  if hasNull start then .error .nullCharacter
  else
    match t.searchStart (resolve cwd start) with
    | .error f => .error (.os f)
    | .ok place => .ok ((FilePlace.upward place).flatMap candidatesIn)

end FileTree

namespace Settings

/-- The configuration file nearest to a start, which may be a directory or a file. -/
def discover (t : FileTree) (cwd : FilePlace) (start : Path) : Except ReadFault (Option Path) :=
  match t.candidates cwd start with
  | .error f => .error f
  | .ok ps => t.firstQualified ps

/-- The notices of looking for the configuration file. -/
def discoveryNotices (t : FileTree) (cwd : FilePlace) (start : Path) : List Log.Notice :=
  match t.candidates cwd start with
  | .error _ => []
  | .ok ps => t.searchNotices ps

/-! ### Loading -/

/-- Puts what a file says over the settings so far. -/
def applyFile (t : FileTree) (cwd : FilePlace) (p : Path) (s : Settings) : Except ReadFault Applied :=
  (t.readTable cwd p).map fun ms =>
    match configTable? p ms with
    | some config => s.applyTable (some p) config
    | none => { settings := s }

/-- The notices of putting what a file says over the settings. -/
def fileNotices (t : FileTree) (cwd : FilePlace) (p : Path) : List Log.Notice :=
  t.tableNotices cwd p ++
    match t.readTable cwd p with
    | .error _ => []
    | .ok ms =>
      match configTable? p ms with
      | some config => Source.notices (some p) config
      | none => [⟨Log.info, "No [tool.checkrelay] section in " ++ p.text⟩]

/-- Where settings are loaded from. -/
inductive Origin
  /-- The given file. -/
  | file (p : Path)
  /-- The file nearest to a start. -/
  | nearest (start : Path)

/-- The file that settings are loaded from, if there is one. -/
def Origin.file? (t : FileTree) (cwd : FilePlace) : Origin → Except ReadFault (Option Path)
  | .file p => .ok (some p)
  | .nearest start => discover t cwd start

/-- Why settings cannot be loaded. -/
inductive Fault
  /-- A file cannot be looked up or read. -/
  | read (f : ReadFault)
  /-- The colour cannot be spelled. -/
  | overlongColor
deriving DecidableEq, Repr

/-- The settings that a table was put over, unless reading it broke off. -/
def Applied.whole (a : Applied) : Except Fault Settings :=
  if a.broken then .error .overlongColor else .ok a.settings

/-- The settings from the defaults and the file of an origin. -/
def load (t : FileTree) (cwd : FilePlace) (o : Origin) : Except Fault Settings :=
  match o.file? t cwd with
  | .error f => .error (.read f)
  | .ok none => .ok {}
  | .ok (some p) => ((applyFile t cwd p {}).mapError Fault.read).bind Applied.whole

/-- The notices of loading settings. -/
def loadNotices (t : FileTree) (cwd : FilePlace) (o : Origin) : List Log.Notice :=
  (match o with
    | .file _ => []
    | .nearest start => discoveryNotices t cwd start)
    ++ match o.file? t cwd with
      | .ok (some p) => fileNotices t cwd p
      | _ => []

end Settings

end Diagnostics
