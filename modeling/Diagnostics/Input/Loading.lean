import Diagnostics.ExitCode
import Diagnostics.Input.Frames
import Diagnostics.Report.Document

/-!
# Loading inputs

An input is a file, or standard input under the name `-`. `Loading.run` loads inputs
one after the other: an input that fails is reported and skipped, and the others are
still loaded. `Loading.events` is what is written meanwhile.
-/

namespace Diagnostics

open Text

/-- Where a diagnostics document is read from. -/
inductive Input
  | standard
  | file (p : Path)
deriving DecidableEq, Repr

/-- Why an input gives no reports. -/
inductive InputFault
  | os (f : OsFault) (p : Path)
  | encoding (f : Utf8.Fault)
  | document (e : DocumentError)

/-- The message on an input that gives no reports. -/
def InputFault.message (name : String) : InputFault → String
  | .os f p => "Cannot read " ++ name ++ ": " ++ f.message p
  | .encoding f => "Cannot decode " ++ name ++ ": " ++ f.message
  | .document e => "Cannot decode " ++ name ++ ": " ++ e.message

/-- The exit code for an input that gives no reports. -/
def InputFault.code : InputFault → ExitCode
  | .os f _ => .ofFault f
  | .encoding _ | .document _ => .badData

/-- What becomes of an input. -/
inductive Loaded
  | reports (rs : List Report)
  | failed (f : InputFault)

/-- What is written while inputs are loaded. -/
inductive LoadEvent
  | notice (n : Log.Notice)
  /-- A problem shown to the user. -/
  | problem (text : String)

namespace Input

/-- The input with a name. -/
def ofName (name : String) : Input :=
  if name = "-" then standard else file (.ofText name)

/-- The checker of diagnostics that name none. -/
def defaultChecker : Input → String
  | standard => "stdin"
  | file p => p.stem

/-- The text of an input; `stdin` is what standard input still holds. -/
def read (t : FileTree) (cwd : FilePlace) (stdin : List UInt8) : Input → Except ReadFault String
  | standard => (FileTree.textOf stdin).mapError .encoding
  | file p => t.readText cwd p

/-- The path that a fault of an input concerns. -/
def path : Input → Path
  | standard => .ofText "-"
  | file p => p

/-- Standard input is used up by reading it. -/
def left (stdin : List UInt8) : Input → List UInt8
  | standard => []
  | file _ => stdin

/-- The reports of an input before frames are built. -/
def parse (t : FileTree) (cwd : FilePlace) (stdin : List UInt8) (i : Input) : Except ReadFault Loaded :=
  match i.read t cwd stdin with
  | .error .nullCharacter => .error .nullCharacter
  | .error (.os f) => .ok (.failed (.os f i.path))
  | .error (.encoding f) => .ok (.failed (.encoding f))
  | .ok text =>
    match Document.reports i.defaultChecker text with
    | .error e => .ok (.failed (.document e))
    | .ok rs => .ok (.reports rs)

/-- Builds the frames of what was loaded. -/
def attach (t : FileTree) (cwd : FilePlace) : Loaded → Except LoadFault Loaded
  | .failed f => .ok (.failed f)
  | .reports rs => (rs.mapM (Report.attachFrames t cwd (.ofRoot cwd))).map .reports

/-- Loads an input, with frames or without. -/
def load (t : FileTree) (cwd : FilePlace) (frames : Bool) (stdin : List UInt8) (i : Input) :
    Except LoadFault Loaded :=
  match i.parse t cwd stdin with
  | .error f => .error (.read f)
  | .ok loaded => if frames then attach t cwd loaded else .ok loaded

/-- What is written about a document before its outcome. -/
def documentEvents (t : FileTree) (cwd : FilePlace) (stdin : List UInt8) (i : Input) : List LoadEvent :=
  match i.read t cwd stdin with
  | .ok text => (Document.notices i.defaultChecker text).map .notice
  | .error _ => []

end Input

/-- What loading has come to. -/
structure Loading where
  /-- What standard input still holds. -/
  stdin : List UInt8
  reports : List Report := []
  /-- The exit code of the first input that failed. -/
  code : Option ExitCode := none
  /-- What has been written. -/
  events : List LoadEvent := []

/-- The end of loading by a fault that is not put down to one input. What was written stays. -/
structure Breakdown where
  fault : LoadFault
  events : List LoadEvent

namespace Loading

/-- Takes in what became of the input with a name. A failure is reported, and its exit code counts
unless an earlier input failed. -/
def add (name : String) (l : Loading) : Loaded → Loading
  | .reports rs => { l with reports := l.reports ++ rs }
  | .failed f =>
    { l with
      code := l.code.or (some f.code)
      events := l.events ++ [.notice ⟨Log.error, f.message name⟩, .problem (f.message name)] }

/-- Goes on with the input with a name. -/
def step (t : FileTree) (cwd : FilePlace) (frames : Bool) (l : Loading) (name : String) :
    Except Breakdown Loading :=
  let input := Input.ofName name
  let events := l.events ++ input.documentEvents t cwd l.stdin
  match input.load t cwd frames l.stdin with
  | .error fault => .error { fault, events }
  | .ok loaded => .ok (add name { l with stdin := input.left l.stdin, events } loaded)

/-- Loads the inputs with the given names one after the other. -/
def run (t : FileTree) (cwd : FilePlace) (frames : Bool) (stdin : List UInt8) (names : List String) :
    Except Breakdown Loading :=
  names.foldlM (step t cwd frames) { stdin }

end Loading

end Diagnostics
