import Diagnostics.CommandLine.Consulted
import Diagnostics.Toml.Standard

/-!
# The program

Looks up what a run needs to know, runs it, and writes what it left.
-/

namespace Diagnostics.Main

open CommandLine Toml.Standard

/-- The number of a fault of the operating system; some are given negated in 32 bits. -/
def faultNumber (code : UInt32) : Nat :=
  if code.toNat < 0x80000000 then code.toNat else 0x100000000 - code.toNat

/-- The fault of the operating system that an error tells of. -/
def faultOfError (e : IO.Error) : OsFault :=
  match e with
  | .noFileOrDirectory _ code _ | .inappropriateType _ code _ | .invalidArgument _ code _
  | .permissionDenied _ code _ | .resourceExhausted _ code _ | .noSuchThing _ code _ | .otherError code _
  | .hardwareFault code _ | .resourceBusy code _ => .ofNumber (faultNumber code)
  | _ => .ofNumber 5

/-- The bytes of the file of a name, or why it cannot be opened. -/
def openFile (name : String) : IO (Except OsFault (List UInt8)) := do
  try
    let bytes ← IO.FS.readBinFile name
    return .ok bytes.toList
  catch e =>
    return .error (faultOfError e)

/-- What stands at a place. The directory above a place can be named from there when the place is a
directory that may be searched. -/
def lookUp (place : FilePlace) : IO (Option FileEntry) := do
  let name := (Path.ofRoot place).text
  match ← openFile name with
  | .ok bytes => return some (.file bytes)
  | .error fault =>
    match fault.number with
    | 2 | 20 | 22 | 36 => return none
    | 13 | 21 =>
      match ← openFile (name ++ "/..") with
      | .error .notADirectory => return some (.barred fault)
      | above =>
        let search := !(above matches .error .denied)
        return some (.directory { search, read := fault = .isADirectory })
    | _ => return some (.barred fault)

/-- What has been looked up. -/
abbrev Known := List (FilePlace × Option FileEntry)

/-- The files as far as they have been looked up. -/
def treeOf (known : Known) : FileTree :=
  .ofEntries (known.filterMap fun k => k.2.map fun e => (k.1, e))

/-- Looks up the places that have not been looked up before. -/
def lookUpAll (known : Known) (places : List FilePlace) : IO Known :=
  places.foldlM (fun known place =>
    if (known.lookup place).isSome then return known
    else return (place, ← lookUp place) :: known) known

/-- Reads the rest of a stream. -/
partial def readRest (s : IO.FS.Stream) (before : ByteArray) : IO ByteArray := do
  let chunk ← s.read 65536
  if chunk.isEmpty then return before
  readRest s (before ++ chunk)

/-- The environment variables that the program asks for. -/
def environment : IO Environment := do
  let names := [Log.thresholdVariable, "FORCE_COLOR", "NO_COLOR"]
  let entries ← names.filterMapM fun name => do
    return (← IO.getEnv name).map fun value => (name, value)
  return { entries }

/-- Looks around, runs the program with its arguments and writes what the run left. -/
def run (args : List String) : IO UInt32 := do
  let directory := (Path.ofText (← IO.currentDir).toString).parts
  let stdin ← IO.getStdin
  let stdout ← IO.getStdout
  let stderr ← IO.getStderr
  let start : Surroundings :=
    { files := treeOf []
      directory
      environment := ← environment
      outputTerminal := ← stdout.isTty
      errorTerminal := ← stderr.isTty }
  let known ← lookUpAll [] (consulted start args)
  let known ← lookUpAll known
    (consulted { start with files := treeOf known } args)
  let found := { start with files := treeOf known }
  let input ← if readsInput found args then readRest stdin .empty else pure .empty
  let found := { found with input := input.toList }
  let known ← lookUpAll known (consulted found args)
  let outcome := Program.run { found with files := treeOf known } .whole args
  for output in outcome.outputs do
    match output with
    | .out s => stdout.putStr s
    | .err s => stderr.putStr s
  stdout.flush
  return UInt32.ofNat outcome.code

end Diagnostics.Main

/-- Runs the program with its arguments. -/
def main (args : List String) : IO UInt32 :=
  Diagnostics.Main.run args
