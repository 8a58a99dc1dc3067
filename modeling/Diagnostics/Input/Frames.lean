import Diagnostics.CodeFrame
import Diagnostics.Files.Tree
import Diagnostics.Report.Basic

/-!
# Frames from source files

`Report.attachFrames` builds the code frames that the diagnostics of a report lack from
the files that their ids name. Each file is read once. A diagnostic whose file cannot
be had stays as it is. A torn id names no file, and one that is not even the name of
other bytes than UTF-8 breaks the building off.
-/

namespace Diagnostics

open Text

/-- The name of the file to build a diagnostic's frame from, unless it has a frame already, has no
location, or names no file. -/
def Diagnostic.frameName? (d : Diagnostic) : Option RawText :=
  if d.codeFrame.isSome || d.location.isNone then none
  else d.id.filter (· ≠ "")

/-- The file that the name stands for, unless it is torn. Relative names are taken from the directory
`base`. -/
def Diagnostic.frameFile? (base : Path) (d : Diagnostic) : Option Path :=
  (d.frameName?.bind RawText.whole?).map fun id => base.under (.ofText id)

/-- The name, when it is torn. -/
def Diagnostic.tornName? (d : Diagnostic) : Option RawText :=
  d.frameName?.filter fun name => name.whole?.isNone

/-- The lone half stands for a byte that is not UTF-8 in the name of a file. -/
def Text.Symbol.isByte : Symbol → Bool
  | .char _ => true
  | .half u => 0xdc80 ≤ u.toNat && u.toNat < 0xdd00

/-- The text of a source file, when it can be had. A path with the null character is a fault. -/
def FileTree.source? (t : FileTree) (cwd : FilePlace) (p : Path) : Except ReadFault (Option String) :=
  match t.readText cwd p with
  | .ok text => .ok (some text)
  | .error .nullCharacter => .error .nullCharacter
  | .error _ => .ok none

/-- The diagnostic with a frame from a source text, and unchanged without one. -/
def Diagnostic.framed (source : Option String) (d : Diagnostic) : Except FrameFault Diagnostic :=
  match source with
  | some text => d.framedFrom text
  | none => .ok d

/-- A fault that is not put down to one input. -/
inductive LoadFault
  /-- A file cannot be looked up. -/
  | read (f : ReadFault)
  /-- The name of a file has lone halves that stand for no bytes. -/
  | name
  /-- A frame cannot be built. -/
  | frame (f : FrameFault)
deriving DecidableEq, Repr

/-- Looks up a file with a torn name. Names in file trees are not torn, so there is no such file, but only
names whose lone halves stand for bytes are looked up. -/
def RawText.lookUpTorn (name : RawText) : Except LoadFault Unit :=
  if !name.symbols.all Symbol.isByte then .error .name
  else if name.symbols.contains (.char '\x00') then .error (.read .nullCharacter)
  else .ok ()

/-- The texts of the source files read so far. -/
abbrev SourceCache := List (Path × Option String)

namespace FileTree

/-- The text of a source file, from the cache when it was read before, and the cache afterwards. -/
def cachedSource? (t : FileTree) (cwd : FilePlace) (cache : SourceCache) (p : Path) :
    Except ReadFault (SourceCache × Option String) :=
  match cache.lookup p with
  | some source => .ok (cache, source)
  | none => (t.source? cwd p).map fun source => ((p, source) :: cache, source)

/-- Builds the frame of a diagnostic if it is missing; gives the cache afterwards, too. -/
def attachNext (t : FileTree) (cwd : FilePlace) (base : Path) (cache : SourceCache) (d : Diagnostic) :
    Except LoadFault (SourceCache × Diagnostic) :=
  match d.tornName? with
  | some name => name.lookUpTorn.map fun _ => (cache, d)
  | none =>
    match d.frameFile? base with
    | none => .ok (cache, d)
    | some p => do
      let (cache, source) ← (t.cachedSource? cwd cache p).mapError .read
      let d ← (d.framed source).mapError .frame
      return (cache, d)

/-- Builds the missing frames of diagnostics one after the other. -/
def attachFrom (t : FileTree) (cwd : FilePlace) (base : Path) :
    SourceCache → List Diagnostic → Except LoadFault (List Diagnostic)
  | _, [] => .ok []
  | cache, d :: ds => do
    let (cache, d) ← t.attachNext cwd base cache d
    return d :: (← t.attachFrom cwd base cache ds)

end FileTree

/-- Builds the missing frames of a report. -/
def Report.attachFrames (t : FileTree) (cwd : FilePlace) (base : Path) (r : Report) :
    Except LoadFault Report :=
  (t.attachFrom cwd base [] r.diagnostics).map fun diagnostics => { r with diagnostics }

end Diagnostics
