import Diagnostics.CommandLine.Run

/-!
# What a run looks at

`consulted` lists the places of the file system that a run may look at, as far as what
is known of the files so far shows: configuration files, the files that arguments may
name, and the source files that readable inputs name. `readsInput` says whether a run
depends on standard input.
-/

namespace Diagnostics.CommandLine

/-- The places on the way along names from a place, itself included. -/
def placesAlong : FilePlace → List String → List FilePlace
  | place, [] => [place]
  | place, name :: names =>
    place :: placesAlong (if name = ".." then place.dropLast else place ++ [name]) names

/-- The places on the way of a path from the current directory. -/
def placesOf (directory : FilePlace) (p : Path) : List FilePlace :=
  placesAlong (if p.isAbsolute then [] else directory) p.parts

/-- The paths that arguments may name, as a whole or behind an equals sign. -/
def argumentPaths (args : List String) : List Path :=
  args.flatMap fun a =>
    .ofText a :: ((Argument.atEquals a.toList).2.map Path.ofText).toList

/-- The source files that an input names. -/
def sourcePaths (w : Surroundings) (name : String) : List Path :=
  match (Input.ofName name).parse w.files w.directory w.input with
  | .ok (.reports rs) =>
    rs.flatMap fun r => r.diagnostics.filterMap (Diagnostic.frameFile? (.ofRoot w.directory))
  | _ => []

/-- The places that a run with the given arguments may look at. -/
def consulted (w : Surroundings) (args : List String) : List FilePlace :=
  let configs := (FilePlace.upward w.directory).flatMap candidatesIn
  let sources := ("-" :: args).flatMap (sourcePaths w)
  ((configs ++ argumentPaths args ++ sources).flatMap (placesOf w.directory)).eraseDups

/-- An empty diagnostics document. -/
def emptyDocument : List UInt8 :=
  "[]".toUTF8.toList

variable [Toml.Library]

/-- A run depends on standard input when nothing on it and an empty document there make two runs. -/
def readsInput (w : Surroundings) (args : List String) : Bool :=
  Program.run { w with input := [] } .whole args ≠ Program.run { w with input := emptyDocument } .whole args

end Diagnostics.CommandLine
