import Diagnostics.Files.Fault

/-!
# File trees

A `FileTree` is the state of a file system: what stands at each place, a place being
the list of names from the root. `FileTree.find` follows the parts of a path as the
operating system does, so `..` behind a file or a missing directory is a fault, and so is
any name in a directory that may not be searched;
`FileTree.readText` reads a file as UTF-8 with its line ends unified.
-/

namespace Diagnostics

open Text

/-- A place in a file tree: the names from the root. -/
abbrev FilePlace := List String

/-- What the operating system allows of a directory. -/
structure Access where
  /-- Names may be looked up in it. -/
  search : Bool := true
  /-- It may be opened. -/
  read : Bool := true
deriving DecidableEq, Repr

/-- What stands at a place. -/
inductive FileEntry
  | file (content : List UInt8)
  | directory (access : Access := {})
  /-- A file that cannot be opened. -/
  | barred (fault : OsFault)

/-- The state of a file system. -/
structure FileTree where
  entry? : FilePlace → Option FileEntry

namespace FileTree

/-- The tree with the given entries; the directories above an entry, and the root, are there too. -/
def ofEntries (entries : List (FilePlace × FileEntry)) : FileTree where
  entry? place :=
    match entries.lookup place with
    | some e => some e
    | none => if place.isEmpty || entries.any (fun e => place.isPrefixOf e.1) then some (.directory {}) else none

/-- The length in bytes beyond which a name is refused. -/
def maxNameBytes : Nat := 255

/-- The length in bytes from which a path is refused. -/
def maxPathBytes : Nat := 4096

/-- Follows names from a place. Each step needs a directory to start from, which may be searched. -/
def follow (t : FileTree) : FilePlace → List String → Except OsFault FilePlace
  | place, [] => .ok place
  | place, name :: names =>
    match t.entry? place with
    | none => .error .notFound
    | some (.directory access) =>
      if !access.search then .error .denied
      else if name = ".." then t.follow place.dropLast names
      else if maxNameBytes < name.utf8ByteSize then .error .nameTooLong
      else t.follow (place ++ [name]) names
    | some _ => .error .notADirectory

/-- The entry that a path names, read from the directory `cwd`. -/
def find (t : FileTree) (cwd : FilePlace) (p : Path) : Except OsFault FileEntry :=
  if maxPathBytes ≤ p.text.utf8ByteSize then .error .nameTooLong
  else
    match t.follow (if p.isAbsolute then [] else cwd) p.parts with
    | .error f => .error f
    | .ok place =>
      match t.entry? place with
      | some e => .ok e
      | none => .error .notFound

/-- The path holds the null character. -/
def hasNull (p : Path) : Bool :=
  p.text.toList.contains '\x00'

/-- The bytes of a file. -/
def readBytes (t : FileTree) (cwd : FilePlace) (p : Path) : Except ReadFault (List UInt8) :=
  if hasNull p then .error .nullCharacter
  else
    match t.find cwd p with
    | .error f => .error (.os f)
    | .ok (.file content) => .ok content
    | .ok (.directory access) => .error (.os (if access.read then .isADirectory else .denied))
    | .ok (.barred f) => .error (.os f)

/-- The text of bytes in UTF-8, its line ends unified. -/
def textOf (bytes : List UInt8) : Except Utf8.Fault String :=
  (Utf8.decode bytes).map fun cs => String.ofList (unifyNewlines cs)

/-- The text of a file. -/
def readText (t : FileTree) (cwd : FilePlace) (p : Path) : Except ReadFault String :=
  match t.readBytes cwd p with
  | .error f => .error f
  | .ok bytes => (textOf bytes).mapError ReadFault.encoding

/-- The path names a file. A path that leads nowhere names none; any other fault of the operating
system is passed on. -/
def isFile (t : FileTree) (cwd : FilePlace) (p : Path) : Except OsFault Bool :=
  if hasNull p then .ok false
  else
    match t.find cwd p with
    | .ok (.directory _) => .ok false
    | .ok _ => .ok true
    | .error .notFound | .error .notADirectory => .ok false
    | .error f => .error f

/-- The place that a path names when every `..` simply undoes the name before it. -/
def resolve (cwd : FilePlace) (p : Path) : FilePlace :=
  p.parts.foldl (fun place name => if name = ".." then place.dropLast else place ++ [name])
    (if p.isAbsolute then [] else cwd)

end FileTree

end Diagnostics
