import Diagnostics.Text.Lines

/-!
# Paths

A path is kept in its tidy form: no empty parts, no parts `.`, and no slash at the
end; parts `..` stay, since what they mean depends on the files. `Path.text` spells
it out, the empty path as a single point.
-/

namespace Diagnostics

open Text

/-- A path in tidy form. -/
structure Path where
  /-- The slashes in front: none for a relative path, else one or two. -/
  slashes : Nat
  /-- The names between the slashes. -/
  parts : List String
deriving DecidableEq, Repr

namespace Path

/-- The path that a text spells. Exactly two slashes in front are kept, any other number counts
as one. -/
def ofText (s : String) : Path :=
  let cs := s.toList
  let front := (cs.takeWhile (· == '/')).length
  { slashes := if front ≤ 2 then front else 1
    parts := ((splitOn '/' cs).map String.ofList).filter fun part => part ≠ "" && part ≠ "." }

/-- The path starts at the root. -/
def isAbsolute (p : Path) : Bool :=
  p.slashes ≠ 0

/-- The spelling of a path. -/
def text (p : Path) : String :=
  if p.slashes = 0 && p.parts.isEmpty then "."
  else String.ofList (List.replicate p.slashes '/') ++ joinTexts "/" p.parts

/-- The last part, empty when there is none. -/
def name (p : Path) : String :=
  p.parts.getLast?.getD ""

/-- A name without its last extension. A point in front or at the end makes no extension. -/
def stemOf (name : String) : String :=
  let cs := name.toList
  let extension := cs.reverse.takeWhile (· ≠ '.')
  let stem := (cs.reverse.drop (extension.length + 1)).reverse
  if extension.isEmpty || stem.isEmpty then name else String.ofList stem

/-- The last part without its extension. -/
def stem (p : Path) : String :=
  stemOf p.name

/-- A path read from another one: an absolute path stands for itself. -/
def under (base p : Path) : Path :=
  if p.isAbsolute then p else { base with parts := base.parts ++ p.parts }

/-- The path of a name within a directory given by its parts from the root. -/
def ofRoot (parts : List String) : Path :=
  { slashes := 1, parts }

end Path

end Diagnostics
