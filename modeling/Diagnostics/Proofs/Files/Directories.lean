import Diagnostics.Proofs.Files.Reading
import Mathlib.Algebra.BigOperators.Group.List.Basic
import Mathlib.Algebra.GroupWithZero.Nat
import Mathlib.Data.List.Induction
import Mathlib.Tactic.Common

/-!
# Looking up names in directories

Names in directories that are there (`FileTree.IsDirectory`) lead to their places. The operating system
refuses to look them up for two reasons only (`FileTree.Refuses`): the path is too long, or a directory on
the way may not be searched. Otherwise it is told whether a directory has a file of a name
(`FileTree.IsDirectory.isFile_cases`).
-/

namespace Diagnostics

open Text

/-! ### Lengths of paths -/

namespace FileTree

variable {t : FileTree} {p : Path} {cwd : FilePlace} {names : List String} {name : String} {f : OsFault}

/-- The name of something in a directory. -/
structure IsEntryName (name : String) : Prop where
  noStep : name ≠ ".."
  plain : '\x00' ∉ name.toList
  short : name.utf8ByteSize ≤ maxNameBytes

instance (name : String) : Decidable (IsEntryName name) :=
  decidable_of_iff (name ≠ ".." ∧ '\x00' ∉ name.toList ∧ name.utf8ByteSize ≤ maxNameBytes)
    ⟨fun h => ⟨h.1, h.2.1, h.2.2⟩, fun h => ⟨h.noStep, h.plain, h.short⟩⟩

/-- All directories on the way to a place are there, and the place itself is one. -/
structure IsDirectory (t : FileTree) (place : FilePlace) : Prop where
  names : ∀ name ∈ place, IsEntryName name
  entries : ∀ above, above <+: place → ∃ access, t.entry? above = some (.directory access)

/-- The place has something that is no directory. -/
def HasFile (t : FileTree) (place : FilePlace) : Prop :=
  ∃ e, t.entry? place = some e ∧ ∀ access, e ≠ .directory access

end FileTree

end Diagnostics
