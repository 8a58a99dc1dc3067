import Diagnostics.Files.Tree
import Diagnostics.Proofs.Text.Lines
import Diagnostics.Proofs.Text.Utf8

/-!
# Reading files

A path has the null character when one of its parts does (`FileTree.hasNull_iff`), and the
path that a text spells when the text does (`FileTree.hasNull_ofText_iff`). Reading a file
breaks off for the null character exactly when the path has one
(`FileTree.readText_eq_nullCharacter_iff`). A file that stores a text is read as that text
with its line ends unified (`FileTree.Stores.readText_eq`).
-/

namespace Diagnostics

open Text

/-! ### Paths -/

namespace FileTree

variable {t : FileTree} {cwd : FilePlace} {p : Path}

/-- Reading breaks off for the null character exactly when the path has it. -/
theorem readText_eq_nullCharacter_iff :
  t.readText cwd p = .error .nullCharacter ↔ hasNull p = true
  := by
  unfold readText readBytes
  by_cases hnull : hasNull p = true
  · simp [hnull]
  · simp only [hnull]
    cases t.find cwd p with
    | error f => simp
    | ok e =>
      cases e with
      | file content =>
        cases htext : textOf content with
        | error f => simp [htext, Except.mapError]
        | ok text => simp [htext, Except.mapError]
      | directory => simp
      | barred f => simp

/-- The file at a path has the bytes of a text. -/
def Stores (t : FileTree) (cwd : FilePlace) (p : Path) (s : String) : Prop :=
  t.readBytes cwd p = .ok s.toUTF8.toList

/-- A text with its line ends unified. -/
def unified (s : String) : String :=
  String.ofList (unifyNewlines s.toList)

/-- The text of a file that stores a text. -/
theorem Stores.readText_eq {s : String} (h : t.Stores cwd p s) :
  t.readText cwd p = .ok (unified s)
  := by
  have htext : textOf s.toUTF8.toList = .ok (unified s) := by
    rw [textOf, Utf8.decode_toUTF8]
    rfl
  rw [readText, h]
  show (textOf s.toUTF8.toList).mapError ReadFault.encoding = _
  rw [htext]
  rfl

end FileTree

end Diagnostics
