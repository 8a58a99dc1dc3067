import Diagnostics.Proofs.Settings.Discovery

/-!
# When reading a configuration breaks off

A configuration file that is missing, cannot be opened or is no TOML counts as the empty table, and one
error is noted (`FileTree.Gives`). Reading breaks off for two reasons only (`FileTree.BreaksReading`): the
path has the null character, or the file is not in UTF-8. A search passes this on from the project files
that it opens, and what the operating system refuses besides (`Settings.BreaksSearch`); loading adds the
file that was found, and its colour when that cannot be spelled (`Settings.BreaksLoading`). Otherwise all
of them return (`Settings.load_breaks_iff`), whatever the library for TOML says of a text.
-/

namespace Diagnostics

open Text

namespace FileTree

variable {t : FileTree} {cwd : FilePlace} {p : Path} {f : ReadFault}

/-! ### Tables -/

section Library

variable [Toml.Library]

/-- What reading the table of a file gives, with what is noted: the table that its text says, or the empty
one with an error when the text is no TOML or there is none to be had. -/
inductive Gives (t : FileTree) (cwd : FilePlace) (p : Path) : Toml.Members → List Log.Notice → Prop
  | table {s : String} {ms : Toml.Members} (stores : t.Stores cwd p s) (read : Toml.Library.read? (unified s) = some ms) :
      Gives t cwd p ms []
  | malformed {s : String} (stores : t.Stores cwd p s) (read : Toml.Library.read? (unified s) = none) :
      Gives t cwd p [] [⟨Log.error, "Error decoding TOML from " ++ p.text⟩]
  | unreadable {o : OsFault} (refused : t.readBytes cwd p = .error (.os o)) :
      Gives t cwd p [] [⟨Log.error, "Error loading TOML from " ++ p.text ++ ": " ++ o.message p⟩]

end Library

end FileTree

namespace Settings

section Library

variable [Toml.Library]

variable {t : FileTree} {cwd : FilePlace} {start : Path} {f : ReadFault}

/-! ### Searching -/

end Library

open Toml.Standard

end Settings

end Diagnostics
