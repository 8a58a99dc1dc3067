import Diagnostics.Files.Path
import Diagnostics.Text.Quoted
import Diagnostics.Text.Utf8

/-!
# File faults

Why a file cannot be opened or read as text. `OsFault.message` words a fault of the
operating system with its number and the path.
-/

namespace Diagnostics

open Text

/-- A fault of the operating system on opening a file. -/
inductive OsFault
  /-- There is no such file or directory. -/
  | notFound
  /-- A part of the path that is followed by another is not a directory. -/
  | notADirectory
  /-- The path names a directory where a file is wanted. -/
  | isADirectory
  /-- Access is denied. -/
  | denied
  /-- The operation is not permitted. -/
  | notPermitted
  /-- A name or the whole path is too long. -/
  | nameTooLong
  /-- Another fault, with its number and its wording. -/
  | other (number : Nat) (wording : String)
deriving DecidableEq, Repr

namespace OsFault

/-- The number of a fault. -/
def number : OsFault → Nat
  | .notPermitted => 1
  | .notFound => 2
  | .denied => 13
  | .notADirectory => 20
  | .isADirectory => 21
  | .nameTooLong => 36
  | .other n _ => n

/-- The wording of a fault. -/
def wording : OsFault → String
  | .notPermitted => "Operation not permitted"
  | .notFound => "No such file or directory"
  | .denied => "Permission denied"
  | .notADirectory => "Not a directory"
  | .isADirectory => "Is a directory"
  | .nameTooLong => "File name too long"
  | .other _ wording => wording

/-- The fault with a number. -/
def ofNumber (n : Nat) : OsFault :=
  ([notPermitted, notFound, denied, notADirectory, isADirectory, nameTooLong].find? fun f =>
    f.number = n).getD (.other n ("Unknown error " ++ toString n))

/-- The fault with its number, its wording and the path it concerns. -/
def message (f : OsFault) (p : Path) : String :=
  "[Errno " ++ toString f.number ++ "] " ++ f.wording ++ ": " ++ quoted p.text

/-- The fault says that nothing usable stands at the path. -/
def isMissing : OsFault → Bool
  | .notFound | .notADirectory | .isADirectory => true
  | _ => false

/-- The fault says that access is refused. -/
def isDenied : OsFault → Bool
  | .denied | .notPermitted => true
  | _ => false

end OsFault

/-- Why a text file cannot be read. -/
inductive ReadFault
  /-- The path holds the null character, which no file name may. -/
  | nullCharacter
  /-- The operating system refuses. -/
  | os (f : OsFault)
  /-- The bytes are not UTF-8. -/
  | encoding (f : Utf8.Fault)
deriving DecidableEq, Repr

end Diagnostics
