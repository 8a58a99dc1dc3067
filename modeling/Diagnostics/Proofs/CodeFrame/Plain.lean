import Diagnostics.CodeFrame
import Diagnostics.Proofs.Decimal.Numeral

/-!
# Rows in plain text

Without colour a row is a marker, a gutter that has a label at its right, and a text. The label is the
number of the line (`CodeFrame.lineRow_plain`), and nothing in a row of carets
(`CodeFrame.caretRow_plain`).
-/

namespace Diagnostics.CodeFrame

open Decimal

variable {o : Options} {k : Int} {width : Nat}

/-- A marker and a gutter of a width with a label at its right. -/
def labelled (mark : Char) (width : Nat) (label : List Char) : List Char :=
  mark :: ' ' :: (List.replicate (width - label.length) ' ' ++ label ++ [' ', '|'])

/-- A label that fits fills its gutter up. -/
theorem length_labelled (mark : Char) {label : List Char} (h : label.length ≤ width) :
  (labelled mark width label).length = width + 4
  := by
  simp only [labelled, List.length_cons, List.length_append, List.length_replicate, List.length_nil]
  omega

/-- The row of a line is labelled with the number. -/
theorem lineRow_plain (hplain : o.colored = false) (width : Nat) (k : Int) (line : List Char) (marked : Bool) :
  lineRow o width k line marked
    = labelled (if marked then '>' else ' ') width (numeralChars k)
      ++ (if line = [] then [] else ' ' :: line)
  := by
  cases marked <;> simp [lineRow, paint, hplain, gutter, padNumber, labelled]

/-- The gutter of a row of carets is blank up to the bar. -/
theorem blankGutter_eq (width : Nat) (hk : 0 ≤ k) :
  blankGutter width k = ' ' :: List.replicate (max width (numeralChars k).length) ' ' ++ [' ', '|']
  := by
  obtain ⟨n, rfl⟩ := Int.eq_ofNat_of_zero_le hk
  have hblank : (digits n).map (fun c => if c.isDigit then ' ' else c)
      = List.replicate (digits n).length ' ' := by
    rw [List.eq_replicate_iff]
    constructor
    · apply List.length_map
    · intro c hc
      obtain ⟨d, hd, rfl⟩ := List.mem_map.mp hc
      rw [if_pos (isDigit_of_mem_digits hd)]
  have hwidth : max width (digits n).length = width - (digits n).length + (digits n).length := by omega
  simp [blankGutter, gutter, padNumber, hblank, hwidth, ← List.replicate_append_replicate]

/-- A row of carets has a gutter without a label, which is as wide as that of its line. -/
theorem caretRow_plain (hplain : o.colored = false) (hmessage : o.message = "") (width : Nat) (hk : 0 ≤ k)
    (line : List Char) (column count : Int) (closing : Bool) :
  caretRow o width k line column count closing
    = labelled ' ' (max width (numeralChars k).length) [] ++ ' ' :: filler line column ++ caretRun count
  := by
  simp [caretRow, paint, hplain, hmessage, blankGutter_eq width hk, labelled]

end Diagnostics.CodeFrame
