import Diagnostics.Proofs.Ansi.Sequences

/-!
# Control sequences and lines

A line end is no part of a control sequence, so lines can be stripped one by one or all together
(`Ansi.Remover.strip_join_lines`).
-/

namespace Diagnostics.Ansi.Remover

variable (r : Remover)

/-- A text without the escape character is left alone. -/
theorem strip_of_notMem {text : String} (h : esc ∉ text.toList) :
  r.strip text = text
  := by
  rw [strip, r.removes.eq_of_notMem h, String.ofList_toList]

/-- A text is stripped line by line. -/
theorem strip_append_lineEnd (text rest : String) :
  r.strip (text ++ "\n" ++ rest) = r.strip text ++ "\n" ++ r.strip rest
  := by
  have hchars : (text ++ "\n" ++ rest).toList = text.toList ++ '\n' :: rest.toList := by simp
  rw [← String.toList_inj, strip, hchars, r.removes.lineEnd]
  simp [strip]

/-- Stripping lines together is stripping each of them. -/
theorem strip_join_lines (texts : List String) :
  r.strip (String.join (texts.map (· ++ "\n"))) = String.join (texts.map (r.strip · ++ "\n"))
  := by
  induction texts with
  | nil => apply r.strip_of_notMem (by decide)
  | cons text texts ih =>
    simp only [List.map_cons, String.join_cons]
    rw [strip_append_lineEnd, ih]

end Diagnostics.Ansi.Remover
