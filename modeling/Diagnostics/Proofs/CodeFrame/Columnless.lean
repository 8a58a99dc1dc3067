import Diagnostics.Proofs.CodeFrame.Alignment
import Diagnostics.Proofs.CodeFrame.Numbering

/-!
# Locations without a start column

The lines of a location without a start column are marked with `>`, but they have no carets, so that the frame
has one row for each line that it shows. The exception is a location on one line whose end has a column: this
line has a row of carets (`CodeFrame.render_columnless`).
-/

namespace Diagnostics.CodeFrame

open Decimal Text

variable {o : Options} {lines : List (List Char)} {l : Location} {k : Int}

/-- The location lies on one line, and its end has a column that is not zero. -/
def IsUnderlined (l : Location) : Prop :=
  l.lastLine = l.start.line ∧ (l.stop.bind Position.column).getD 0 ≠ 0

instance (l : Location) : Decidable (IsUnderlined l) :=
  inferInstanceAs (Decidable (_ ∧ _))

/-- Without a start column there are carets below the one line of an underlined location alone. -/
theorem isMarked_and_hasCarets_iff (hcolumn : l.start.column = none) :
  IsMarked l k ∧ HasCarets l ↔ k = l.start.line ∧ IsUnderlined l
  := by
  have hstart : startColumn l = 0 := by rw [startColumn, hcolumn, Option.getD_none]
  unfold IsMarked HasCarets IsUnderlined
  rw [endColumn, hstart]
  constructor
  · rintro ⟨⟨hfirst, hlast⟩, hcarets⟩
    obtain hne | ⟨hline, hend⟩ := hcarets
    · contradiction
    · exact ⟨by omega, hline, hend⟩
  · rintro ⟨rfl, hline, hend⟩
    exact ⟨⟨Int.le_refl _, by omega⟩, .inr ⟨hline, hend⟩⟩

/-- Of the rows of a line, the one that is not of carets is the line itself. -/
theorem filter_not_isCaretRow_rowsAt (hplain : o.colored = false) (hk : 0 ≤ k) :
  (rowsAt o lines l k).filter (!isCaretRow ·) = [plainRow l (numberWidth o lines l) k (lineAt lines k)]
  := by
  have hline : plainRow l (numberWidth o lines l) k (lineAt lines k)
      = lineRow o (numberWidth o lines l) k (lineAt lines k) (IsMarked l k) := by
    simp [lineRow_plain hplain, plainRow]
  unfold rowsAt
  rw [hline]
  split <;> simp [isCaretRow_lineRow, isCaretRow_caretRow, hplain, hk]

/-- Of the rows of a line, one is of carets exactly when the line has carets. -/
theorem length_filter_isCaretRow_rowsAt (hplain : o.colored = false) (hk : 0 ≤ k) :
  ((rowsAt o lines l k).filter isCaretRow).length = if IsMarked l k ∧ HasCarets l then 1 else 0
  := by
  unfold rowsAt
  split <;> simp [isCaretRow_lineRow, isCaretRow_caretRow, hplain, hk]

/-- The rows of lines have as many rows of carets as there are lines with carets. -/
theorem length_filter_isCaretRow_flatMap (hplain : o.colored = false) {numbers : List Int}
    (hnumbers : ∀ k ∈ numbers, 0 ≤ k) :
  ((numbers.flatMap (rowsAt o lines l)).filter isCaretRow).length
    = numbers.countP fun k => IsMarked l k ∧ HasCarets l
  := by
  induction numbers with
  | nil => rfl
  | cons k numbers ih =>
    rw [List.forall_mem_cons] at hnumbers
    obtain ⟨hk, hnumbers⟩ := hnumbers
    rw [List.flatMap_cons, List.filter_append, List.length_append, ih hnumbers, List.countP_cons,
      length_filter_isCaretRow_rowsAt hplain hk, Nat.add_comm]
    simp

/-- Without rows of carets, the rows that are none of carets are all rows. -/
theorem eq_filter_not_of_length_filter {α : Type} {p : α → Bool} {xs : List α} (h : (xs.filter p).length = 0) :
  xs = xs.filter (!p ·)
  := by
  rw [List.length_eq_zero_iff, List.filter_eq_nil_iff] at h
  symm
  rw [List.filter_eq_self]
  intro x hx
  simp [h x hx]

/-- The frame of a location without a start column has one row for each line that it shows, with `>` in front
of the lines of the location, and below it no row of carets, unless the location lies on one line and has an
end column that is not zero: then there is one row of carets, when this line is shown. A message stands above
the frame. -/
theorem render_columnless (hplain : o.colored = false) (hbelow : 0 ≤ o.below)
    (hcolumn : l.start.column = none) {source : String} (hdraw : isDrawable o source l = true) :
  let lines := splitLines source.toList
  let width := numberWidth o lines l
  let numbers := shown o l lines.length
  let lineRows := numbers.map fun k => plainRow l width k (lineAt lines k)
  ∃ frame rows, render? o source l = some frame
    ∧ frame.toList
      = (if o.message = "" then [] else List.replicate (width + 1) ' ' ++ o.message.toList ++ ['\n'])
        ++ join ['\n'] rows
    ∧ (o.message = "" → rowsOf frame.toList = rows)
    ∧ (¬ IsUnderlined l → rows = lineRows)
    ∧ rows.filter (!isCaretRow ·) = lineRows
    ∧ (rows.filter isCaretRow).length = if IsUnderlined l ∧ l.start.line ∈ numbers then 1 else 0
  := by
  intro lines width numbers lineRows
  have hrows := rowsWith_markers_eq_flatMap lines l hbelow
  have hnumbers : ∀ k ∈ numbers, 0 ≤ k := by
    intro k hk
    obtain ⟨hfirst, -⟩ := mem_interval.mp hk
    unfold firstShown at hfirst
    omega
  have hlines : (rowsWith o lines l (markers o lines l)).filter (!isCaretRow ·) = lineRows := by
    rw [hrows, List.filter_flatMap]
    simp only [lineRows, List.map_eq_flatMap]
    apply List.flatMap_congr
    intro k hk
    apply filter_not_isCaretRow_rowsAt hplain (hnumbers k hk)
  have hcarets : ((rowsWith o lines l (markers o lines l)).filter isCaretRow).length
      = if IsUnderlined l ∧ l.start.line ∈ numbers then 1 else 0 := by
    rw [hrows, length_filter_isCaretRow_flatMap hplain hnumbers]
    simp only [isMarked_and_hasCarets_iff hcolumn]
    by_cases hunderlined : IsUnderlined l
    · have hnodup : numbers.Nodup := nodup_interval _ _
      simp only [hunderlined, and_true, true_and]
      exact hnodup.count
    · simp [hunderlined]
  use render o source l, rowsWith o lines l (markers o lines l)
  and_intros
  · rw [render?, if_pos hdraw]
  · rw [render, String.toList_ofList, renderChars, headRow, hcolumn]
    by_cases hmessage : o.message = ""
    · simp [hmessage, lines]
    · simp [hmessage, lines, width]
  · intro hmessage
    apply rowsOf_render hmessage
  · intro hnot
    rw [← hlines]
    apply eq_filter_not_of_length_filter
    simp [hcarets, hnot]
  · exact hlines
  · exact hcarets

/-- A location over two lines of which only the end has a column: its frame has no carets. -/
theorem render_columnless_spread :
  isDrawable {} "ab\n\ncd" ⟨⟨1, none⟩, some ⟨2, some 4⟩⟩ = true
    ∧ ∃ frame, render? {} "ab\n\ncd" ⟨⟨1, none⟩, some ⟨2, some 4⟩⟩ = some frame
      ∧ rowsOf frame.toList = ["> 1 | ab".toList, "> 2 |".toList, "  3 | cd".toList]
  := by
  have hdraw : isDrawable {} "ab\n\ncd" ⟨⟨1, none⟩, some ⟨2, some 4⟩⟩ = true := by decide
  obtain ⟨frame, rows, hframe, -, hrows, hlines, -, -⟩ := render_columnless rfl (by decide) rfl hdraw
  use hdraw, frame, hframe
  rw [hrows rfl, hlines (by decide)]
  decide

/-- A location on one line of which only the end has a column: there is a row of carets from the start of the
line on. -/
theorem render_columnless_underlined :
  render? {} "hello" ⟨⟨1, none⟩, some ⟨1, some 5⟩⟩ = some "> 1 | hello\n    | ^^^^^"
  := by
  decide

end Diagnostics.CodeFrame
