import Diagnostics.Proofs.CodeFrame.Characters
import Diagnostics.Proofs.CodeFrame.Rows

/-!
# Carets

Below each line of a location with a start column there is a row of carets. It has as many carets as the
columns ask for, one when they ask for none, but no caret at all when they ask for less than none
(`CodeFrame.render_carets`).
-/

namespace Diagnostics.CodeFrame

open Decimal Text

variable {o : Options} {l : Location}

/-- A count of zero is drawn as one caret, and one below zero as none. -/
theorem length_caretRun (count : Int) :
  ((caretRun count).length : Int) = if 0 ≤ count then max 1 count else 0
  := by
  simp only [caretRun, List.length_replicate]
  split_ifs <;> omega

theorem caret_notMem_select (code : Nat) :
  '^' ∉ Ansi.select code
  := by
  intro h
  obtain hdigit | hmem := isDigit_or_mem_of_mem_select h
  · contradiction
  · revert hmem
    decide

/-- Painting adds no carets. -/
theorem count_paint (colored : Bool) (s : Style) (cs : List Char) :
  (paint colored s cs).count '^' = cs.count '^'
  := by
  cases colored with
  | false => rfl
  | true =>
    have hcodes : '^' ∉ s.codes.flatMap Ansi.select := by
      rw [List.mem_flatMap]
      rintro ⟨code, -, hcode⟩
      apply caret_notMem_select code hcode
    rw [paint, if_pos rfl, Style.applyChars, List.count_append, List.count_append,
      List.count_eq_zero_of_not_mem hcodes, List.count_eq_zero_of_not_mem (caret_notMem_select 0)]
    omega

theorem caret_notMem_blankGutter (width : Nat) (k : Int) :
  '^' ∉ blankGutter width k
  := by
  intro h
  obtain ⟨c, hc, hcaret⟩ := List.mem_map.mp h
  split at hcaret
  · contradiction
  · subst hcaret
    obtain hblank | hbar | hnumber := eq_or_mem_of_mem_gutter hc
    · contradiction
    · contradiction
    · obtain hdigit | hminus := isDigit_or_eq_of_mem_numeralChars hnumber
      · contradiction
      · contradiction

theorem caret_notMem_filler (line : List Char) (column : Int) :
  '^' ∉ filler line column
  := by
  intro h
  obtain ⟨c, -, hcaret⟩ := List.mem_map.mp h
  split at hcaret
  · contradiction
  · contradiction

/-- The carets of a row are those for its count, and those of the message when it stands behind them. -/
theorem count_caretRow (o : Options) (width : Nat) (k : Int) (line : List Char) (column count : Int)
    (closing : Bool) :
  (caretRow o width k line column count closing).count '^'
    = (caretRun count).length + if closing then o.message.toList.count '^' else 0
  := by
  have hrun : (caretRun count).count '^' = (caretRun count).length := by simp [caretRun]
  have hrest : (if closing && o.message ≠ "" then ' ' :: paint o.colored markerStyle o.message.toList
      else []).count '^' = if closing then o.message.toList.count '^' else 0 := by
    cases closing with
    | false => rfl
    | true =>
      by_cases hempty : o.message = ""
      · simp [hempty]
      · simp [hempty, count_paint]
  rw [caretRow, List.count_append, hrest, List.count_append, count_paint, hrun, List.count_append,
    List.count_cons_of_ne (by decide), List.count_cons_of_ne (by decide), count_paint,
    List.count_eq_zero_of_not_mem (caret_notMem_blankGutter width k),
    List.count_eq_zero_of_not_mem (caret_notMem_filler line column), Nat.zero_add]

/-- Each line of the location that a frame shows has a row of carets below it when the location has a
positive start column, and no other line has one. The carets are as many as the columns ask for: the
difference of the columns on a single line, and else from the start column to the end of the first line, all
of a line between, and up to the end column on the last; an end column that is missing is the start column.
For a count of zero there is one caret, and for one below zero there is none. The message stands behind the
carets of the last line. -/
theorem render_carets (hbelow : 0 ≤ o.below) {source : String} {column : Int}
    (hcolumn : l.start.column = some column) (hpositive : 0 < column)
    (hdraw : isDrawable o source l = true) :
  let lines := splitLines source.toList
  let endColumn := (l.stop.bind Position.column).getD column
  let asked := fun k : Int =>
    if l.lastLine = l.start.line then endColumn - column
    else if k = l.start.line then (lineAt lines k).length - column + 1
    else if k = l.lastLine then endColumn
    else (lineAt lines k).length
  ∃ frame, render? o source l = some frame
    ∧ ∃ carets : Int → List Char,
      frame.toList = join ['\n'] ((shown o l lines.length).flatMap fun k =>
        lineRow o (numberWidth o lines l) k (lineAt lines k) (IsMarked l k)
          :: if IsMarked l k then [carets k] else [])
      ∧ ∀ k, IsMarked l k → ((carets k).count '^' : Int)
        = (if 0 ≤ asked k then max 1 (asked k) else 0)
          + if k = l.lastLine then o.message.toList.count '^' else 0
  := by
  intro lines endColumn asked
  have hstart : startColumn l = column := by rw [startColumn, hcolumn, Option.getD_some]
  have hcarets : HasCarets l := by
    left
    omega
  have hasked : ∀ k, caretCount lines l k = asked k := by
    intro k
    simp only [caretCount, CodeFrame.endColumn, hstart, lineLength_eq, asked, endColumn]
  have hhead : headRow o lines l = [] := by simp [headRow, hcolumn]
  use render o source l
  constructor
  · rw [render?, if_pos hdraw]
  use fun k => caretRow o (numberWidth o lines l) k (lineAt lines k) (caretColumn l k) (caretCount lines l k)
    (k = messageLine l)
  constructor
  · have hrows := rowsWith_markers_eq_flatMap lines l hbelow
    unfold rowsAt at hrows
    simp only [hcarets, and_true] at hrows
    rw [render, String.toList_ofList, renderChars, hhead, ← hrows]
    rfl
  · intro k hmarked
    have hlast : messageLine l = l.lastLine := by
      unfold messageLine IsMarked at *
      rw [if_pos (by omega)]
    rw [count_caretRow, hasked, hlast]
    push_cast
    rw [length_caretRun]
    simp

/-- A location on three lines, from the second column of the first to column zero of the last. -/
def spreadSample : Location :=
  ⟨⟨1, some 2⟩, some ⟨3, some 0⟩⟩

/-- There are two carets below the first line of three characters, and one below each of the others. -/
theorem render_carets_spread :
  spreadSample.start.column = some 2 ∧ isDrawable {} "abc\n\nx" spreadSample = true
    ∧ ∃ frame, render? {} "abc\n\nx" spreadSample = some frame
      ∧ ∃ carets : Int → List Char,
        frame.toList = join ['\n']
          ["> 1 | abc".toList, carets 1, "> 2 |".toList, carets 2, "> 3 | x".toList, carets 3]
        ∧ (carets 1).count '^' = 2 ∧ (carets 2).count '^' = 1 ∧ (carets 3).count '^' = 1
  := by
  have hdraw : isDrawable {} "abc\n\nx" spreadSample = true := by decide
  obtain ⟨frame, hframe, carets, htext, hcount⟩ :=
    render_carets (by decide) (show spreadSample.start.column = some 2 from rfl) (by decide) hdraw
  have hshown : shown {} spreadSample (splitLines "abc\n\nx".toList).length = [1, 2, 3] := by decide
  rw [hshown] at htext
  use rfl, hdraw, frame, hframe, carets
  and_intros
  · rw [htext]
    rfl
  · exact_mod_cast (hcount 1 (by decide)).trans (show _ = (2 : Int) by decide)
  · exact_mod_cast (hcount 2 (by decide)).trans (show _ = (1 : Int) by decide)
  · exact_mod_cast (hcount 3 (by decide)).trans (show _ = (1 : Int) by decide)

/-- A location that ends in front of its start column, one that starts behind the end of its first line, and
one that ends in a column below zero: the row of carets is empty. -/
theorem render_carets_negative :
  render? {} "hello" ⟨⟨1, some 4⟩, some ⟨1, some 2⟩⟩ = some "> 1 | hello\n    |    "
    ∧ render? {} "ab\ncd" ⟨⟨1, some 9⟩, some ⟨2, some 1⟩⟩
      = some "> 1 | ab\n    |   \n> 2 | cd\n    | ^"
    ∧ render? {} "ab\ncd" ⟨⟨1, some 1⟩, some ⟨2, some (-3)⟩⟩
      = some "> 1 | ab\n    | ^^\n> 2 | cd\n    | "
  := by
  decide

end Diagnostics.CodeFrame
