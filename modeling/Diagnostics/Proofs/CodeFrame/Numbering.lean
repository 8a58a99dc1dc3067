import Diagnostics.Proofs.CodeFrame.Characters
import Diagnostics.Proofs.CodeFrame.Plain
import Diagnostics.Proofs.CodeFrame.Rows
import Mathlib.Data.List.TakeDrop

/-!
# The lines of a frame

`CodeFrame.readRow?` reads the number and the text off a row of a frame, and `CodeFrame.isCaretRow`
tells rows of carets, which have no number. What the other rows show, one after the other, are the
lines of the window with their numbers (`CodeFrame.render_shows_window`). That is the window around the
location, unless the window ends in front of the source.
-/

namespace Diagnostics.CodeFrame

open Decimal Text

/-- The row is one of carets: it is blank up to the bar of its gutter. -/
def isCaretRow (row : List Char) : Bool :=
  (row.dropWhile (· = ' ')).head? = some '|'

/-- The number and the text that a row shows. Behind the marker stand blanks, the digits of the number,
a blank and a bar, and then the text behind one blank more, or nothing for an empty line. -/
def readRow? : List Char → Option (Int × List Char)
  | _ :: ' ' :: row =>
    let (number, rest) := (row.dropWhile (· = ' ')).span Char.isDigit
    if number = [] then none
    else
      match rest with
      | [' ', '|'] => some (Nat.ofDigitChars 10 number 0, [])
      | ' ' :: '|' :: ' ' :: c :: text => some (Nat.ofDigitChars 10 number 0, c :: text)
      | _ => none
  | _ => none

variable {o : Options} {l : Location} {k : Int} {width : Nat} {line : List Char}

/-- A numeral starts with neither a blank nor a bar. -/
theorem exists_digits_eq_cons_ne (n : Nat) :
  ∃ c cs, digits n = c :: cs ∧ c ≠ ' ' ∧ c ≠ '|'
  := by
  obtain ⟨c, cs, hdigits, hc⟩ := exists_digits_eq_cons n
  use c, cs, hdigits
  constructor
  · rintro rfl
    contradiction
  · rintro rfl
    contradiction

/-- The blanks of a gutter are told from the digits behind them. -/
theorem dropWhile_gutter (fill n : Nat) (rest : List Char) :
  (List.replicate fill ' ' ++ (digits n ++ rest)).dropWhile (· = ' ') = digits n ++ rest
  := by
  obtain ⟨c, cs, hdigits, hblank, -⟩ := exists_digits_eq_cons_ne n
  rw [List.dropWhile_append_of_pos (by simp), hdigits]
  simp [hblank]

/-- The row of a line shows the number and the line. -/
theorem readRow?_lineRow (hplain : o.colored = false) (hk : 0 ≤ k) (marked : Bool) :
  readRow? (lineRow o width k line marked) = some (k, line)
  := by
  obtain ⟨n, rfl⟩ := Int.eq_ofNat_of_zero_le hk
  have hdigit : ∀ d ∈ digits n, d.isDigit = true := fun _ => isDigit_of_mem_digits
  have hsome : digits n ≠ [] := Nat.toDigits_ne_nil
  have hvalue : Nat.ofDigitChars 10 (digits n) 0 = n := Nat.ofDigitChars_ten_toDigits
  rw [lineRow_plain hplain, labelled, List.cons_append, List.cons_append, readRow?, List.append_assoc,
    List.append_assoc, numeralChars_natCast, dropWhile_gutter, List.span_eq_takeWhile_dropWhile,
    List.takeWhile_append_of_pos hdigit, List.dropWhile_append_of_pos hdigit]
  cases line with
  | nil => simp [hsome, hvalue]
  | cons c line => simp [hsome, hvalue]

/-- The row of a line is not one of carets. -/
theorem isCaretRow_lineRow (hplain : o.colored = false) (hk : 0 ≤ k) (marked : Bool) :
  isCaretRow (lineRow o width k line marked) = false
  := by
  obtain ⟨n, rfl⟩ := Int.eq_ofNat_of_zero_le hk
  obtain ⟨c, cs, hdigits, hblank, hbar⟩ := exists_digits_eq_cons_ne n
  rw [isCaretRow, lineRow_plain hplain]
  cases marked <;> simp [labelled, hdigits, hblank, hbar]

/-- A row of carets is one, whatever message stands behind them. -/
theorem isCaretRow_caretRow (hplain : o.colored = false) (hk : 0 ≤ k) (column count : Int) (closing : Bool) :
  isCaretRow (caretRow o width k line column count closing) = true
  := by
  simp [isCaretRow, caretRow, paint, hplain, blankGutter_eq width hk]

/-- Whatever the markers are, the rows of a line show the line once. -/
theorem map_filter_rowsOfLine (hplain : o.colored = false) (marks : List (Int × Marker)) (hk : 0 ≤ k) :
  ((rowsOfLine o width l marks k line).filter (!isCaretRow ·)).map readRow? = [some (k, line)]
  := by
  unfold rowsOfLine
  split <;> simp [readRow?_lineRow, isCaretRow_lineRow, isCaretRow_caretRow, hplain, hk]

/-- The rows of a frame show the lines of the window with their numbers. -/
theorem map_filter_rowsWith (hplain : o.colored = false) (lines : List (List Char)) (l : Location)
    (marks : List (Int × Marker)) :
  ((rowsWith o lines l marks).filter (!isCaretRow ·)).map readRow?
    = (shown o l lines.length).map fun k => some (k, lineAt lines k)
  := by
  rw [rowsWith_eq_flatMap, List.filter_flatMap, List.map_flatMap, List.map_eq_flatMap]
  apply List.flatMap_congr
  intro k hk
  rw [shown, mem_interval] at hk
  apply map_filter_rowsOfLine hplain marks
  unfold firstShown at hk
  omega

/-- The rows of a plain frame, those of carets left out, are one for each number of the window in increasing
order, and each carries its number and the line with this number. The window reaches from `o.above` lines
above the start to `o.below` lines below the end, as far as there are such lines; a window that ends in
front of the first line ends as many lines before the last one instead. Without any number in the window
the frame is empty. -/
theorem render_shows_window (hplain : o.colored = false) (hmessage : o.message = "") {source : String}
    {l : Location} (hdraw : isDrawable o source l = true) :
  let lines := splitLines source.toList
  let low := max (l.start.line - o.above) 1
  let high := l.lastLine + o.below
  let numbers := if 0 ≤ high then interval low (min lines.length high) else interval low (lines.length + high)
  ∃ frame, render? o source l = some frame
    ∧ ((rowsOf frame.toList).filter (!isCaretRow ·)).map readRow?
      = numbers.map (fun k => some (k, lineAt lines k))
    ∧ (frame = "" ↔ numbers = [])
  := by
  intro lines low high numbers
  have hnumbers : shown o l lines.length = numbers := by
    simp only [numbers, shown, lastShown, firstShown, low, high]
    split_ifs <;> rfl
  have hread := map_filter_rowsWith hplain lines l (markers o lines l)
  rw [← rowsOf_render hmessage, hnumbers] at hread
  use render o source l
  and_intros
  · rw [render?, if_pos hdraw]
  · apply hread
  · constructor
    · intro hempty
      have hnil : rowsOf "".toList = [] := rfl
      rw [hempty, hnil] at hread
      apply List.map_eq_nil_iff.mp hread.symm
    · intro hnone
      have hnil : rowsWith o lines l (markers o lines l) = [] := by
        rw [rowsWith_eq_flatMap, hnumbers, hnone, List.flatMap_nil]
      rw [render, renderChars_eq_join hmessage, hnil]
      rfl

/-- Of a location that ends before it starts, the lines of the window are shown: here the second and the
third of four lines that end in different ways. -/
theorem render_shows_window_reversed :
  isDrawable {} "a\r\n\tb\n\u2028d" ⟨⟨4, some 1⟩, some ⟨0, none⟩⟩ = true
    ∧ ∃ frame, render? {} "a\r\n\tb\n\u2028d" ⟨⟨4, some 1⟩, some ⟨0, none⟩⟩ = some frame
      ∧ ((rowsOf frame.toList).filter (!isCaretRow ·)).map readRow? = [some (2, ['\t', 'b']), some (3, [])]
  := by
  have hdraw : isDrawable {} "a\r\n\tb\n\u2028d" ⟨⟨4, some 1⟩, some ⟨0, none⟩⟩ = true := by decide
  obtain ⟨frame, hframe, hrows, -⟩ := render_shows_window rfl rfl hdraw
  use hdraw, frame, hframe
  rw [hrows]
  decide

/-- A location that ends four lines in front of the source: no line lies in the window, and the first two
of three lines are shown. -/
theorem render_shows_window_negative :
  interval (max (1 - 2) 1) (min 3 (-4 + 3)) = []
    ∧ render? {} "a\nb\nc" ⟨⟨1, none⟩, some ⟨-4, none⟩⟩ = some "   1 | a\n   2 | b"
  := by
  decide

end Diagnostics.CodeFrame
