import Diagnostics.Proofs.CodeFrame.Characters
import Diagnostics.Proofs.CodeFrame.Plain
import Diagnostics.Proofs.CodeFrame.Rows

/-!
# Alignment

All rows of a plain frame have a gutter of the same width, the marker `>` stands in front of the lines of
the location, and the carets under a line stand under the marked characters, however wide tabs are
(`CodeFrame.render_lines_up`). The last holds since what stands in front of the carets has tabs in the same
places as what stands in front of the marked character (`CodeFrame.columnBehind_congr`).
-/

namespace Diagnostics.CodeFrame

open Decimal Text

/-! ### Display columns -/

/-- The column behind a character that is shown in a column, with tab stops that are `tab` columns apart. -/
def advance (tab column : Nat) (c : Char) : Nat :=
  if c = '\t' then column + (tab - column % tab) else column + 1

/-- The column behind a text that starts a row. -/
def columnBehind (tab : Nat) (cs : List Char) : Nat :=
  cs.foldl (advance tab) 0

/-- Texts with tabs in the same places end in the same column. -/
theorem columnBehind_congr {cs ds : List Char} (h : cs.map (· == '\t') = ds.map (· == '\t')) (tab : Nat) :
  columnBehind tab cs = columnBehind tab ds
  := by
  have hstep : ∀ cs : List Char, columnBehind tab cs
      = (cs.map (· == '\t')).foldl (fun n isTab => if isTab then n + (tab - n % tab) else n + 1) 0 := by
    intro cs
    simp only [columnBehind, List.foldl_map, beq_iff_eq]
    rfl
  rw [hstep, hstep, h]

/-- A gutter that a label without tabs fits into has no tabs, whatever the label is. -/
theorem map_labelled {mark : Char} {width : Nat} {label : List Char} (hmark : mark ≠ '\t')
    (hlabel : '\t' ∉ label) (hfits : label.length ≤ width) :
  (labelled mark width label).map (· == '\t') = List.replicate (width + 4) false
  := by
  rw [List.eq_replicate_iff, List.length_map, length_labelled mark hfits]
  constructor
  · rfl
  · intro b hb
    obtain ⟨c, hc, rfl⟩ := List.mem_map.mp hb
    simp only [labelled, List.mem_cons, List.mem_append, List.mem_replicate, List.not_mem_nil, or_false] at hc
    rw [beq_eq_false_iff_ne]
    obtain rfl | rfl | (⟨-, rfl⟩ | hmem) | rfl | rfl := hc
    · exact hmark
    · decide
    · decide
    · rintro rfl
      contradiction
    · decide
    · decide

/-! ### Fillers -/

/-- The filler fills a row up to a column under a line, or up to the end of a shorter line: with a tab under
each tab and a blank under anything else. -/
structure FillsUpTo (column : Nat) (text filler : List Char) : Prop where
  length : filler.length = min (column - 1) text.length
  tab : ∀ i, i < filler.length → (filler[i]? = some '\t' ↔ text[i]? = some '\t')
  blank : ∀ c ∈ filler, c ≠ '\t' → c = ' '

/-- The column of the first caret under a line of the location: the start column on the first line, where
one that is missing or not positive counts as one, and one on all other lines. -/
def firstColumn (l : Location) (k : Int) : Nat :=
  if k = l.start.line then max 1 (l.start.column.getD 1).toNat else 1

/-- The filler under a line takes as many characters as there are in front of the first caret. -/
theorem filler_eq (l : Location) (k : Int) (line : List Char) :
  filler line (caretColumn l k)
    = (line.take (firstColumn l k - 1)).map fun c => if c = '\t' then '\t' else ' '
  := by
  have hcolumn : (caretColumn l k - 1).toNat = firstColumn l k - 1 := by
    unfold caretColumn startColumn firstColumn
    split
    · cases l.start.column with
      | none => rfl
      | some column =>
        simp only [Option.getD_some]
        omega
    · rfl
  rw [filler, hcolumn]

/-- The filler under a line fills it up to the first caret. -/
theorem fillsUpTo_filler (l : Location) (k : Int) (text : List Char) :
  FillsUpTo (firstColumn l k) text (filler text (caretColumn l k))
  := by
  rw [filler_eq]
  constructor
  · rw [List.length_map, List.length_take]
  · intro i hi
    rw [List.length_map, List.length_take] at hi
    rw [List.getElem?_map, List.getElem?_take_of_lt (by omega)]
    cases text[i]? with
    | none => simp
    | some c => by_cases hc : c = '\t' <;> simp [hc]
  · intro c hc hne
    obtain ⟨d, -, rfl⟩ := List.mem_map.mp hc
    split at hne
    · contradiction
    · next hd => rw [if_neg hd]

/-- The filler has tabs where the line has some in front of the first caret. -/
theorem map_filler (l : Location) (k : Int) (line : List Char) :
  (filler line (caretColumn l k)).map (· == '\t') = (line.take (firstColumn l k - 1)).map (· == '\t')
  := by
  rw [filler_eq, List.map_map]
  apply List.map_congr_left
  intro c _
  by_cases hc : c = '\t' <;> simp [hc]

/-! ### Frames -/

/-- The row of a line in plain text, with `>` in front of the lines of the location. -/
def plainRow (l : Location) (width : Nat) (k : Int) (line : List Char) : List Char :=
  labelled (if IsMarked l k then '>' else ' ') width (numeralChars k)
    ++ (if line = [] then [] else ' ' :: line)

/-- A row of carets in plain text. -/
def plainCarets (width : Nat) (filler : List Char) (count : Nat) : List Char :=
  labelled ' ' width [] ++ ' ' :: filler ++ List.replicate count '^'

/-- In front of the carets under a line stands as much as in front of the marked character. -/
theorem columnBehind_filler (l : Location) {k : Int} {width : Nat} (hfits : (numeralChars k).length ≤ width)
    (line : List Char) (tab : Nat) :
  columnBehind tab (labelled ' ' width [] ++ ' ' :: filler line (caretColumn l k))
    = columnBehind tab (labelled '>' width (numeralChars k) ++ ' ' :: line.take (firstColumn l k - 1))
  := by
  have hlabel : '\t' ∉ numeralChars k := by
    intro hmem
    obtain hdigit | hminus := isDigit_or_eq_of_mem_numeralChars hmem
    · contradiction
    · contradiction
  apply columnBehind_congr
  rw [List.map_append, List.map_append, map_labelled (by decide) (by simp) (by simp),
    map_labelled (by decide) hlabel hfits, List.map_cons, List.map_cons, map_filler]

/-- The numbers up to a last one are no wider than this one. -/
theorem length_numeralChars_le {k last : Int} (hk : 0 ≤ k) (hlast : k ≤ last) :
  (numeralChars k).length ≤ (numeralChars last).length
  := by
  obtain ⟨m, rfl⟩ := Int.eq_ofNat_of_zero_le hk
  obtain ⟨n, rfl⟩ := Int.eq_ofNat_of_zero_le (Int.le_trans hk hlast)
  rw [numeralChars_natCast, numeralChars_natCast]
  apply length_digits_le
  omega

variable {o : Options} {l : Location}

/-- The rows of a plain frame, when all numbers that are shown fit into the gutter. -/
theorem rowsWith_plain (hplain : o.colored = false) (hmessage : o.message = "") (hbelow : 0 ≤ o.below)
    {lines : List (List Char)}
    (hfits : ∀ k ∈ shown o l lines.length, 0 ≤ k ∧ (numeralChars k).length ≤ numberWidth o lines l) :
  rowsWith o lines l (markers o lines l)
    = (shown o l lines.length).flatMap fun k =>
      plainRow l (numberWidth o lines l) k (lineAt lines k)
        :: if IsMarked l k ∧ HasCarets l then
          [plainCarets (numberWidth o lines l) (filler (lineAt lines k) (caretColumn l k))
            (caretRun (caretCount lines l k)).length]
          else []
  := by
  rw [rowsWith_markers_eq_flatMap lines l hbelow]
  apply List.flatMap_congr
  intro k hk
  obtain ⟨hpositive, hwidth⟩ := hfits k hk
  rw [rowsAt, lineRow_plain hplain, caretRow_plain hplain hmessage _ hpositive, Nat.max_eq_left hwidth]
  simp [plainRow, plainCarets, caretRun]

/-- The rows of a plain frame line up, for a location whose window does not end in front of the source. The
numbers of the lines stand at the right of a gutter that is as wide as the last of them; `>` stands in front
of the lines of the location, and only below these are there carets. They follow a gutter of the same width,
the blank in front of the text and a filler up to the first marked column, or up to the end of the line, and
so they start in the display column of the first marked character, wherever the tab stops are. -/
theorem render_lines_up (hplain : o.colored = false) (hmessage : o.message = "") (hbelow : 0 ≤ o.below)
    {source : String} (hend : 0 ≤ l.lastLine + o.below) (hdraw : isDrawable o source l = true) :
  let lines := splitLines source.toList
  let last := min (lines.length : Int) (l.lastLine + o.below)
  let numbers := interval (max (l.start.line - o.above) 1) last
  let width := (numeralChars last).length
  ∃ frame, render? o source l = some frame
    ∧ ∃ (filler : Int → List Char) (count : Int → Nat),
      rowsOf frame.toList = (numbers.flatMap fun k =>
        plainRow l width k (lineAt lines k)
          :: if IsMarked l k ∧ HasCarets l then [plainCarets width (filler k) (count k)] else [])
      ∧ ∀ k ∈ numbers, (numeralChars k).length ≤ width
        ∧ FillsUpTo (firstColumn l k) (lineAt lines k) (filler k)
        ∧ ∀ tab, columnBehind tab (labelled ' ' width [] ++ ' ' :: filler k)
          = columnBehind tab (labelled '>' width (numeralChars k)
            ++ ' ' :: (lineAt lines k).take (firstColumn l k - 1))
  := by
  intro lines last numbers width
  have hnumbers : shown o l lines.length = numbers := by
    simp only [numbers, shown, lastShown, firstShown, last, if_pos hend]
  have hfits : ∀ k ∈ numbers, 0 ≤ k ∧ (numeralChars k).length ≤ width := by
    intro k hk
    rw [mem_interval] at hk
    have hpositive : 0 ≤ k := by omega
    use hpositive, length_numeralChars_le hpositive hk.2
  have hwidths : ∀ k ∈ shown o l lines.length,
      0 ≤ k ∧ (numeralChars k).length ≤ numberWidth o lines l := by
    rwa [hnumbers]
  have hrows := rowsWith_plain hplain hmessage hbelow hwidths
  rw [hnumbers] at hrows
  use render o source l
  constructor
  · rw [render?, if_pos hdraw]
  use fun k => filler (lineAt lines k) (caretColumn l k), fun k => (caretRun (caretCount lines l k)).length
  constructor
  · rw [rowsOf_render hmessage]
    apply hrows
  · intro k hk
    obtain ⟨-, hwidth⟩ := hfits k hk
    use hwidth, fillsUpTo_filler l k (lineAt lines k)
    intro tab
    apply columnBehind_filler l hwidth

/-- A location that starts behind a tab and ends on an empty line. -/
def tabbedSample : Location :=
  ⟨⟨2, some 3⟩, some ⟨3, some 1⟩⟩

/-- The rows of its frame line up: the carets under the second line start below the character behind the
tab and the letter. -/
theorem render_lines_up_tabbed :
  0 ≤ tabbedSample.lastLine + 3 ∧ isDrawable {} "a\n\tbc\n\nd" tabbedSample = true
    ∧ ∃ frame, render? {} "a\n\tbc\n\nd" tabbedSample = some frame
      ∧ ∃ (filler : Int → List Char) (count : Int → Nat),
        rowsOf frame.toList
          = ["  1 | a".toList, "> 2 | \tbc".toList, plainCarets 1 (filler 2) (count 2),
            "> 3 |".toList, plainCarets 1 (filler 3) (count 3), "  4 | d".toList]
        ∧ FillsUpTo 3 "\tbc".toList (filler 2)
        ∧ ∀ tab, columnBehind tab (labelled ' ' 1 [] ++ ' ' :: filler 2)
          = columnBehind tab "> 2 | \tb".toList
  := by
  have hdraw : isDrawable {} "a\n\tbc\n\nd" tabbedSample = true := by decide
  obtain ⟨frame, hframe, filler, count, hrows, hfill⟩ := render_lines_up rfl rfl (by decide) (by decide) hdraw
  have hnumbers : interval (max (tabbedSample.start.line - 2) 1)
      (min ((splitLines "a\n\tbc\n\nd".toList).length : Int) (tabbedSample.lastLine + 3)) = [1, 2, 3, 4] := by
    decide
  obtain ⟨-, hfiller, hcolumns⟩ := hfill 2 (by rw [hnumbers]; decide)
  rw [hnumbers] at hrows
  use by decide, hdraw, frame, hframe, filler, count
  and_intros
  · rw [hrows]
    rfl
  · exact hfiller
  · exact hcolumns

end Diagnostics.CodeFrame
