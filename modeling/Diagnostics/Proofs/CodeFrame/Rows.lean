import Diagnostics.CodeFrame
import Diagnostics.Proofs.Pairs

/-!
# The rows of a frame

A frame shows the lines from `firstShown` to `lastShown`. The list of markers is cut off at the window,
but it has the marker of each line that is shown (`CodeFrame.lookup_markers`), and the kinds of markers
come down to one column and one count for each line (`CodeFrame.markerAt_eq`). So each line that is shown
gives a row of its own, with a row of carets below it when it is marked and the location has carets
(`CodeFrame.rowsWith_markers_eq_flatMap`).
-/

namespace Diagnostics.CodeFrame

open Decimal Text

variable {o : Options} {lines : List (List Char)} {l : Location} {low high k : Int}

/-! ### Intervals -/

theorem mem_interval :
  k ∈ interval low high ↔ low ≤ k ∧ k ≤ high
  := by
  simp only [interval, List.mem_map, List.mem_range]
  constructor
  · rintro ⟨i, hi, rfl⟩
    omega
  · intro h
    use (k - low).toNat
    omega

theorem interval_of_lt (h : high < low) :
  interval low high = []
  := by
  have hnone : (high + 1 - low).toNat = 0 := by omega
  rw [interval, hnone, List.range_zero, List.map_nil]

theorem interval_of_le (h : low ≤ high) :
  interval low high = low :: interval (low + 1) high
  := by
  have hsome : (high + 1 - low).toNat = (high + 1 - (low + 1)).toNat + 1 := by omega
  rw [interval, hsome, List.range_succ_eq_map, List.map_cons, List.map_map, interval]
  congr 1
  · simp
  · apply List.map_congr_left
    intro i _
    simp only [Function.comp_apply]
    omega

/-- An interval goes up to each of its numbers and on from there. -/
theorem interval_eq_append_cons (hlow : low ≤ k) (hhigh : k ≤ high) :
  interval low high = interval low (k - 1) ++ k :: interval (k + 1) high
  := by
  -- By induction on how many numbers stand in front.
  induction hcount : (k - low).toNat generalizing low with
  | zero =>
    obtain rfl : low = k := by omega
    rw [interval_of_lt (show low - 1 < low by omega), List.nil_append, interval_of_le hhigh]
  | succ count ih =>
    rw [interval_of_le (by omega), ih (by omega) (by omega), interval_of_le (show low ≤ k - 1 by omega),
      List.cons_append]

theorem nodup_interval (low high : Int) :
  (interval low high).Nodup
  := by
  apply List.Nodup.map _ List.nodup_range
  intro i j hij
  have hsum : low + (i : Int) = low + (j : Int) := hij
  omega

theorem length_interval (low high : Int) :
  (interval low high).length = (high + 1 - low).toNat
  := by
  rw [interval, List.length_map, List.length_range]

/-- A list that pairs the numbers of an interval with values has the value of each number. -/
theorem lookup_map_interval {α : Type} (f : Int → α) (low high k : Int) :
  ((interval low high).map fun number => (number, f number)).lookup k
    = if low ≤ k ∧ k ≤ high then some (f k) else none
  := by
  split
  · next hmem => rw [List.lookup_graph f (mem_interval.mpr hmem)]
  · next hnot =>
    rw [List.lookup_eq_none_iff]
    intro pair hpair
    obtain ⟨number, hnumber, rfl⟩ := List.mem_map.mp hpair
    rw [mem_interval] at hnumber
    simp only [bne_iff_ne]
    rintro rfl
    contradiction

/-! ### The lines that are shown -/

/-- The line with a number, empty outside of the source. -/
def lineAt (lines : List (List Char)) (k : Int) : List Char :=
  if k < 1 then [] else (lines[(k - 1).toNat]?).getD []

theorem lineLength_eq (lines : List (List Char)) (k : Int) :
  lineLength lines k = (lineAt lines k).length
  := by
  unfold lineLength lineAt
  split
  · rfl
  · cases lines[(k - 1).toNat]? <;> rfl

/-- The number of the first line that a frame shows. -/
def firstShown (o : Options) (l : Location) : Int :=
  max (l.start.line - o.above) 1

/-- The number of the last line that a frame over `count` lines shows. Where the window ends in front of
the source, what is missing is taken off the end of the source. -/
def lastShown (o : Options) (l : Location) (count : Nat) : Int :=
  if 0 ≤ l.lastLine + o.below then min count (l.lastLine + o.below)
  else count + (l.lastLine + o.below)

/-- The numbers of the lines that a frame over `count` lines shows. -/
def shown (o : Options) (l : Location) (count : Nat) : List Int :=
  interval (firstShown o l) (lastShown o l count)

theorem windowStart_add_one (o : Options) (l : Location) :
  windowStart o l + 1 = firstShown o l
  := by
  unfold firstShown windowStart
  omega

/-- Neighbouring lines are those with neighbouring numbers. -/
theorem drop_take_eq_map_lineAt {start stop : Nat} (h : stop ≤ lines.length) :
  (lines.take stop).drop start = (interval (start + 1) stop).map (lineAt lines)
  := by
  apply List.ext_getElem?
  intro i
  rw [List.getElem?_drop, List.getElem?_take, List.getElem?_map, interval, List.getElem?_map]
  by_cases hi : start + i < stop
  · have hrange : i < ((stop : Int) + 1 - (start + 1)).toNat := by omega
    have hnumber : ¬ ((start : Int) + 1 + i < 1) := by omega
    have hindex : ((start : Int) + 1 + i - 1).toNat = start + i := by omega
    rw [if_pos hi, List.getElem?_range hrange, List.getElem?_eq_getElem (by omega)]
    simp only [Option.map_some, lineAt, hnumber, if_false, hindex]
    rw [List.getElem?_eq_getElem (by omega), Option.getD_some]
  · have hrange : ((stop : Int) + 1 - (start + 1)).toNat ≤ i := by omega
    rw [if_neg hi, List.getElem?_eq_none (by simpa using hrange)]
    rfl

/-- The lines of the window are those from the first to the last that is shown. -/
theorem slice_window (o : Options) (lines : List (List Char)) (l : Location) :
  slice (windowStart o l) (windowEnd o l lines.length) lines
    = (shown o l lines.length).map (lineAt lines)
  := by
  have hfirst : firstShown o l = (windowStart o l).toNat + 1 := by
    rw [← windowStart_add_one, windowStart]
    omega
  unfold slice
  split
  · next hneg =>
    have hlast : lastShown o l lines.length = windowEnd o l lines.length + lines.length := by
      unfold lastShown windowEnd at *
      split <;> omega
    rw [drop_take_eq_map_lineAt (by omega), shown, hfirst, hlast]
    by_cases hle : windowEnd o l lines.length + lines.length < 0
    · rw [interval_of_lt (by omega), interval_of_lt (by omega)]
    · have hstop : ((windowEnd o l lines.length + lines.length).toNat : Int)
          = windowEnd o l lines.length + lines.length := Int.toNat_of_nonneg (by omega)
      rw [Int.max_eq_left (by omega), hstop]
  · next hneg =>
    have hlast : lastShown o l lines.length = windowEnd o l lines.length := by
      unfold lastShown windowEnd at *
      split <;> omega
    have hcount : windowEnd o l lines.length ≤ lines.length := by
      unfold windowEnd
      omega
    have hstop : ((windowEnd o l lines.length).toNat : Int) = windowEnd o l lines.length :=
      Int.toNat_of_nonneg (by omega)
    rw [drop_take_eq_map_lineAt (by omega), shown, hfirst, hlast, hstop]

/-! ### The markers of the lines that are shown -/

/-- The line belongs to the location; no line belongs to a location that ends before it starts. -/
def IsMarked (l : Location) (k : Int) : Prop :=
  l.start.line ≤ k ∧ k ≤ l.lastLine

instance (l : Location) (k : Int) : Decidable (IsMarked l k) :=
  inferInstanceAs (Decidable (_ ∧ _))

/-- The marker of a line: that of its location, when the line belongs to it. -/
def markerAt (lines : List (List Char)) (l : Location) (k : Int) : Option Marker :=
  if IsMarked l k then
    some (if l.lastLine = l.start.line then pointMarker l else rangeMarker lines l k)
  else none

/-- The lines of the location are marked with carets, and not as a whole. -/
def HasCarets (l : Location) : Prop :=
  startColumn l ≠ 0 ∨ l.lastLine = l.start.line ∧ endColumn l ≠ 0

instance (l : Location) : Decidable (HasCarets l) :=
  inferInstanceAs (Decidable (_ ∨ _))

/-- The column of the first caret under a line of the location, zero below the first line. -/
def caretColumn (l : Location) (k : Int) : Int :=
  if k = l.start.line then startColumn l else 0

/-- The count of carets that the columns of the location give for one of its lines: the difference of
the columns on a single line, else from the start column to the end of the first line, up to the end
column on the last, and all of a line between. -/
def caretCount (lines : List (List Char)) (l : Location) (k : Int) : Int :=
  if l.lastLine = l.start.line then endColumn l - startColumn l
  else if k = l.start.line then lineLength lines k - startColumn l + 1
  else if k = l.lastLine then endColumn l
  else lineLength lines k

theorem pointMarker_eq (h : l.lastLine = l.start.line) :
  pointMarker l
    = if HasCarets l then .carets (startColumn l) (endColumn l - startColumn l) else .whole
  := by
  unfold pointMarker HasCarets
  by_cases hstart : startColumn l = 0
  · by_cases hend : endColumn l = 0
    · simp [hstart, hend]
    · simp [h, hstart, hend, Ne.symm hend]
  · by_cases hend : startColumn l = endColumn l
    · simp [hstart, ← hend]
    · simp [hstart, hend]

theorem rangeMarker_eq (h : l.lastLine ≠ l.start.line) (lines : List (List Char)) (k : Int) :
  rangeMarker lines l k
    = if HasCarets l then .carets (caretColumn l k) (caretCount lines l k) else .whole
  := by
  unfold rangeMarker HasCarets caretColumn caretCount
  split_ifs <;> simp_all

/-- The marker of a line has the carets that the columns give. -/
theorem markerAt_eq (lines : List (List Char)) (l : Location) (k : Int) :
  markerAt lines l k
    = if IsMarked l k then
        some (if HasCarets l then .carets (caretColumn l k) (caretCount lines l k) else .whole)
      else none
  := by
  unfold markerAt
  split
  · next hmarked =>
    split
    · next hpoint =>
      have hk : k = l.start.line := by
        unfold IsMarked at hmarked
        omega
      rw [pointMarker_eq hpoint, caretColumn, if_pos hk, caretCount, if_pos hpoint]
    · next hrange => rw [rangeMarker_eq hrange]
  · rfl

/-- The list of markers, which is cut off at the window, has the marker of each line that is shown, and
none of a location over several lines whose window ends in front of the source. -/
theorem lookup_markers_eq_ite (hk : k ∈ shown o l lines.length) :
  (markers o lines l).lookup k
    = if l.lastLine = l.start.line ∨ 0 ≤ l.lastLine + o.below then markerAt lines l k else none
  := by
  rw [shown, mem_interval] at hk
  obtain ⟨hfirst, hlast⟩ := hk
  unfold markers markerAt IsMarked
  split
  · next hpoint =>
    have hline : l.start.line ≤ k ∧ k ≤ l.start.line ↔ k = l.start.line := by omega
    simp only [hpoint, hline, lookup_cons_eq_ite, List.lookup_nil, true_or, if_true]
  · next hrange =>
    unfold firstShown lastShown at *
    by_cases hwindow : 0 ≤ l.lastLine + o.below
    · -- A marked line is no further down than the end of the location, and so within the window.
      have hclipped :
          max l.start.line (windowStart o l + 1) ≤ k ∧ k ≤ min l.lastLine (windowEnd o l lines.length)
            ↔ l.start.line ≤ k ∧ k ≤ l.lastLine := by
        rw [if_pos hwindow] at hlast
        unfold windowStart windowEnd
        omega
      simp only [lookup_map_interval, hclipped, hwindow, or_true, if_true]
    · have hclipped :
          ¬ (max l.start.line (windowStart o l + 1) ≤ k ∧ k ≤ min l.lastLine (windowEnd o l lines.length)) := by
        unfold windowStart windowEnd
        omega
      simp only [lookup_map_interval, hclipped, hrange, hwindow, or_self, if_false]

/-- The list of markers has the marker of each line that is shown when the window goes on below the
location. -/
theorem lookup_markers (hbelow : 0 ≤ o.below) (hk : k ∈ shown o l lines.length) :
  (markers o lines l).lookup k = markerAt lines l k
  := by
  rw [lookup_markers_eq_ite hk]
  split
  · rfl
  · next hwindow =>
    -- The location ends in front of the source, so none of the lines that are shown belongs to it.
    have hfirst := (mem_interval.mp hk).1
    have hmarked : ¬ IsMarked l k := by
      unfold IsMarked firstShown at *
      omega
    rw [markerAt, if_neg hmarked]

/-! ### The rows -/

/-- Rows of numbered lines stand in the order of the numbers. -/
theorem rowsFrom_map (o : Options) (width : Nat) (l : Location) (marks : List (Int × Marker))
    (line : Int → List Char) (low high : Int) :
  rowsFrom o width l marks low ((interval low high).map line)
    = (interval low high).flatMap fun k => rowsOfLine o width l marks k (line k)
  := by
  -- By induction on how many numbers there are.
  induction hcount : (high + 1 - low).toNat generalizing low with
  | zero => rw [interval_of_lt (by omega), List.map_nil, rowsFrom, List.flatMap_nil]
  | succ count ih =>
    rw [interval_of_le (by omega), List.map_cons, rowsFrom, ih (low + 1) (by omega), List.flatMap_cons]

/-- The lines that are shown give their rows one after the other. -/
theorem rowsWith_eq_flatMap (o : Options) (lines : List (List Char)) (l : Location)
    (marks : List (Int × Marker)) :
  rowsWith o lines l marks
    = (shown o l lines.length).flatMap fun k =>
      rowsOfLine o (numberWidth o lines l) l marks k (lineAt lines k)
  := by
  rw [rowsWith, slice_window, windowStart_add_one, shown, rowsFrom_map]

/-- The rows of a line that is shown: its own, and a row of carets below when it is marked and the location
has carets. -/
def rowsAt (o : Options) (lines : List (List Char)) (l : Location) (k : Int) : List (List Char) :=
  lineRow o (numberWidth o lines l) k (lineAt lines k) (IsMarked l k)
    :: if IsMarked l k ∧ HasCarets l then
      [caretRow o (numberWidth o lines l) k (lineAt lines k) (caretColumn l k) (caretCount lines l k)
        (k = messageLine l)]
      else []

/-- A marked line has a row of carets below its own when its location has carets. -/
theorem rowsOfLine_of_lookup {marks : List (Int × Marker)} {marked : Prop} [Decidable marked] {width : Nat}
    {line : List Char} {column count : Int}
    (h : marks.lookup k = if marked then some (if HasCarets l then .carets column count else .whole) else none) :
  rowsOfLine o width l marks k line
    = lineRow o width k line marked
      :: if marked ∧ HasCarets l then [caretRow o width k line column count (k = messageLine l)] else []
  := by
  rw [rowsOfLine, h]
  by_cases hmarked : marked
  · by_cases hcarets : HasCarets l <;> simp [hmarked, hcarets]
  · simp [hmarked]

/-- With the markers of its frame, a line that is shown has these rows. -/
theorem rowsOfLine_markers (hbelow : 0 ≤ o.below) (hk : k ∈ shown o l lines.length) :
  rowsOfLine o (numberWidth o lines l) l (markers o lines l) k (lineAt lines k) = rowsAt o lines l k
  := by
  apply rowsOfLine_of_lookup
  rw [lookup_markers hbelow hk, markerAt_eq]

/-- With the markers of its frame, the lines that are shown give their rows one after the other. -/
theorem rowsWith_markers_eq_flatMap (lines : List (List Char)) (l : Location) (hbelow : 0 ≤ o.below) :
  rowsWith o lines l (markers o lines l) = (shown o l lines.length).flatMap (rowsAt o lines l)
  := by
  rw [rowsWith_eq_flatMap]
  apply List.flatMap_congr
  intro k hk
  apply rowsOfLine_markers hbelow hk

end Diagnostics.CodeFrame
