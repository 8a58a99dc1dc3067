import Diagnostics.Proofs.CodeFrame.Rows
import Diagnostics.Proofs.Text.Lines

/-!
# Clipped markers

Of a location over several lines only the lines in the window are marked, so that a location may reach far
beyond its source. `CodeFrame.allMarkers` is the plain list of markers, which goes through all lines from the
first to the last. Both lists have the same marker for each line that is shown
(`CodeFrame.lookup_markers_eq_lookup_allMarkers`), so both give the same frame, and the clipped list is no
longer than the source (`CodeFrame.render_clipped`).
-/

namespace Diagnostics.CodeFrame

open Text

variable {o : Options} {lines : List (List Char)} {l : Location} {k : Int}

/-- The marked lines with their markers, whether they are shown or not. The first line of a location over
several lines is marked from the start column to its end, the last one up to the end column, and the lines
between as a whole; without a start column, or with a start column of zero, no line has carets. -/
def allMarkers (lines : List (List Char)) (l : Location) : List (Int × Marker) :=
  if l.lastLine = l.start.line then [(l.start.line, pointMarker l)]
  else if startColumn l = 0 then (interval l.start.line l.lastLine).map fun number => (number, .whole)
  else if l.lastLine < l.start.line then []
  else
    (l.start.line, .carets (startColumn l) (lineLength lines l.start.line - startColumn l + 1))
      :: (interval (l.start.line + 1) (l.lastLine - 1)).map
        (fun number => (number, .carets 0 (lineLength lines number)))
      ++ [(l.lastLine, .carets 0 (endColumn l))]

/-- The frame of a location in a source with given markers, when all markers of lines that it shows can be
drawn. -/
def renderWith? (o : Options) (source : String) (l : Location) (marks : List (Int × Marker)) :
    Option String :=
  let lines := splitLines source.toList
  if (shownNumbers o lines l).all fun number => ((marks.lookup number).map Marker.isDrawable).getD true then
    let body := join ['\n'] (rowsWith o lines l marks)
    some (String.ofList ((headRow o lines l).foldr (fun row rest => row ++ '\n' :: rest) body))
  else none

theorem render?_eq_renderWith? (o : Options) (source : String) (l : Location) :
  render? o source l = renderWith? o source l (markers o (splitLines source.toList) l)
  := rfl

/-! ### Markers of lines -/

/-- The plain list has the marker of each line. -/
theorem lookup_allMarkers (lines : List (List Char)) (l : Location) (k : Int) :
  (allMarkers lines l).lookup k = markerAt lines l k
  := by
  unfold allMarkers markerAt IsMarked
  split
  · next hpoint =>
    have hline : l.start.line ≤ k ∧ k ≤ l.start.line ↔ k = l.start.line := by omega
    simp only [hpoint, hline, lookup_cons_eq_ite, List.lookup_nil]
  · next hrange =>
    split
    · next hcolumn => rw [lookup_map_interval, rangeMarker, if_pos hcolumn]
    · next hcolumn =>
      split
      · next hreversed =>
        rw [List.lookup_nil, if_neg]
        omega
      · next hforward =>
        rw [rangeMarker, if_neg hcolumn, List.lookup_append, lookup_cons_eq_ite, lookup_map_interval,
          lookup_cons_eq_ite, List.lookup_nil]
        by_cases hfirst : k = l.start.line
        · simp [hfirst, show l.start.line ≤ l.lastLine by omega]
        · by_cases hlast : k = l.lastLine
          · have hnot : ¬ (l.start.line + 1 ≤ k ∧ k ≤ l.lastLine - 1) := by omega
            have hmarked : l.start.line ≤ k ∧ k ≤ l.lastLine := by omega
            simp only [if_neg hfirst, if_neg hnot, if_pos hlast, if_pos hmarked, Option.none_or]
          · have hbetween :
                l.start.line + 1 ≤ k ∧ k ≤ l.lastLine - 1 ↔ l.start.line ≤ k ∧ k ≤ l.lastLine := by omega
            simp only [hfirst, hlast, hbetween, if_false, Option.or_none]

/-- The clipped list and the plain one agree on each line that is shown. -/
theorem lookup_markers_eq_lookup_allMarkers (hbelow : 0 ≤ o.below) (hk : k ∈ shown o l lines.length) :
  (markers o lines l).lookup k = (allMarkers lines l).lookup k
  := by
  rw [lookup_markers hbelow hk, lookup_allMarkers]

/-- The numbers of the lines that are looked up are those that are shown. -/
theorem shownNumbers_eq (o : Options) (lines : List (List Char)) (l : Location) :
  shownNumbers o lines l = shown o l lines.length
  := by
  rw [shownNumbers, slice_window, List.length_map, shown, length_interval, windowStart_add_one]
  rfl

/-! ### Frames -/

/-- Lists of markers that agree on the lines that are shown give the same frame. -/
theorem renderWith?_congr {source : String} {marks marks' : List (Int × Marker)}
    (h : ∀ k ∈ shown o l (splitLines source.toList).length, marks.lookup k = marks'.lookup k) :
  renderWith? o source l marks = renderWith? o source l marks'
  := by
  have hrows : rowsWith o (splitLines source.toList) l marks = rowsWith o (splitLines source.toList) l marks' := by
    rw [rowsWith_eq_flatMap, rowsWith_eq_flatMap]
    apply List.flatMap_congr
    intro k hk
    rw [rowsOfLine, rowsOfLine, h k hk]
  have hdrawn : ((shownNumbers o (splitLines source.toList) l).all fun number =>
        ((marks.lookup number).map Marker.isDrawable).getD true)
      = (shownNumbers o (splitLines source.toList) l).all fun number =>
        ((marks'.lookup number).map Marker.isDrawable).getD true := by
    rw [shownNumbers_eq, Bool.eq_iff_iff, List.all_eq_true, List.all_eq_true]
    apply forall₂_congr
    intro k hk
    rw [h k hk]
  simp only [renderWith?, hrows, hdrawn]

/-- No more lines are marked than the source has. -/
theorem length_markers_le (o : Options) (source : List Char) (l : Location) :
  (markers o (splitLines source) l).length ≤ (splitLines source).length
  := by
  unfold markers
  split
  · exact List.length_pos_of_ne_nil (splitLines_ne_nil source)
  · rw [List.length_map, length_interval]
    unfold windowStart windowEnd
    omega

/-- The frame with the clipped list of markers is the one with the plain list, for all lines and columns and
all options that do not leave out lines at the end of the location; and the clipped list has no more markers
than the source has lines. -/
theorem render_clipped (hbelow : 0 ≤ o.below) (source : String) (l : Location) :
  let lines := splitLines source.toList
  render? o source l = renderWith? o source l (allMarkers lines l)
    ∧ (markers o lines l).length ≤ lines.length
  := by
  intro lines
  constructor
  · rw [render?_eq_renderWith?]
    apply renderWith?_congr
    intro k hk
    apply lookup_markers_eq_lookup_allMarkers hbelow hk
  · apply length_markers_le

/-- A location that reaches far beyond its source. -/
def farSample : Location :=
  ⟨⟨2, some 3⟩, some ⟨1000000000, some 1⟩⟩

/-- The plain list has a marker for each of almost a thousand million lines, and gives the frame that the
clipped list gives. -/
theorem render_clipped_far :
  (0 : Int) ≤ ({ message := "boom" } : Options).below
    ∧ renderWith? { message := "boom" } "aaaa\nbbbb\ncccc\ndddd" farSample
        (allMarkers (splitLines "aaaa\nbbbb\ncccc\ndddd".toList) farSample)
      = some "  1 | aaaa\n> 2 | bbbb\n    |   ^^\n> 3 | cccc\n    | ^^^^\n> 4 | dddd\n    | ^^^^"
    ∧ (markers { message := "boom" } (splitLines "aaaa\nbbbb\ncccc\ndddd".toList) farSample).length ≤ 4
  := by
  have hbelow : (0 : Int) ≤ ({ message := "boom" } : Options).below := by decide
  obtain ⟨hframe, hcount⟩ := render_clipped hbelow "aaaa\nbbbb\ncccc\ndddd" farSample
  use hbelow
  constructor
  · rw [← hframe]
    decide
  · exact hcount

end Diagnostics.CodeFrame
