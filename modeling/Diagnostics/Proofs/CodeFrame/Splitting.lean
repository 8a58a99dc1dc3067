import Diagnostics.Proofs.CodeFrame.Characters
import Diagnostics.Proofs.CodeFrame.Rows
import Diagnostics.Proofs.Text.Terminators

/-!
# Frames cut at line ends

Neither a piece of the source nor a style holds an LF, so the text of a frame without a message is cut at
its LFs into the rows that it was joined from (`CodeFrame.splitOn_render`): one for each line that is shown,
and one more for each that has carets (`CodeFrame.length_flatMap_rowsIn`). Indenting a text changes its rows
one by one (`CodeFrame.splitOn_indent`), which gives the rows of the frame that diagnostics carry.
-/

namespace Diagnostics.CodeFrame

open Text

variable {o : Options} {lines : List (List Char)} {l : Location} {k : Int}

/-! ### The rows of a line -/

/-- The frame marks the line when it shows it: the line belongs to the location, and the window around
several lines does not end in front of the source. -/
def IsMarkedIn (o : Options) (l : Location) (k : Int) : Prop :=
  IsMarked l k ∧ (l.lastLine = l.start.line ∨ 0 ≤ l.lastLine + o.below)

instance (o : Options) (l : Location) (k : Int) : Decidable (IsMarkedIn o l k) :=
  inferInstanceAs (Decidable (_ ∧ _))

/-- The frame has a row of carets under the line when it shows it. -/
def HasCaretRow (o : Options) (l : Location) (k : Int) : Prop :=
  IsMarkedIn o l k ∧ HasCarets l

instance (o : Options) (l : Location) (k : Int) : Decidable (HasCaretRow o l k) :=
  inferInstanceAs (Decidable (_ ∧ _))

/-- The rows of a line that is shown, whatever the window is. -/
def rowsIn (o : Options) (lines : List (List Char)) (l : Location) (k : Int) : List (List Char) :=
  lineRow o (numberWidth o lines l) k (lineAt lines k) (IsMarkedIn o l k)
    :: if HasCaretRow o l k then
      [caretRow o (numberWidth o lines l) k (lineAt lines k) (caretColumn l k) (caretCount lines l k)
        (k = messageLine l)]
      else []

/-- The list of markers has the carets of a location with columns for each line that the frame marks. -/
theorem lookup_markers_of_mem_shown (hk : k ∈ shown o l lines.length) :
  (markers o lines l).lookup k
    = if IsMarkedIn o l k then
        some (if HasCarets l then .carets (caretColumn l k) (caretCount lines l k) else .whole)
      else none
  := by
  rw [lookup_markers_eq_ite hk, markerAt_eq]
  by_cases hin : IsMarkedIn o l k
  · rw [if_pos hin, if_pos hin.2, if_pos hin.1]
  · rw [if_neg hin]
    split
    · next hwindow =>
      rw [if_neg]
      intro hmarked
      apply hin ⟨hmarked, hwindow⟩
    · rfl

/-- With the markers of its frame, a line that is shown has these rows. -/
theorem rowsOfLine_eq_rowsIn (hk : k ∈ shown o l lines.length) :
  rowsOfLine o (numberWidth o lines l) l (markers o lines l) k (lineAt lines k) = rowsIn o lines l k
  := by
  apply rowsOfLine_of_lookup (lookup_markers_of_mem_shown hk)

/-- The lines that are shown give their rows one after the other. -/
theorem rowsWith_eq_flatMap_rowsIn (o : Options) (lines : List (List Char)) (l : Location) :
  rowsWith o lines l (markers o lines l) = (shown o l lines.length).flatMap (rowsIn o lines l)
  := by
  rw [rowsWith_eq_flatMap]
  apply List.flatMap_congr
  intro k hk
  apply rowsOfLine_eq_rowsIn hk

theorem length_rowsIn (o : Options) (lines : List (List Char)) (l : Location) (k : Int) :
  (rowsIn o lines l k).length = if HasCaretRow o l k then 2 else 1
  := by
  rw [rowsIn]
  split <;> rfl

/-- There is a row for each line, and one more for each line with carets. -/
theorem length_flatMap_rowsIn (numbers : List Int) :
  (numbers.flatMap (rowsIn o lines l)).length
    = numbers.length + numbers.countP fun k => HasCaretRow o l k
  := by
  induction numbers with
  | nil => rfl
  | cons k numbers ih =>
    rw [List.flatMap_cons, List.length_append, length_rowsIn, ih, List.length_cons, List.countP_cons]
    simp only [decide_eq_true_eq]
    split <;> omega

/-! ### Rows and texts -/

/-- A frame without a message that shows some line is cut at its LFs into its rows. -/
theorem splitOn_render (hmessage : o.message = "") {source : String}
    (hshown : shown o l (splitLines source.toList).length ≠ []) :
  splitOn '\n' (render o source l).toList
    = (shown o l (splitLines source.toList).length).flatMap (rowsIn o (splitLines source.toList) l)
  := by
  have hrows := rowsOf_render hmessage source l
  rw [rowsWith_eq_flatMap_rowsIn] at hrows
  have hne : (shown o l (splitLines source.toList).length).flatMap (rowsIn o (splitLines source.toList) l)
      ≠ [] := by
    obtain ⟨k, numbers, hk⟩ := List.exists_cons_of_ne_nil hshown
    simp [hk, rowsIn]
  rw [← hrows] at hne ⊢
  unfold rowsOf at hne ⊢
  split at hne
  · contradiction
  · next hframe => rw [if_neg hframe]

/-- Indenting a text puts the blanks in front of each of its rows. -/
theorem splitOn_indent (cs : List Char) :
  splitOn '\n' (indent cs) = (splitOn '\n' cs).map fun row => ' ' :: ' ' :: row
  := by
  rw [indent]
  apply splitOn_join
  · simpa using splitOn_ne_nil '\n' cs
  · intro piece hpiece
    obtain ⟨row, hrow, rfl⟩ := List.mem_map.mp hpiece
    simpa using notMem_of_mem_splitOn row hrow

/-- The frame that diagnostics carry is cut at its LFs into the rows of the coloured frame behind two
blanks each. -/
theorem splitOn_attached {source : String}
    (hshown : shown { colored := true } l (splitLines source.toList).length ≠ []) :
  splitOn '\n' (attached source l).toList
    = ((shown { colored := true } l (splitLines source.toList).length).flatMap
        (rowsIn { colored := true } (splitLines source.toList) l)).map fun row => ' ' :: ' ' :: row
  := by
  have hframe := splitOn_render (o := { colored := true }) rfl hshown
  rw [render, String.toList_ofList] at hframe
  rw [attached, String.toList_ofList, attachedChars, splitOn_indent, hframe]

/-- A source is cut into its lines at all of its terminators, and the text of each frame without a message
that shows some line is cut at its LFs into a row for each line that is shown and one for each row of
carets. The frame that diagnostics carry has the rows of the coloured frame, with two blanks in front of
each. -/
theorem cut_into_rows (source : String) :
  IsCut source.toList (splitLines source.toList) (terminatorsOf source.toList)
  ∧ (∀ (o : Options) (l : Location), o.message = "" → isDrawable o source l = true →
      shown o l (splitLines source.toList).length ≠ [] →
      ∃ frame, render? o source l = some frame
        ∧ splitOn '\n' frame.toList
          = (shown o l (splitLines source.toList).length).flatMap (rowsIn o (splitLines source.toList) l)
        ∧ (splitOn '\n' frame.toList).length
          = (shown o l (splitLines source.toList).length).length
            + (shown o l (splitLines source.toList).length).countP fun k => HasCaretRow o l k)
  ∧ ∀ l : Location, isDrawable { colored := true } source l = true →
      shown { colored := true } l (splitLines source.toList).length ≠ [] →
      ∃ frame indented, render? { colored := true } source l = some frame
        ∧ attached? source l = some indented
        ∧ splitOn '\n' indented.toList = (splitOn '\n' frame.toList).map fun row => ' ' :: ' ' :: row
  := by
  refine ⟨isCut_splitLines source.toList, ?_, ?_⟩
  · intro o l hmessage hdrawable hshown
    have hrows := splitOn_render hmessage hshown
    refine ⟨render o source l, if_pos hdrawable, hrows, ?_⟩
    rw [hrows, length_flatMap_rowsIn]
  · intro l hdrawable hshown
    refine ⟨render { colored := true } source l, attached source l, if_pos hdrawable, if_pos hdrawable, ?_⟩
    rw [splitOn_attached hshown, splitOn_render rfl hshown]

/-- A CR LF ends one line, and an LF and a CR behind it end two. -/
theorem cut_into_rows_mixed :
  (splitLines "a\r\n\tb\n\r\u2028c".toList).length = 5
  ∧ ∃ frame indented, render? { colored := true } "a\r\n\tb\n\r\u2028c" { start := ⟨2, some 2⟩ } = some frame
    ∧ (splitOn '\n' frame.toList).length = 6
    ∧ attached? "a\r\n\tb\n\r\u2028c" { start := ⟨2, some 2⟩ } = some indented
    ∧ splitOn '\n' indented.toList = (splitOn '\n' frame.toList).map fun row => ' ' :: ' ' :: row
  := by
  obtain ⟨hcut, hframes, hindented⟩ := cut_into_rows "a\r\n\tb\n\r\u2028c"
  have hdrawable : isDrawable { colored := true } "a\r\n\tb\n\r\u2028c" { start := ⟨2, some 2⟩ } = true := by
    decide
  have hshown :
      shown { colored := true } { start := ⟨2, some 2⟩ } (splitLines "a\r\n\tb\n\r\u2028c".toList).length
        = [1, 2, 3, 4, 5] := by
    decide
  have hsome : [1, 2, 3, 4, 5] ≠ ([] : List Int) := by decide
  rw [← hshown] at hsome
  obtain ⟨frame, hframe, -, hlength⟩ := hframes _ _ rfl hdrawable hsome
  obtain ⟨frame', indented, hframe', hattached, hrows⟩ := hindented _ hdrawable hsome
  obtain rfl : frame = frame' := by
    rw [hframe] at hframe'
    exact Option.some.inj hframe'
  constructor
  · rw [hcut.length_pieces]
    decide
  · refine ⟨frame, indented, hframe, ?_, hattached, hrows⟩
    rw [hlength, hshown]
    decide

end Diagnostics.CodeFrame
