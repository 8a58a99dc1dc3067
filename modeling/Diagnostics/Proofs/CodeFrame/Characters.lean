import Diagnostics.CodeFrame
import Diagnostics.Proofs.Decimal.Numeral
import Diagnostics.Proofs.Text.Lines

/-!
# The characters of frames

A frame is drawn with few characters (`CodeFrame.isFrameChar`); all others come from the lines of its
source or from its message (`CodeFrame.isFrameChar_or_mem_of_mem_rowsWith`). In particular no row holds
a line end and none is empty, so the rows are read off the text of the frame again
(`CodeFrame.rowsOf_render`).
-/

namespace Diagnostics.CodeFrame

open Decimal Text

variable {o : Options} {lines : List (List Char)} {l : Location} {k : Int}

/-! ### Characters -/

/-- The characters that frames are drawn with, digits aside. -/
def frameMarks : List Char :=
  [' ', '\t', '>', '|', '^', '-']

/-- The character may stand in a frame whatever its lines and its message are; coloured frames also
have the characters of select sequences. -/
def isFrameChar (colored : Bool) (c : Char) : Bool :=
  c.isDigit || frameMarks.contains c || colored && [Ansi.esc, '[', 'm'].contains c

variable {c : Char} {colored : Bool} {width : Nat} {line : List Char}

theorem isFrameChar_of_isDigit (h : c.isDigit = true) :
  isFrameChar colored c = true
  := by
  simp [isFrameChar, h]

theorem isFrameChar_of_mem_frameMarks (h : c ∈ frameMarks) :
  isFrameChar colored c = true
  := by
  simp [isFrameChar, h]

/-- A select sequence has digits and the three characters around them. -/
theorem isDigit_or_mem_of_mem_select {code : Nat} (h : c ∈ Ansi.select code) :
  c.isDigit = true ∨ c ∈ [Ansi.esc, '[', 'm']
  := by
  simp only [Ansi.select, List.cons_append, List.mem_cons, List.mem_append, List.not_mem_nil, or_false] at h
  obtain rfl | rfl | hdigit | rfl := h
  · right
    decide
  · right
    decide
  · left
    apply Nat.isDigit_of_mem_toDigits (by decide) (by decide) hdigit
  · right
    decide

theorem isFrameChar_of_mem_select {code : Nat} (h : c ∈ Ansi.select code) :
  isFrameChar true c = true
  := by
  obtain hdigit | hmem := isDigit_or_mem_of_mem_select h
  · apply isFrameChar_of_isDigit hdigit
  · simp [isFrameChar, hmem]

theorem isFrameChar_of_mem_numeralChars {i : Int} (h : c ∈ numeralChars i) :
  isFrameChar colored c = true
  := by
  obtain hdigit | rfl := isDigit_or_eq_of_mem_numeralChars h
  · apply isFrameChar_of_isDigit hdigit
  · apply isFrameChar_of_mem_frameMarks (by decide)

/-- Painting brings in characters of frames only. -/
theorem isFrameChar_or_mem_of_mem_paint {s : Style} {cs : List Char} (h : c ∈ paint colored s cs) :
  isFrameChar colored c = true ∨ c ∈ cs
  := by
  cases colored with
  | false => exact .inr h
  | true =>
    simp only [paint, if_true, Style.applyChars, List.mem_append, List.mem_flatMap] at h
    obtain (⟨code, -, hcode⟩ | hmem) | hreset := h
    · exact .inl (isFrameChar_of_mem_select hcode)
    · exact .inr hmem
    · exact .inl (isFrameChar_of_mem_select hreset)

/-- What is painted is made of characters of frames when the text is. -/
theorem isFrameChar_of_mem_paint {s : Style} {cs : List Char} (hcs : ∀ c ∈ cs, isFrameChar colored c = true)
    (h : c ∈ paint colored s cs) :
  isFrameChar colored c = true
  := by
  obtain hframe | hmem := isFrameChar_or_mem_of_mem_paint h
  · exact hframe
  · apply hcs c hmem

/-- A gutter has blanks, a bar and the characters of its number. -/
theorem eq_or_mem_of_mem_gutter (h : c ∈ gutter width k) :
  c = ' ' ∨ c = '|' ∨ c ∈ numeralChars k
  := by
  simp only [gutter, padNumber, List.mem_cons, List.mem_append, List.cons_append, List.not_mem_nil,
    or_false, List.mem_replicate] at h
  tauto

theorem isFrameChar_of_mem_gutter (h : c ∈ gutter width k) :
  isFrameChar colored c = true
  := by
  obtain rfl | rfl | hnumber := eq_or_mem_of_mem_gutter h
  · apply isFrameChar_of_mem_frameMarks (by decide)
  · apply isFrameChar_of_mem_frameMarks (by decide)
  · apply isFrameChar_of_mem_numeralChars hnumber

theorem isFrameChar_of_mem_blankGutter (h : c ∈ blankGutter width k) :
  isFrameChar colored c = true
  := by
  obtain ⟨d, hd, rfl⟩ := List.mem_map.mp h
  split
  · apply isFrameChar_of_mem_frameMarks (by decide)
  · apply isFrameChar_of_mem_gutter hd

theorem isFrameChar_of_mem_filler {column : Int} (h : c ∈ filler line column) :
  isFrameChar colored c = true
  := by
  obtain ⟨d, -, rfl⟩ := List.mem_map.mp h
  split
  · apply isFrameChar_of_mem_frameMarks (by decide)
  · apply isFrameChar_of_mem_frameMarks (by decide)

/-- The row of a line is made of characters of frames and of those of the line. -/
theorem isFrameChar_or_mem_of_mem_lineRow {marked : Bool} (h : c ∈ lineRow o width k line marked) :
  isFrameChar o.colored c = true ∨ c ∈ line
  := by
  simp only [lineRow, List.mem_append] at h
  obtain (hmarker | hgutter) | htext := h
  · left
    cases marked with
    | false =>
      obtain rfl := List.mem_singleton.mp hmarker
      apply isFrameChar_of_mem_frameMarks (by decide)
    | true =>
      apply isFrameChar_of_mem_paint _ hmarker
      rintro c hc
      obtain rfl := List.mem_singleton.mp hc
      apply isFrameChar_of_mem_frameMarks (by decide)
  · left
    apply isFrameChar_of_mem_paint _ hgutter
    intro c hc
    apply isFrameChar_of_mem_gutter hc
  · split at htext
    · contradiction
    · obtain rfl | hmem := List.mem_cons.mp htext
      · left
        apply isFrameChar_of_mem_frameMarks (by decide)
      · exact .inr hmem

/-- The row of a line has the bar of its gutter. -/
theorem bar_mem_lineRow (k : Int) (line : List Char) (marked : Bool) :
  '|' ∈ lineRow o width k line marked
  := by
  have hgutter : '|' ∈ paint o.colored gutterStyle (gutter width k) := by
    cases o.colored <;> simp [paint, Style.applyChars, gutter]
  simp [lineRow, hgutter]

/-- A row of carets is made of characters of frames and of those of the message. -/
theorem isFrameChar_or_mem_of_mem_caretRow {column count : Int} {closing : Bool}
    (h : c ∈ caretRow o width k line column count closing) :
  isFrameChar o.colored c = true ∨ c ∈ o.message.toList
  := by
  simp only [caretRow, List.mem_append, List.mem_cons, List.cons_append] at h
  obtain rfl | ((hgutter | rfl | hfiller) | hcarets) | hmessage := h
  · left
    apply isFrameChar_of_mem_frameMarks (by decide)
  · left
    apply isFrameChar_of_mem_paint _ hgutter
    intro c hc
    apply isFrameChar_of_mem_blankGutter hc
  · left
    apply isFrameChar_of_mem_frameMarks (by decide)
  · left
    apply isFrameChar_of_mem_filler hfiller
  · left
    apply isFrameChar_of_mem_paint _ hcarets
    intro c hc
    obtain ⟨-, rfl⟩ := List.mem_replicate.mp hc
    apply isFrameChar_of_mem_frameMarks (by decide)
  · split at hmessage
    · obtain rfl | hmem := List.mem_cons.mp hmessage
      · left
        apply isFrameChar_of_mem_frameMarks (by decide)
      · apply isFrameChar_or_mem_of_mem_paint hmem
    · contradiction

/-- What holds of the row of each line, and of whatever carets are put under it, holds of all rows. -/
theorem forall_mem_rowsFrom {P : List Char → Prop} {marks : List (Int × Marker)}
    {ls : List (List Char)} (hline : ∀ line ∈ ls, ∀ k marked, P (lineRow o width k line marked))
    (hcarets : ∀ line ∈ ls, ∀ k column count closing, P (caretRow o width k line column count closing))
    (number : Int) :
  ∀ row ∈ rowsFrom o width l marks number ls, P row
  := by
  induction ls generalizing number with
  | nil => simp [rowsFrom]
  | cons line ls ih =>
    rw [List.forall_mem_cons] at hline hcarets
    obtain ⟨hline, hlines⟩ := hline
    obtain ⟨hcarets, hmore⟩ := hcarets
    rw [rowsFrom, List.forall_mem_append]
    constructor
    · unfold rowsOfLine
      split
      · simp [hline]
      · simp [hline]
      · simp [hline, hcarets]
    · apply ih hlines hmore

/-- The lines of a window are lines of the source. -/
theorem mem_of_mem_slice {start stop : Int} (h : line ∈ slice start stop lines) :
  line ∈ lines
  := List.mem_of_mem_take (List.mem_of_mem_drop h)

/-- The characters of a frame are characters of frames and those of its source and its message. -/
theorem isFrameChar_or_mem_of_mem_rowsWith {source row : List Char} {marks : List (Int × Marker)}
    (hrow : row ∈ rowsWith o (splitLines source) l marks) (hc : c ∈ row) :
  isFrameChar o.colored c = true ∨ c ∈ source ∧ isTerminator c = false ∨ c ∈ o.message.toList
  := by
  revert c
  apply forall_mem_rowsFrom _ _ _ row hrow
  · intro line hline k marked c hc
    obtain hframe | hmem := isFrameChar_or_mem_of_mem_lineRow hc
    · exact .inl hframe
    · exact .inr (.inl (mem_of_exists_mem_splitLines ⟨line, mem_of_mem_slice hline, hmem⟩))
  · intro line _ k column count closing c hc
    obtain hframe | hmem := isFrameChar_or_mem_of_mem_caretRow hc
    · exact .inl hframe
    · exact .inr (.inr hmem)

/-! ### Reading rows off a frame -/

/-- The rows of a text, which are the pieces between its line ends; the empty text has none. -/
def rowsOf (cs : List Char) : List (List Char) :=
  if cs = [] then [] else splitOn '\n' cs

/-- Joined rows are read off again. -/
theorem rowsOf_join {rows : List (List Char)} (hne : [] ∉ rows) (hrows : ∀ row ∈ rows, '\n' ∉ row) :
  rowsOf (join ['\n'] rows) = rows
  := by
  cases rows with
  | nil => rfl
  | cons row rows =>
    rw [rowsOf, if_neg, splitOn_join (List.cons_ne_nil row rows) hrows]
    intro hempty
    cases rows with
    | nil =>
      rw [join] at hempty
      simp [hempty] at hne
    | cons next rows => simp [join] at hempty

/-- Without a message a frame is its rows. -/
theorem renderChars_eq_join (hmessage : o.message = "") (source : List Char) (l : Location) :
  renderChars o source l
    = join ['\n'] (rowsWith o (splitLines source) l (markers o (splitLines source) l))
  := by
  simp [renderChars, headRow, hmessage]

/-- A frame that shows some line is its rows, with the message in front of them when it has a row of its
own. -/
theorem renderChars_eq_join_of_ne_nil {source : List Char}
    (hrows : rowsWith o (splitLines source) l (markers o (splitLines source) l) ≠ []) :
  renderChars o source l
    = join ['\n'] (headRow o (splitLines source) l
        ++ rowsWith o (splitLines source) l (markers o (splitLines source) l))
  := by
  unfold renderChars headRow
  split
  · simp [join_cons hrows]
  · rfl

/-- No row of a frame is empty. -/
theorem ne_nil_of_mem_rowsWith {marks : List (Int × Marker)} :
  ∀ row ∈ rowsWith o lines l marks, row ≠ []
  := by
  apply forall_mem_rowsFrom
  · intro line _ k marked
    apply List.ne_nil_of_mem (bar_mem_lineRow k line marked)
  · intro line _ k column count closing
    apply List.cons_ne_nil

/-- No row of a frame holds a line end, unless the message does. -/
theorem lineEnd_notMem_of_mem_rowsWith (hmessage : '\n' ∉ o.message.toList) {source : List Char}
    {marks : List (Int × Marker)} :
  ∀ row ∈ rowsWith o (splitLines source) l marks, '\n' ∉ row
  := by
  intro row hrow hmem
  obtain hframe | ⟨-, hterminator⟩ | hmessage' := isFrameChar_or_mem_of_mem_rowsWith hrow hmem
  · revert hframe
    cases o.colored <;> decide
  · contradiction
  · contradiction

/-- The rows of a frame without a message are read off its text. -/
theorem rowsOf_renderChars (hmessage : o.message = "") (source : List Char) (l : Location) :
  rowsOf (renderChars o source l) = rowsWith o (splitLines source) l (markers o (splitLines source) l)
  := by
  rw [renderChars_eq_join hmessage]
  apply rowsOf_join
  · intro hempty
    apply ne_nil_of_mem_rowsWith [] hempty rfl
  · apply lineEnd_notMem_of_mem_rowsWith
    simp [hmessage]

theorem rowsOf_render (hmessage : o.message = "") (source : String) (l : Location) :
  rowsOf (render o source l).toList
    = rowsWith o (splitLines source.toList) l (markers o (splitLines source.toList) l)
  := by
  rw [render, String.toList_ofList, rowsOf_renderChars hmessage]

/-- The rows of a frame that shows some line are read off its text, for each message without a line end. -/
theorem rowsOf_render_of_ne_nil (hmessage : '\n' ∉ o.message.toList) {source : String}
    (hrows : rowsWith o (splitLines source.toList) l (markers o (splitLines source.toList) l) ≠ []) :
  rowsOf (render o source l).toList
    = headRow o (splitLines source.toList) l
      ++ rowsWith o (splitLines source.toList) l (markers o (splitLines source.toList) l)
  := by
  rw [render, String.toList_ofList, renderChars_eq_join_of_ne_nil hrows]
  have hhead : ∀ row ∈ headRow o (splitLines source.toList) l, row ≠ [] ∧ '\n' ∉ row := by
    intro row hrow
    unfold headRow at hrow
    split at hrow
    · obtain rfl := List.mem_singleton.mp hrow
      simp [List.mem_replicate, hmessage]
    · contradiction
  apply rowsOf_join
  · intro hempty
    obtain hmem | hmem := List.mem_append.mp hempty
    · apply (hhead [] hmem).1 rfl
    · apply ne_nil_of_mem_rowsWith [] hmem rfl
  · intro row hrow
    obtain hmem | hmem := List.mem_append.mp hrow
    · exact (hhead row hmem).2
    · apply lineEnd_notMem_of_mem_rowsWith hmessage row hmem

end Diagnostics.CodeFrame
