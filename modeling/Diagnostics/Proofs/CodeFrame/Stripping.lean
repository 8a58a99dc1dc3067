import Diagnostics.Proofs.Ansi.Sequences
import Diagnostics.Proofs.CodeFrame.Characters

/-!
# Stripped frames

The styling of a frame stands in front of the text of each line and is closed before it, and behind the
text the line ends; so no control sequence of a source line takes in any part of the frame, and stripping
removes all styling and treats the source lines alike in a coloured and in a plain frame
(`CodeFrame.strip_renderChars`). Attached frames are stripped to what the plain frame is stripped to
(`CodeFrame.strip_attached`).
-/

namespace Diagnostics.CodeFrame

open Text

/-- A plain frame is drawn without the escape character. -/
theorem ne_esc_of_isFrameChar {c : Char} (h : isFrameChar false c = true) :
  c ≠ Ansi.esc
  := by
  rintro rfl
  revert h
  decide

theorem esc_notMem_gutter (width : Nat) (k : Int) :
  Ansi.esc ∉ gutter width k
  := fun hmem => ne_esc_of_isFrameChar (isFrameChar_of_mem_gutter hmem) rfl

theorem esc_notMem_blankGutter (width : Nat) (k : Int) :
  Ansi.esc ∉ blankGutter width k
  := fun hmem => ne_esc_of_isFrameChar (isFrameChar_of_mem_blankGutter hmem) rfl

theorem esc_notMem_filler (line : List Char) (column : Int) :
  Ansi.esc ∉ filler line column
  := fun hmem => ne_esc_of_isFrameChar (isFrameChar_of_mem_filler hmem) rfl

theorem esc_notMem_caretRun (count : Int) :
  Ansi.esc ∉ caretRun count
  := by
  intro hmem
  have hcaret := (List.mem_replicate.mp hmem).2
  contradiction

section

variable {strip : List Char → List Char} (h : Ansi.RemovesSequences strip)
variable {o : Options} {l : Location} {k : Int} {width : Nat} {line : List Char}
include h

/-- Painting is removed, whatever stands behind it. -/
theorem strip_paint_append {colored : Bool} (s : Style) {cs : List Char} (hcs : Ansi.esc ∉ cs)
    (rest : List Char) :
  strip (paint colored s cs ++ rest) = cs ++ strip rest
  := by
  cases colored with
  | true => apply h.applyChars_append s hcs
  | false => apply h.append hcs

/-- Of the row of a line the marker, the gutter and what is left of the line remain. -/
theorem strip_lineRow (marked : Bool) :
  strip (lineRow o width k line marked)
    = (if marked then '>' else ' ') :: gutter width k ++ strip (if line.isEmpty then [] else ' ' :: line)
  := by
  have hgutter := esc_notMem_gutter width k
  cases marked with
  | true =>
    simp only [lineRow, if_true, List.append_assoc]
    rw [strip_paint_append h markerStyle (by decide), strip_paint_append h gutterStyle hgutter]
    rfl
  | false =>
    simp only [lineRow, Bool.false_eq_true, if_false, List.append_assoc]
    rw [h.append (by decide), strip_paint_append h gutterStyle hgutter]
    rfl

/-- Without a message, of a row of carets everything but the styling remains. -/
theorem strip_caretRow (hmessage : o.message = "") (column count : Int) (closing : Bool) :
  strip (caretRow o width k line column count closing)
    = ' ' :: blankGutter width k ++ ' ' :: filler line column ++ caretRun count
  := by
  have hgutter := esc_notMem_blankGutter width k
  have hfiller := esc_notMem_filler line column
  have hcarets := esc_notMem_caretRun count
  have hrow : caretRow o width k line column count closing
      = ' ' :: (paint o.colored gutterStyle (blankGutter width k)
        ++ (' ' :: filler line column ++ (paint o.colored markerStyle (caretRun count) ++ []))) := by
    simp [caretRow, hmessage]
  rw [hrow, h.cons _ _ (by decide), strip_paint_append h gutterStyle hgutter, List.cons_append,
    h.cons _ _ (by decide), h.append hfiller, strip_paint_append h markerStyle hcarets, h.nil]
  simp

/-- Stripped rows are the same whether they were coloured or not. -/
theorem map_strip_rowsFrom (hmessage : o.message = "") (marks : List (Int × Marker)) (number : Int)
    (ls : List (List Char)) :
  (rowsFrom o width l marks number ls).map strip
    = (rowsFrom { o with colored := false } width l marks number ls).map strip
  := by
  induction ls generalizing number with
  | nil => rfl
  | cons line ls ih =>
    rw [rowsFrom, rowsFrom, List.map_append, List.map_append, ih]
    congr 1
    unfold rowsOfLine
    split <;> simp [strip_lineRow h, strip_caretRow h, hmessage]

/-- A frame is stripped to the same text whether it was coloured or not. -/
theorem strip_renderChars (hmessage : o.message = "") (source : List Char) (l : Location) :
  strip (renderChars o source l) = strip (renderChars { o with colored := false } source l)
  := by
  have hplain : ({ o with colored := false } : Options).message = "" := hmessage
  rw [renderChars_eq_join hmessage, renderChars_eq_join hplain, h.join_lines, h.join_lines, rowsWith,
    map_strip_rowsFrom h hmessage]
  rfl

/-- Indented lines are stripped to the indented rest. -/
theorem strip_indent (cs : List Char) :
  strip (indent cs) = indent (strip cs)
  := by
  rw [indent, indent, h.join_lines, h.splitOn_lines, List.map_map, List.map_map]
  congr 1
  apply List.map_congr_left
  intro row _
  rw [Function.comp_apply, Function.comp_apply, h.cons _ _ (by decide), h.cons _ _ (by decide)]

end

/-! ### The escape character -/

/-- Indenting brings in no characters but blanks and line ends. -/
theorem mem_of_mem_indent {c : Char} {cs : List Char} (hblank : c ≠ ' ') (hend : c ≠ '\n')
    (h : c ∈ indent cs) :
  c ∈ cs
  := by
  obtain ⟨row, hrow, hc⟩ := (mem_join_iff (by simpa using hend)).mp h
  obtain ⟨piece, hpiece, rfl⟩ := List.mem_map.mp hrow
  apply (exists_mem_splitOn_iff hend).mp
  use piece, hpiece
  simpa [hblank] using hc

/-- A plain frame has no escape character that its source does not have. -/
theorem esc_mem_of_mem_renderChars {o : Options} (hplain : o.colored = false) (hmessage : o.message = "")
    {source : List Char} {l : Location} (h : Ansi.esc ∈ renderChars o source l) :
  Ansi.esc ∈ source
  := by
  rw [renderChars_eq_join hmessage, mem_join_iff (by decide)] at h
  obtain ⟨row, hrow, hesc⟩ := h
  obtain hframe | ⟨hsource, -⟩ | hmem := isFrameChar_or_mem_of_mem_rowsWith hrow hesc
  · rw [hplain] at hframe
    cases ne_esc_of_isFrameChar hframe rfl
  · exact hsource
  · simp [hmessage] at hmem

/-! ### Attached frames -/

/-- Where the plain frame can be drawn, so can the attached one. Without control sequences it is the plain
frame with indented rows, and for a source without the escape character it is this frame itself. Both hold of
every function that removes control sequences. A diagnostic gets the attached frame, and as its plain form
the indented plain frame without control sequences, and stays as it is in everything else. -/
theorem strip_attached {source plain : String} {l : Location} (hrender : render? {} source l = some plain) :
  ∃ frame, attached? source l = some frame
    ∧ (∀ strip, Ansi.RemovesSequences strip →
      strip frame.toList = strip (indent plain.toList)
        ∧ (Ansi.esc ∉ source.toList → strip frame.toList = indent plain.toList))
    ∧ Ansi.strip frame = Ansi.strip (String.ofList (indent plain.toList))
    ∧ (Ansi.esc ∉ source.toList → Ansi.strip frame = String.ofList (indent plain.toList))
    ∧ ∀ d : Diagnostic, d.location = some l →
      d.framedFrom source
        = .ok { d with codeFrame := some frame
                       plainFrame := some (Ansi.strip (String.ofList (indent plain.toList))) }
  := by
  unfold render? at hrender
  split_ifs at hrender with hdraw
  obtain rfl := Option.some.inj hrender
  have hattached : attached? source l = some (attached source l) := if_pos hdraw
  have hstrip : ∀ strip, Ansi.RemovesSequences strip →
      strip (attached source l).toList = strip (indent (render {} source l).toList) := by
    intro strip h
    rw [attached, render, String.toList_ofList, String.toList_ofList, attachedChars, strip_indent h,
      strip_renderChars h rfl, ← strip_indent h]
  have hesc : Ansi.esc ∉ source.toList → Ansi.esc ∉ indent (render {} source l).toList := by
    intro hsource hmem
    have hframe := mem_of_mem_indent (by decide) (by decide) hmem
    rw [render, String.toList_ofList] at hframe
    apply hsource (esc_mem_of_mem_renderChars rfl rfl hframe)
  have hplain : Ansi.strip (attached source l)
      = Ansi.strip (String.ofList (indent (render {} source l).toList)) := by
    rw [Ansi.strip, Ansi.strip, hstrip _ Ansi.removesSequences_stripChars, String.toList_ofList]
  use attached source l, hattached
  and_intros
  · intro strip h
    use hstrip strip h
    intro hsource
    rw [hstrip strip h, h.eq_of_notMem (hesc hsource)]
  · exact hplain
  · intro hsource
    rw [hplain, Ansi.strip, String.toList_ofList, Ansi.removesSequences_stripChars.eq_of_notMem (hesc hsource)]
  · intro d hd
    simp only [Diagnostic.framedFrom, hd, hattached, Diagnostic.withFrame, hplain]

/-- A source with a complete control sequence, and one that breaks off at the end of a line. -/
def escapedSample : String :=
  "\x1b[1ma\x1b[3\nb"

/-- The frames of the source are stripped to the same text, by the scan and by the removal of the narrower
class of sequences. -/
theorem strip_attached_escaped :
  ∃ plain frame, render? {} escapedSample ⟨⟨1, some 1⟩, none⟩ = some plain
    ∧ attached? escapedSample ⟨⟨1, some 1⟩, none⟩ = some frame
    ∧ Ansi.strip frame = Ansi.strip (String.ofList (indent plain.toList))
    ∧ Ansi.stripLetterSequences frame.toList = Ansi.stripLetterSequences (indent plain.toList)
  := by
  have hdraw : isDrawable {} escapedSample ⟨⟨1, some 1⟩, none⟩ = true := by decide
  have hrender : render? {} escapedSample ⟨⟨1, some 1⟩, none⟩
      = some (render {} escapedSample ⟨⟨1, some 1⟩, none⟩) := if_pos hdraw
  obtain ⟨frame, hframe, hany, hstrip, -, -⟩ := strip_attached hrender
  obtain ⟨hletters, -⟩ := hany _ Ansi.removesSequences_stripLetterSequences
  exact ⟨_, frame, hrender, hframe, hstrip, hletters⟩

end Diagnostics.CodeFrame
