import Diagnostics.Proofs.CodeFrame.Characters
import Diagnostics.Proofs.CodeFrame.Rows

/-!
# Messages in frames

A message may stand in two places: in a row of its own above the frame, when the start column is missing, and
behind the carets of the last line of the location, when this line has a row of carets. Everything else in the
frame is as it is without the message (`CodeFrame.render_places_message`). The two places are chosen
independently of each other, so that a message may also stand in both or in none of them.
-/

namespace Diagnostics.CodeFrame

open Decimal Text

variable {o : Options} {lines : List (List Char)} {l : Location}

/-! ### Rows with and without the message -/

/-- The options without the message. -/
def Options.silent (o : Options) : Options :=
  { o with message := "" }

/-- Below a line that is not the last one of its location, a row of carets has no message. -/
theorem caretRow_silent (o : Options) (width : Nat) (k : Int) (line : List Char) (column count : Int) :
  caretRow o width k line column count false = caretRow o.silent width k line column count false
  := rfl

/-- Below the last line of its location, the message stands behind the carets. -/
theorem caretRow_closing (hmessage : o.message ≠ "") (width : Nat) (k : Int) (line : List Char)
    (column count : Int) :
  caretRow o width k line column count true
    = caretRow o.silent width k line column count true
      ++ ' ' :: paint o.colored markerStyle o.message.toList
  := by
  simp [caretRow, hmessage, Options.silent]

/-- The rows of a line that is not the last one of its location are the same without the message. -/
theorem rowsAt_silent {k : Int} (hk : k ≠ messageLine l) :
  rowsAt o lines l k = rowsAt o.silent lines l k
  := by
  simp only [rowsAt, hk, decide_false, caretRow_silent o]
  rfl

/-- The carets below the last line of a location. -/
def lastCarets (o : Options) (lines : List (List Char)) (l : Location) : List Char :=
  caretRow o (numberWidth o lines l) l.lastLine (lineAt lines l.lastLine) (caretColumn l l.lastLine)
    (caretCount lines l l.lastLine) true

/-- The rows of the last line of a location that does not end before it starts. -/
theorem rowsAt_lastLine (o : Options) (lines : List (List Char)) (horder : l.start.line ≤ l.lastLine) :
  rowsAt o lines l l.lastLine
    = lineRow o (numberWidth o lines l) l.lastLine (lineAt lines l.lastLine) true
      :: if HasCarets l then [lastCarets o lines l] else []
  := by
  have hmarked : IsMarked l l.lastLine := ⟨horder, Int.le_refl _⟩
  have hclosing : l.lastLine = messageLine l := (if_pos horder).symm
  simp [rowsAt, hmarked, ← hclosing, lastCarets]

/-- The rows of a frame around those of the last line of the location, which are the same without the
message. -/
theorem exists_rowsWith_eq_append (o : Options) (hbelow : 0 ≤ o.below) (horder : l.start.line ≤ l.lastLine)
    (hshown : l.lastLine ∈ shown o l lines.length) :
  ∃ before after,
    rowsWith o lines l (markers o lines l) = before ++ rowsAt o lines l l.lastLine ++ after
    ∧ rowsWith o.silent lines l (markers o.silent lines l)
      = before ++ rowsAt o.silent lines l l.lastLine ++ after
  := by
  have hrows := rowsWith_markers_eq_flatMap lines l hbelow
  have hbelow' : 0 ≤ o.silent.below := hbelow
  have hsilent : rowsWith o.silent lines l (markers o.silent lines l)
      = (shown o l lines.length).flatMap (rowsAt o.silent lines l) :=
    rowsWith_markers_eq_flatMap lines l hbelow'
  have hother : ∀ low high, l.lastLine ∉ interval low high →
      (interval low high).flatMap (rowsAt o.silent lines l) = (interval low high).flatMap (rowsAt o lines l) := by
    intro low high hnot
    apply List.flatMap_congr
    intro k hk
    have hk' : k ≠ messageLine l := by
      unfold messageLine
      rw [if_pos horder]
      rintro rfl
      contradiction
    exact (rowsAt_silent hk').symm
  rw [shown, mem_interval] at hshown
  obtain ⟨hfirst, hlast⟩ := hshown
  have hbefore : l.lastLine ∉ interval (firstShown o l) (l.lastLine - 1) := by
    rw [mem_interval]
    omega
  have hafter : l.lastLine ∉ interval (l.lastLine + 1) (lastShown o l lines.length) := by
    rw [mem_interval]
    omega
  use (interval (firstShown o l) (l.lastLine - 1)).flatMap (rowsAt o lines l),
    (interval (l.lastLine + 1) (lastShown o l lines.length)).flatMap (rowsAt o lines l)
  rw [hrows, hsilent, shown, interval_eq_append_cons hfirst hlast]
  simp only [List.flatMap_append, List.flatMap_cons, List.append_assoc, hother _ _ hbefore, hother _ _ hafter,
    and_self]

/-! ### Frames -/

/-- The last line of a location within its source is shown. -/
theorem lastLine_mem_shown (habove : 0 ≤ o.above) (hbelow : 0 ≤ o.below) {count : Nat}
    (hfirst : 1 ≤ l.start.line) (horder : l.start.line ≤ l.lastLine) (hlast : l.lastLine ≤ count) :
  l.lastLine ∈ shown o l count
  := by
  rw [shown, mem_interval]
  unfold firstShown lastShown
  split <;> omega

/-- A message of one line is put into the frame of a location within its source in two places: above it in a row
of its own, when the start column is missing, and behind the carets below the last line of the location, when
this line has carets. Nothing else in the frame changes. So the message is shown once when the start column
is positive; when it is missing, and the line has no carets on account of an end column, it is shown once as
well, and else twice. With a start column of zero it is never above the frame, and so it is shown only when there
are carets. -/
theorem render_places_message (hmessage : o.message ≠ "") (hend : '\n' ∉ o.message.toList)
    (habove : 0 ≤ o.above) (hbelow : 0 ≤ o.below) {source : String} (hfirst : 1 ≤ l.start.line)
    (horder : l.start.line ≤ l.lastLine) (hlast : l.lastLine ≤ (splitLines source.toList).length)
    (hdraw : isDrawable o source l = true) :
  let lines := splitLines source.toList
  let width := numberWidth o lines l
  let line := lineRow o width l.lastLine (lineAt lines l.lastLine) true
  ∃ frame silent, render? o source l = some frame ∧ render? o.silent source l = some silent
    ∧ ∃ before carets after,
      rowsOf silent.toList = before ++ (line :: if HasCarets l then [carets] else []) ++ after
      ∧ rowsOf frame.toList
        = (if l.start.column = none then [List.replicate (width + 1) ' ' ++ o.message.toList] else [])
          ++ before
          ++ (line :: if HasCarets l then [carets ++ ' ' :: paint o.colored markerStyle o.message.toList] else [])
          ++ after
  := by
  intro lines width line
  have hshown : l.lastLine ∈ shown o l lines.length := lastLine_mem_shown habove hbelow hfirst horder hlast
  obtain ⟨before, after, hrows, hsilent⟩ := exists_rowsWith_eq_append o hbelow horder hshown
  rw [rowsAt_lastLine o lines horder] at hrows
  rw [rowsAt_lastLine o.silent lines horder] at hsilent
  use render o source l, render o.silent source l
  and_intros
  · rw [render?, if_pos hdraw]
  · have hdraw' : isDrawable o.silent source l = true := hdraw
    rw [render?, if_pos hdraw']
  use before, lastCarets o.silent lines l, after
  constructor
  · rw [rowsOf_render rfl]
    apply hsilent
  · have hne : rowsWith o lines l (markers o lines l) ≠ [] := by simp [hrows]
    have hhead : headRow o lines l
        = if l.start.column = none then [List.replicate (width + 1) ' ' ++ o.message.toList] else [] := by
      simp [headRow, hmessage, width]
    rw [rowsOf_render_of_ne_nil hend hne, hrows, hhead, lastCarets, caretRow_closing hmessage]
    simp only [List.append_assoc]
    rfl

/-- A location on two lines, from the second column of the first on. -/
def pairSample : Location :=
  ⟨⟨1, some 2⟩, some ⟨2, none⟩⟩

/-- The message of a location over two lines stands behind the carets below the second one. -/
theorem render_places_message_behind :
  "boom" ≠ "" ∧ '\n' ∉ "boom".toList
    ∧ isDrawable { message := "boom" } "ab\ncd\ne" pairSample = true
    ∧ ∃ frame silent, render? { message := "boom" } "ab\ncd\ne" pairSample = some frame
      ∧ render? {} "ab\ncd\ne" pairSample = some silent
      ∧ ∃ before carets after,
        rowsOf silent.toList = before ++ "> 2 | cd".toList :: [carets] ++ after
        ∧ rowsOf frame.toList = before ++ "> 2 | cd".toList :: [carets ++ " boom".toList] ++ after
  := by
  have hmessage : ({ message := "boom" } : Options).message ≠ "" := by decide
  have hend : '\n' ∉ ({ message := "boom" } : Options).message.toList := by decide
  have hdraw : isDrawable { message := "boom" } "ab\ncd\ne" pairSample = true := by decide
  obtain ⟨frame, silent, hframe, hsilent, before, carets, after, hwithout, hwith⟩ :=
    render_places_message hmessage hend (by decide) (by decide) (by decide) (by decide) (by decide) hdraw
  exact ⟨hmessage, hend, hdraw, frame, silent, hframe, hsilent, before, carets, after, hwithout, hwith⟩

/-- With a start column of zero the message is not shown at all; with a missing one and an end column it is shown
both above the frame and behind the carets. -/
theorem render_places_message_zero :
  render? { message := "boom" } "hello" ⟨⟨1, some 0⟩, none⟩ = some "> 1 | hello"
    ∧ render? { message := "boom" } "hello" ⟨⟨1, none⟩, some ⟨1, some 5⟩⟩
      = some "  boom\n> 1 | hello\n    | ^^^^^ boom"
  := by
  decide

end Diagnostics.CodeFrame
