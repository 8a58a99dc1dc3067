import Diagnostics.Ansi
import Diagnostics.Decimal.Numeral
import Diagnostics.Diagnostic.Basic
import Diagnostics.Text.Lines

/-!
# Code frames

A code frame shows the source lines around a location. Each line stands behind a
gutter with its number; the lines of the location are marked with `>`, and a row of
carets under a marked line points at the marked columns:

```text
  1 | const a = 1
> 2 | const b = a +;
    |              ^
  3 | export { b }
```

`CodeFrame.render` composes the frame from its rows, `CodeFrame.attached` is the
coloured and indented form that diagnostics carry. Positions are not validated, so a frame
may ask for more carets than a text can have; `CodeFrame.isDrawable` rules that out.
-/

namespace Diagnostics.CodeFrame

open Decimal Text

/-- How a frame is cut out and drawn. -/
structure Options where
  /-- The lines shown above the location. -/
  above : Int := 2
  /-- The lines shown below it. -/
  below : Int := 3
  /-- A remark at the last caret row, or above the frame when there is no column. -/
  message : String := ""
  /-- Gutters and markers are coloured. -/
  colored : Bool := false

/-- How one line is marked. -/
inductive Marker
  /-- With `>` alone. -/
  | whole
  /-- Also with `count` carets from `column` on; a count of zero stands for one caret. -/
  | carets (column count : Int)
deriving DecidableEq, Repr

/-- The style of the gutters. -/
def gutterStyle : Style :=
  { foreground := some .brightBlack }

/-- The style of the markers. -/
def markerStyle : Style :=
  { foreground := some .red, bold := true }

/-- The text in a style when colour is on. -/
def paint (colored : Bool) (s : Style) (cs : List Char) : List Char :=
  if colored then s.applyChars cs else cs

/-! ### The window -/

/-- The count of lines in front of the window. -/
def windowStart (o : Options) (l : Location) : Int :=
  max (l.start.line - (o.above + 1)) 0

/-- The number of the last line of the window, which may also lie before the source. -/
def windowEnd (o : Options) (l : Location) (count : Nat) : Int :=
  min count (l.lastLine + o.below)

/-- The lines from `start` up to `stop`; a negative `stop` counts from the end of the list. -/
def slice (start stop : Int) (lines : List (List Char)) : List (List Char) :=
  let stop := if stop < 0 then max (stop + lines.length) 0 else stop
  (lines.take stop.toNat).drop start.toNat

/-! ### The markers -/

/-- The start column; one that is missing counts as zero. -/
def startColumn (l : Location) : Int :=
  l.start.column.getD 0

/-- The end column; one that is missing is the start column. -/
def endColumn (l : Location) : Int :=
  (l.stop.bind Position.column).getD (startColumn l)

/-- The length of the line with a number, zero outside of the source. -/
def lineLength (lines : List (List Char)) (number : Int) : Int :=
  if number < 1 then 0 else ((lines[(number - 1).toNat]?).map List.length).getD 0

/-- The marker of a line of a location over several lines: from the start column to the end of the
first line, up to the end column of the last, and whole lines between. -/
def rangeMarker (lines : List (List Char)) (l : Location) (number : Int) : Marker :=
  if startColumn l = 0 then .whole
  else if number = l.start.line then
    .carets (startColumn l) (lineLength lines number - startColumn l + 1)
  else if number = l.lastLine then .carets 0 (endColumn l)
  else .carets 0 (lineLength lines number)

/-- The marker of a location on one line. -/
def pointMarker (l : Location) : Marker :=
  if startColumn l = endColumn l then
    if startColumn l = 0 then .whole else .carets (startColumn l) 0
  else .carets (startColumn l) (endColumn l - startColumn l)

/-- The integers from `low` to `high`, both included. -/
def interval (low high : Int) : List Int :=
  (List.range (high + 1 - low).toNat).map fun (i : Nat) => low + (i : Int)

/-- The marked lines with their markers. Of a location over several lines only those are listed
that lie in the window, so there are no more of them than the source has lines. -/
def markers (o : Options) (lines : List (List Char)) (l : Location) : List (Int × Marker) :=
  if l.lastLine = l.start.line then [(l.start.line, pointMarker l)]
  else
    (interval (max l.start.line (windowStart o l + 1)) (min l.lastLine (windowEnd o l lines.length))).map
      fun number => (number, rangeMarker lines l number)

/-- The line whose caret row carries the message: the last one of the location, and none of a
reversed location. -/
def messageLine (l : Location) : Int :=
  if l.start.line ≤ l.lastLine then l.lastLine else -1

/-! ### The rows -/

/-- The spelling of a number filled up with blanks in front. -/
def padNumber (width : Nat) (number : Int) : List Char :=
  let cs := numeralChars number
  List.replicate (width - cs.length) ' ' ++ cs

/-- The gutter of a line. -/
def gutter (width : Nat) (number : Int) : List Char :=
  ' ' :: padNumber width number ++ [' ', '|']

/-- The gutter with its digits blanked. -/
def blankGutter (width : Nat) (number : Int) : List Char :=
  (gutter width number).map fun c => if c.isDigit then ' ' else c

/-- What stands under a line before its first caret: a tab under a tab, so that the carets line up,
and a blank under anything else. -/
def filler (line : List Char) (column : Int) : List Char :=
  (line.take (column - 1).toNat).map fun c => if c = '\t' then '\t' else ' '

/-- The carets for a count. -/
def caretRun (count : Int) : List Char :=
  List.replicate (if count = 0 then 1 else count.toNat) '^'

/-- The row of carets under a line. -/
def caretRow (o : Options) (width : Nat) (number : Int) (line : List Char) (column count : Int)
    (closing : Bool) : List Char :=
  ' ' :: paint o.colored gutterStyle (blankGutter width number) ++ ' ' :: filler line column
    ++ paint o.colored markerStyle (caretRun count)
    ++ (if closing && o.message ≠ "" then ' ' :: paint o.colored markerStyle o.message.toList else [])

/-- The row of a line itself, with `>` or a blank in front. -/
def lineRow (o : Options) (width : Nat) (number : Int) (line : List Char) (marked : Bool) : List Char :=
  (if marked then paint o.colored markerStyle ['>'] else [' '])
    ++ paint o.colored gutterStyle (gutter width number)
    ++ (if line.isEmpty then [] else ' ' :: line)

/-- The rows of one line of the window: the line, and the carets when its marker has some. -/
def rowsOfLine (o : Options) (width : Nat) (l : Location) (marks : List (Int × Marker)) (number : Int)
    (line : List Char) : List (List Char) :=
  match marks.lookup number with
  | none => [lineRow o width number line false]
  | some .whole => [lineRow o width number line true]
  | some (.carets column count) =>
    [lineRow o width number line true, caretRow o width number line column count (number = messageLine l)]

/-- The rows of lines that are numbered from `number` on. -/
def rowsFrom (o : Options) (width : Nat) (l : Location) (marks : List (Int × Marker)) :
    Int → List (List Char) → List (List Char)
  | _, [] => []
  | number, line :: rest =>
    rowsOfLine o width l marks number line ++ rowsFrom o width l marks (number + 1) rest

/-- The width of the widest line number of the window. -/
def numberWidth (o : Options) (lines : List (List Char)) (l : Location) : Nat :=
  (numeralChars (windowEnd o l lines.length)).length

/-- The rows of a frame over the lines of a source, for given markers. -/
def rowsWith (o : Options) (lines : List (List Char)) (l : Location) (marks : List (Int × Marker)) :
    List (List Char) :=
  rowsFrom o (numberWidth o lines l) l marks (windowStart o l + 1)
    (slice (windowStart o l) (windowEnd o l lines.length) lines)

/-- The message as a row above a frame whose location has no start column. -/
def headRow (o : Options) (lines : List (List Char)) (l : Location) : List (List Char) :=
  if o.message ≠ "" && l.start.column.isNone then
    [List.replicate (numberWidth o lines l + 1) ' ' ++ o.message.toList]
  else []

/-- The characters of a frame. -/
def renderChars (o : Options) (source : List Char) (l : Location) : List Char :=
  let lines := splitLines source
  let body := join ['\n'] (rowsWith o lines l (markers o lines l))
  (headRow o lines l).foldr (fun row rest => row ++ '\n' :: rest) body

/-- The frame of a location in a source. -/
def render (o : Options) (source : String) (l : Location) : String :=
  String.ofList (renderChars o source.toList l)

/-! ### Frames that can be drawn -/

/-- The marker can be drawn: its count of carets, which may be any integer, is one of 64 bits. -/
def Marker.isDrawable : Marker → Bool
  | .whole => true
  | .carets _ count => -0x8000000000000000 ≤ count && count < 0x8000000000000000

/-- The numbers of the lines that a frame shows. -/
def shownNumbers (o : Options) (lines : List (List Char)) (l : Location) : List Int :=
  let shown := slice (windowStart o l) (windowEnd o l lines.length) lines
  (List.range shown.length).map fun (i : Nat) => windowStart o l + 1 + (i : Int)

/-- The frame can be drawn: the markers of all lines that it shows can. -/
def isDrawable (o : Options) (source : String) (l : Location) : Bool :=
  let lines := splitLines source.toList
  let marks := markers o lines l
  (shownNumbers o lines l).all fun number => ((marks.lookup number).map Marker.isDrawable).getD true

/-- The frame of a location in a source, when it can be drawn. -/
def render? (o : Options) (source : String) (l : Location) : Option String :=
  if isDrawable o source l then some (render o source l) else none

/-! ### Attached frames -/

/-- Text with two blanks in front of every line. -/
def indent (cs : List Char) : List Char :=
  join ['\n'] ((splitOn '\n' cs).map fun row => ' ' :: ' ' :: row)

/-- The characters of the frame that diagnostics carry. -/
def attachedChars (source : List Char) (l : Location) : List Char :=
  indent (renderChars { colored := true } source l)

/-- The frame that diagnostics carry: always coloured, since styling is stripped where it is not
wanted, and indented by two blanks. -/
def attached (source : String) (l : Location) : String :=
  String.ofList (attachedChars source.toList l)

/-- The frame that diagnostics carry, when it can be drawn. -/
def attached? (source : String) (l : Location) : Option String :=
  if isDrawable { colored := true } source l then some (attached source l) else none

end CodeFrame

/-- Why a diagnostic gets no frame. -/
inductive FrameFault
  /-- It has no location. -/
  | noLocation
  /-- The frame cannot be drawn. -/
  | tooManyCarets
deriving DecidableEq, Repr

namespace Diagnostic

/-- The diagnostic with a frame and its plain form. -/
def withFrame (frame : String) (d : Diagnostic) : Diagnostic :=
  { d with codeFrame := some frame, plainFrame := some (Ansi.strip frame) }

/-- The diagnostic with a frame built from the source that it is about. -/
def framedFrom (source : String) (d : Diagnostic) : Except FrameFault Diagnostic :=
  match d.location with
  | none => .error .noLocation
  | some l =>
    match CodeFrame.attached? source l with
    | none => .error .tooManyCarets
    | some frame => .ok (d.withFrame frame)

end Diagnostic

end Diagnostics
