import Diagnostics.Value

/-!
# Source locations

A location is a start position, which may be followed by an end. Lines and columns
count from one but are not validated, so they are any integers; a column may be
unknown. `Location.ofOffsets` turns positions that count from zero into such ones,
and `Location.decode` and `Location.encode` are the form in documents.
-/

namespace Diagnostics

/-- A line and perhaps a column, both counted from one. -/
structure Position where
  line : Int
  column : Option Int := none
deriving DecidableEq, Repr

/-- The place of a diagnostic in its source; without an end it is the start point. -/
structure Location where
  start : Position
  stop : Option Position := none
deriving DecidableEq, Repr

/-- A line and a character, both counted from zero. -/
structure Offset where
  line : Int
  character : Int
deriving DecidableEq, Repr

namespace Position

/-- The position of an offset: both counts are one more. -/
def ofOffset (o : Offset) : Position :=
  { line := o.line + 1, column := some (o.character + 1) }

/-- The integer that a line number is given as; a truth value counts as zero or one. -/
def lineOf? : Json.Value → Option Int
  | .int i => some i
  | .bool b => some (if b then 1 else 0)
  | _ => none

/-- The column that a value gives; anything but an integer leaves it unknown. -/
def columnOf? : Json.Value → Option Int
  | .int i => some i
  | _ => none

/-- The position that an object with a line gives. -/
def decode? : Json.Value → Option Position
  | .object members =>
    ((Members.get? ↑"line" members).bind lineOf?).map fun line =>
      { line, column := (Members.get? ↑"column" members).bind columnOf? }
  | _ => none

/-- The members of a position. -/
def encode (p : Position) : Json.Value :=
  .object (Members.present [("line", some (.int p.line)), ("column", p.column.map .int)])

end Position

namespace Location

/-- The location between two offsets. -/
def ofOffsets (start stop : Offset) : Location :=
  { start := .ofOffset start, stop := some (.ofOffset stop) }

/-- The location that the members of an object give, when they have a start with a line. An end
without a line is dropped. -/
def decode? (members : Json.Members) : Option Location :=
  ((Members.get? ↑"start" members).bind Position.decode?).map fun start =>
    { start, stop := (Members.get? ↑"end" members).bind Position.decode? }

/-- The members of a location. -/
def encode (l : Location) : Json.Value :=
  .object (Members.present [("start", some l.start.encode), ("end", l.stop.map Position.encode)])

/-- The line of the end, which is the start without one. -/
def lastLine (l : Location) : Int :=
  (l.stop.getD l.start).line

end Location

end Diagnostics
