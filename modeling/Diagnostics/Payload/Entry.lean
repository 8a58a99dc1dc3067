import Diagnostics.Diagnostic.Record

/-!
# Payload entries

What a remote client is sent about one diagnostic. `Payload.Entry.ofDiagnostic`
projects a diagnostic and `Payload.Entry.encode` gives the members of an entry, which
leaves out what is absent, since clients test for the key.
-/

namespace Diagnostics.Payload

/-- Where an entry points to. -/
structure Place where
  /-- The file, empty when there is none. -/
  file : RawText
  /-- The start line. -/
  line : Int
  /-- The start column, zero when it is not known. -/
  column : Int
deriving DecidableEq, Repr

/-- One diagnostic as clients get it. -/
structure Entry where
  message : RawText
  stack : RawText
  id : Option RawText
  frame : Option RawText
  checker : RawText
  level : Option Level
  place : Option Place
deriving DecidableEq, Repr

namespace Place

/-- The place of a diagnostic that has a location. -/
def ofLocation (id : Option RawText) (l : Location) : Place :=
  { file := id.getD "", line := l.start.line, column := l.start.column.getD 0 }

/-- The members of a place. -/
def encode (p : Place) : Json.Value :=
  .object [("file", .text p.file), ("line", .int p.line), ("column", .int p.column)]

end Place

namespace Entry

/-- The entry of a diagnostic. -/
def ofDiagnostic (d : Diagnostic) : Entry :=
  { message := d.message.getD ""
    stack := d.stackText
    id := d.id
    frame := d.plainFrame
    checker := d.checker
    level := d.level
    place := d.location.map (Place.ofLocation d.id) }

/-- The members of an entry, in their fixed order. -/
def encode (e : Entry) : Json.Members :=
  Members.present
    [("message", some (.text e.message)),
     ("stack", some (.text e.stack)),
     ("id", e.id.map .text),
     ("frame", e.frame.map .text),
     ("checkerId", some (.text e.checker)),
     ("level", e.level.map fun l => .int l.number),
     ("loc", e.place.map Place.encode)]

end Entry

end Diagnostics.Payload
