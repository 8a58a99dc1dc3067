import Diagnostics.Template.Conversion

/-!
# Filling templates

`Template.fill` puts values into a template: the directives take the values of a list in
their order, or ask for those of a table by name. A table in which no name is asked for
is a single value.
-/

namespace Diagnostics.Template

/-- The values that a template is filled with, and those that are still to be taken. -/
inductive Supply
  /-- The values of a list that are left. -/
  | list (rest : List (Value String))
  /-- The values of a table; `next` is the one that was asked for by name. -/
  | table (members : Members String) (next : Option (Value String))

namespace Supply

/-- The values of a table, which is itself the first value. -/
def ofMembers (members : Members String) : Supply :=
  .table members (some (.object members))

/-- Takes the next value. -/
def take : Supply → Except Fault (Value String × Supply)
  | .list (v :: rest) => .ok (v, .list rest)
  | .table members (some v) => .ok (v, .table members none)
  | .list [] | .table _ none => .error .tooFewValues

/-- Asks for the value of a name. -/
def ask (name : Option String) (s : Supply) : Except Fault Supply :=
  match name, s with
  | none, s => .ok s
  | some _, .list _ => .error .noNames
  | some name, .table members _ =>
    match Members.get? name members with
    | some v => .ok (.table members (some v))
    | none => .error (.unknownName name)

/-- Takes a size that is given as a value. -/
def takeSize (s : Supply) : Except Fault (Int × Supply) :=
  s.take.bind fun taken =>
    match taken.1 with
    | .int i => .ok (i, taken.2)
    | .bool b => .ok (if b then 1 else 0, taken.2)
    | _ => .error .badSize

end Supply

/-- The shape with the width of a directive. A negative width among the values asks for a field that
is filled up behind the value. -/
def withWidth (d : Directive) (s : Supply) (shape : Shape) : Except Fault (Shape × Supply) :=
  match d.width with
  | none => .ok (shape, s)
  | some (.number n) => if maxWidth < n then .error .widthTooBig else .ok ({ shape with width := n }, s)
  | some .given =>
    s.takeSize.bind fun taken =>
      let width := taken.1
      if maxWidth < width.natAbs then .error .widthOverflow
      else
        let flags := if width < 0 then { shape.flags with left := true } else shape.flags
        .ok ({ shape with width := width.natAbs, flags }, taken.2)

/-- The shape with the precision of a directive. A negative precision among the values is zero. -/
def withPrecision (d : Directive) (s : Supply) (shape : Shape) : Except Fault (Shape × Supply) :=
  match d.precision with
  | none => .ok (shape, s)
  | some (.number n) =>
    if maxPrecision < n then .error .precisionTooBig else .ok ({ shape with precision := some n }, s)
  | some .given =>
    s.takeSize.bind fun taken =>
      let precision := taken.1
      if (maxPrecision : Int) < precision || precision < -(maxPrecision : Int) - 1 then
        .error .precisionOverflow
      else .ok ({ shape with precision := some precision.toNat }, taken.2)

/-- Fills one directive. Its parts are looked at from the left, so that the first fault shows. -/
def Directive.fill (d : Directive) (s : Supply) : Except Fault (List Char × Supply) := do
  let s ← s.ask d.key
  let (shape, s) ← withWidth d s { flags := d.flags }
  let (shape, s) ← withPrecision d s shape
  match d.conversion with
  | none => .error .incomplete
  | some c =>
    let (v, s) ← s.take
    let shown ← c.render shape v
    return (shown, s)

/-- Fills the pieces of a template. All values of a list have to be taken. -/
def fillPieces : Supply → List Piece → Except Fault (List Char)
  | .list (_ :: _), [] => .error .tooManyValues
  | _, [] => .ok []
  | s, .char c :: ps => (fillPieces s ps).map (c :: ·)
  | s, .directive d :: ps => do
    let (shown, s) ← d.fill s
    let rest ← fillPieces s ps
    return shown ++ rest
  | .list _, .openKey :: _ => .error .noNames
  | .table _ _, .openKey :: _ => .error .openKey

/-- Fills the template that a text spells. -/
def fill (template : String) (s : Supply) : Except Fault String :=
  (fillPieces s (ofText template)).map String.ofList

end Diagnostics.Template
