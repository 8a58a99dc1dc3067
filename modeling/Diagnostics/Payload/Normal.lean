import Diagnostics.Payload.Key

/-!
# Normal payloads

`Tree.normal` brings a payload into the plain values that JSON can hold: tuples and
sets become lists, the keys of maps become texts, and a record becomes the object that
documents or clients know it by.
-/

namespace Diagnostics.Payload.Tree

mutual

/-- The plain value of a tree. Where two keys of a map become the same text, the first place and the
last value remain. -/
def normal : Tree → Json.Value
  | .null => .null
  | .bool b => .bool b
  | .int i => .int i
  | .float x => .float x
  | .text s => .text s
  | .path p => .text p.text
  | .level l => .int l.number
  | .color m => .text m.name
  | .constant c => c.value.plain
  | .list items | .tuple items | .set items => .list (normalItems items)
  | .map pairs => .object (Members.ofWritten (normalPairs pairs))
  | .entry e => .object e.encode
  | .place p => p.encode
  | .diagnostic d => .object d.encode
  | .location l => l.encode
  | .position p => p.encode

/-- The plain values of the items of a container. -/
def normalItems : List Tree → List Json.Value
  | [] => []
  | t :: ts => normal t :: normalItems ts

/-- The pairs of a map with their keys as texts, in their order. -/
def normalPairs : List (Tree × Tree) → Json.Members
  | [] => []
  | (key, t) :: ps => (keyText key, normal t) :: normalPairs ps

end

end Diagnostics.Payload.Tree
