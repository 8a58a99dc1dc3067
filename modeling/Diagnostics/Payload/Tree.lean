import Diagnostics.Files.Path
import Diagnostics.Payload.Entry
import Diagnostics.Settings.ColorMode

/-!
# Payload trees

A payload may hold more than plain values: paths, levels, colour modes and members of
other enumerations, tuples, sets, maps with keys of any kind, and whole records.
`Payload.Tree` is such a payload, and `Tree.ofValue` is the tree of a plain value.
Members of enumerations that stand for containers, paths or other members are not among
these payloads: such a member would be replaced by what it stands for as it is.
-/

namespace Diagnostics

open Decimal

namespace Payload

/-- What a member of an enumeration stands for. -/
inductive ConstantValue
  | null
  | bool (b : Bool)
  | int (i : Int)
  | float (x : Binary64)
  | text (s : String)
deriving DecidableEq, Repr

/-- The plain value that a member of an enumeration stands for. -/
def ConstantValue.plain : ConstantValue → Json.Value
  | .null => .null
  | .bool b => .bool b
  | .int i => .int i
  | .float x => .float x
  | .text s => .text s

/-- A member of an enumeration whose members stand for single values. -/
structure Constant where
  /-- The name of the enumeration. -/
  kind : String
  name : String
  value : ConstantValue
  /-- The member is its value too, as one of an enumeration of integers is. -/
  isValue : Bool
  /-- The member as a text. -/
  text : String
deriving DecidableEq, Repr

/-- What a payload may be made of. -/
inductive Tree
  | null
  | bool (b : Bool)
  | int (i : Int)
  | float (x : Binary64)
  | text (s : RawText)
  | path (p : Path)
  | level (l : Level)
  | color (m : ColorMode)
  | constant (c : Constant)
  | list (items : List Tree)
  | tuple (items : List Tree)
  | set (items : List Tree)
  | map (pairs : List (Tree × Tree))
  | entry (e : Entry)
  | place (p : Place)
  | diagnostic (d : Diagnostic)
  | location (l : Location)
  | position (p : Position)
deriving BEq

namespace Tree

mutual

/-- A plain value as a tree. -/
def ofValue : Json.Value → Tree
  | .null => .null
  | .bool b => .bool b
  | .int i => .int i
  | .float x => .float x
  | .text s => .text s
  | .list items => .list (ofValues items)
  | .object members => .map (ofMembers members)

/-- Plain values as trees. -/
def ofValues : List Json.Value → List Tree
  | [] => []
  | v :: vs => ofValue v :: ofValues vs

/-- The members of an object as pairs of a map. -/
def ofMembers : Json.Members → List (Tree × Tree)
  | [] => []
  | (key, v) :: ms => (.text key, ofValue v) :: ofMembers ms

end

/-! ### Sameness -/

/-- The integer that a double is equal to, when it is whole. -/
def wholeOf? (x : Binary64) : Option Int :=
  if !x.isFinite then none
  else
    let (m, q) := x.significand
    let size : Option Nat :=
      if 1074 ≤ q then some (m * Nat.pow 2 (q - 1074))
      else if m % Nat.pow 2 (1074 - q) = 0 then some (m / Nat.pow 2 (1074 - q))
      else none
    size.map fun n => if x.isNegative then -(n : Int) else n

/-- The form in which single values are compared: truth values and whole doubles are numbers. -/
def comparableValue : ConstantValue → Tree
  | .null => .null
  | .bool b => .int (if b then 1 else 0)
  | .int i => .int i
  | .float x =>
    match wholeOf? x with
    | some i => .int i
    | none => .float x
  | .text s => .text s

/-- The form in which members of a set and keys of a map are compared: a level is its number, a colour
mode is its name, and a member of another enumeration is its value if it is that too. -/
def comparable : Tree → Tree
  | .bool b => comparableValue (.bool b)
  | .float x => comparableValue (.float x)
  | .level l => .int l.number
  | .color m => .text m.name
  | .constant c => if c.isValue then comparableValue c.value else .constant c
  | t => t

mutual

/-- The two trees are the same member of a set or the same key of a map. -/
def isSame : Tree → Tree → Bool
  | .tuple ts, .tuple us => areSame ts us
  | .set ts, .set us => ts.length == us.length && areAmong ts us
  | t, u => comparable t == comparable u

/-- The trees of two lists are the same, one by one. -/
def areSame : List Tree → List Tree → Bool
  | [], [] => true
  | t :: ts, u :: us => isSame t u && areSame ts us
  | _, _ => false

/-- Every tree of the first list is the same as one of the second. -/
def areAmong : List Tree → List Tree → Bool
  | [], _ => true
  | t :: ts, us => us.any (fun u => isSame t u) && areAmong ts us

end

/-- The members without those that are the same as an earlier one. -/
def distinct : List Tree → List Tree :=
  List.foldl (fun seen t => if seen.any (isSame t) then seen else seen ++ [t]) []

/-- A key given again keeps its first place and spelling and takes the new value. -/
def insert (key t : Tree) : List (Tree × Tree) → List (Tree × Tree)
  | [] => [(key, t)]
  | p :: ps => if isSame key p.1 then (p.1, t) :: ps else p :: insert key t ps

/-- The set with the given members. -/
def ofMembersOfSet (items : List Tree) : Tree :=
  .set (distinct items)

/-- The map with the given pairs, written one after the other. -/
def ofPairs (pairs : List (Tree × Tree)) : Tree :=
  .map (pairs.foldl (fun ps p => insert p.1 p.2 ps) [])

end Tree

end Payload

end Diagnostics
