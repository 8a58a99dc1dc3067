import Diagnostics.Text.Quoted
import Diagnostics.Text.Lines

/-!
# Switches and arguments

`Switch` is an option of a command. `parse` reads the arguments of a command into the
uses of its switches and the arguments that are left; the first argument that does not
fit is the fault.
-/

namespace Diagnostics.CommandLine

open Text

/-- What a switch is about. -/
inductive Key
  | help
  | verbose
  | quiet
  | color
  | noColor
  | config
  | level
  | terminal
  | overlay
  | frames
  | indent
  | format
  | pyproject
deriving DecidableEq, Repr

/-- How a switch is written. -/
inductive Shape
  | flag
  /-- A flag with another name that switches off. -/
  | toggle (off : String)
  /-- A switch with a value, as help texts call it. -/
  | value (kind : String)
deriving DecidableEq, Repr

/-- An option of a command. -/
structure Switch where
  key : Key
  /-- The letter of the short form; switches with a value have none. -/
  letter : Option Char := none
  /-- The long name with its dashes. -/
  name : String
  shape : Shape := .flag
  /-- What help texts say about it. -/
  about : String
deriving DecidableEq, Repr

/-- One use of a switch. -/
structure Use where
  key : Key
  /-- The switch is switched on by it. -/
  on : Bool := true
  /-- The value that is given, empty for flags. -/
  value : String := ""
deriving DecidableEq, Repr

/-- What is wrong with an argument. -/
inductive ArgumentFault
  | unknown (name : String)
  | needsValue (name : String)
  | takesNoValue (name : String)
deriving DecidableEq, Repr

/-- What an argument is. -/
inductive Argument
  /-- Not a switch. -/
  | plain
  /-- The end of the switches. -/
  | ending
  | uses (us : List Use)
  /-- A switch whose value is the next argument. -/
  | wants (key : Key) (name : String)
  | fault (f : ArgumentFault)
deriving DecidableEq, Repr

namespace Argument

/-- The switch with a long name, and whether the name switches it on. -/
def named? (switches : List Switch) (name : String) : Option (Switch × Bool) :=
  switches.findSome? fun s =>
    if s.name = name then some (s, true)
    else if s.shape = .toggle name then some (s, false)
    else none

/-- Reads a long switch, perhaps with a value behind an equals sign. -/
def ofLong (switches : List Switch) (name : String) (value : Option String) : Argument :=
  match named? switches name with
  | none => .fault (.unknown name)
  | some (s, on) =>
    match s.shape, value with
    | .value _, some v => .uses [{ key := s.key, value := v }]
    | .value _, none => .wants s.key name
    | _, some _ => .fault (.takesNoValue name)
    | _, none => .uses [{ key := s.key, on }]

/-- Reads the letters of short switches. -/
def ofLetters (switches : List Switch) : List Char → Except ArgumentFault (List Use)
  | [] => .ok []
  | c :: cs =>
    match switches.find? fun s => s.letter = some c with
    | none => .error (.unknown (String.ofList ['-', c]))
    | some s => (ofLetters switches cs).map ({ key := s.key } :: ·)

/-- The parts before and behind the first equals sign. -/
def atEquals (cs : List Char) : String × Option String :=
  match cs.span (· ≠ '=') with
  | (name, _ :: value) => (String.ofList name, some (String.ofList value))
  | (name, []) => (String.ofList name, none)

/-- Reads an argument. -/
def ofText (switches : List Switch) (s : String) : Argument :=
  match s.toList with
  | ['-', '-'] => .ending
  | '-' :: '-' :: rest =>
    let (name, value) := atEquals ('-' :: '-' :: rest)
    ofLong switches name value
  | '-' :: c :: cs =>
    match ofLetters switches (c :: cs) with
    | .ok us => .uses us
    | .error f => .fault f
  | _ => .plain

end Argument

/-- The arguments of a command, taken apart. -/
structure Arguments where
  uses : List Use := []
  rest : List String := []
deriving DecidableEq, Repr

namespace Arguments

/-- The arguments with further uses in front. -/
def withUses (us : List Use) (a : Arguments) : Arguments :=
  { a with uses := us ++ a.uses }

/-- Reads the arguments of a command. Unless switches may stand behind other arguments, the first
other argument ends them. -/
def parse (switches : List Switch) (anywhere : Bool) : List String → Except ArgumentFault Arguments
  | [] => .ok {}
  | s :: ss =>
    match Argument.ofText switches s with
    | .ending => .ok { rest := ss }
    | .fault f => .error f
    | .uses us => (parse switches anywhere ss).map (withUses us)
    | .plain =>
      if anywhere then (parse switches anywhere ss).map fun a => { a with rest := s :: a.rest }
      else .ok { rest := s :: ss }
    | .wants key name =>
      match ss with
      | [] => .error (.needsValue name)
      | value :: more => (parse switches anywhere more).map (withUses [{ key, value }])

/-- The values of a switch, in their order. -/
def values (a : Arguments) (key : Key) : List String :=
  (a.uses.filter fun u => u.key = key).map Use.value

/-- The last use of a switch. -/
def last? (a : Arguments) (key : Key) : Option Use :=
  (a.uses.filter fun u => u.key = key).getLast?

/-- How often a switch is used. -/
def count (a : Arguments) (key : Key) : Nat :=
  a.uses.countP fun u => u.key = key

/-- The switch is used. -/
def has (a : Arguments) (key : Key) : Bool :=
  a.uses.any fun u => u.key = key

/-- The keys in the order of their first use. -/
def keys (a : Arguments) : List Key :=
  (a.uses.map Use.key).eraseDups

end Arguments

end Diagnostics.CommandLine
