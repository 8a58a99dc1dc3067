/-!
# Templates

A template is a text with directives in it. A directive starts with a percent sign and
says which value is shown in its place and how: `%(name)s` shows the value of a name,
`%5d` the next value as an integer in a field five wide. `Template.ofText` reads a
template. Reading never fails: a directive that the text breaks off is kept as far as
it goes, and its fault shows when it is filled.
-/

namespace Diagnostics.Template

/-- The flags of a directive. -/
structure Flags where
  /-- The field is filled up behind the value. -/
  left : Bool := false
  /-- Numbers that are not negative have a plus sign. -/
  plus : Bool := false
  /-- Numbers that are not negative have a blank in the place of the sign. -/
  blank : Bool := false
  /-- Numbers are written in the form that shows more of them. -/
  full : Bool := false
  /-- Numbers are filled up with zeros. -/
  zero : Bool := false
deriving DecidableEq, Repr

/-- The flags with the one of a character, if it has one. -/
def Flags.add? (f : Flags) : Char → Option Flags
  | '-' => some { f with left := true }
  | '+' => some { f with plus := true }
  | ' ' => some { f with blank := true }
  | '#' => some { f with full := true }
  | '0' => some { f with zero := true }
  | _ => none

/-- A width or a precision. -/
inductive Size
  | number (n : Nat)
  /-- It is the next value. -/
  | given
deriving DecidableEq, Repr

/-- The character that says how a value is shown, with its place in the template. -/
structure Conversion where
  letter : Char
  index : Nat
deriving DecidableEq, Repr

/-- A place in a template where a value is shown. -/
structure Directive where
  /-- The name of the value. -/
  key : Option String := none
  flags : Flags := {}
  width : Option Size := none
  precision : Option Size := none
  /-- How the value is shown; nothing when the template ends before. -/
  conversion : Option Conversion := none
deriving DecidableEq, Repr

/-- A part of a template. -/
inductive Piece
  | char (c : Char)
  | directive (d : Directive)
  /-- The template ends within the name of a value. -/
  | openKey
deriving DecidableEq, Repr

/-- What the reader of a template expects. -/
inductive Phase
  | text
  /-- Behind a percent sign. -/
  | start
  /-- Within a name, with the parentheses that are open and the characters so far, the last
  first. -/
  | key (depth : Nat) (name : List Char)
  | flags (d : Directive)
  | width (d : Directive) (n : Nat)
  | widthGiven (d : Directive)
  | point (d : Directive)
  | precision (d : Directive) (n : Nat)
  | precisionGiven (d : Directive)
  /-- Behind a mark of length. -/
  | length (d : Directive)

/-- The value of an ordinary digit. -/
def digit? (c : Char) : Option Nat :=
  if '0' ≤ c && c ≤ '9' then some (c.toNat - '0'.toNat) else none

/-- Reads the character that ends a directive. -/
def readConversion (index : Nat) (c : Char) (d : Directive) : List Piece × Phase :=
  ([.directive { d with conversion := some ⟨c, index⟩ }], .text)

/-- Reads a mark of length, which says nothing, or the end of a directive. -/
def readLength (index : Nat) (c : Char) (d : Directive) : List Piece × Phase :=
  if c == 'h' || c == 'l' || c == 'L' then ([], .length d) else readConversion index c d

/-- Reads what follows a width. -/
def readPoint (index : Nat) (c : Char) (d : Directive) : List Piece × Phase :=
  if c == '.' then ([], .point d) else readLength index c d

/-- Reads what follows flags. -/
def readWidth (index : Nat) (c : Char) (d : Directive) : List Piece × Phase :=
  if c == '*' then ([], .widthGiven d)
  else
    match digit? c with
    | some n => ([], .width d n)
    | none => readPoint index c d

/-- Reads a flag, or what follows flags. -/
def readFlags (index : Nat) (c : Char) (d : Directive) : List Piece × Phase :=
  match d.flags.add? c with
  | some flags => ([], .flags { d with flags })
  | none => readWidth index c d

/-- Reads one character. -/
def Phase.read (index : Nat) (c : Char) : Phase → List Piece × Phase
  | .text => if c == '%' then ([], .start) else ([.char c], .text)
  | .start =>
    if c == '%' then ([.char '%'], .text)
    else if c == '(' then ([], .key 0 [])
    else readFlags index c {}
  | .key depth name =>
    if c == '(' then ([], .key (depth + 1) (c :: name))
    else if c == ')' then
      match depth with
      | 0 => ([], .flags { key := some (String.ofList name.reverse) })
      | depth + 1 => ([], .key depth (c :: name))
    else ([], .key depth (c :: name))
  | .flags d => readFlags index c d
  | .width d n =>
    match digit? c with
    | some k => ([], .width d (10 * n + k))
    | none => readPoint index c { d with width := some (.number n) }
  | .widthGiven d => readPoint index c { d with width := some .given }
  | .point d =>
    if c == '*' then ([], .precisionGiven d)
    else
      match digit? c with
      | some n => ([], .precision d n)
      | none => readLength index c { d with precision := some (.number 0) }
  | .precision d n =>
    match digit? c with
    | some k => ([], .precision d (10 * n + k))
    | none => readLength index c { d with precision := some (.number n) }
  | .precisionGiven d => readLength index c { d with precision := some .given }
  | .length d => readConversion index c d

/-- What is left when the template ends. -/
def Phase.rest : Phase → List Piece
  | .text => []
  | .start => [.directive {}]
  | .key _ _ => [.openKey]
  | .flags d => [.directive d]
  | .width d n => [.directive { d with width := some (.number n) }]
  | .widthGiven d => [.directive { d with width := some .given }]
  | .point d => [.directive d]
  | .precision d n => [.directive { d with precision := some (.number n) }]
  | .precisionGiven d => [.directive { d with precision := some .given }]
  | .length d => [.directive d]

/-- Reads the characters from a place on. -/
def readFrom (index : Nat) (phase : Phase) : List Char → List Piece
  | [] => phase.rest
  | c :: cs =>
    let step := phase.read index c
    step.1 ++ readFrom (index + 1) step.2 cs

/-- The template that a text spells. -/
def ofText (s : String) : List Piece :=
  readFrom 0 .text s.toList

end Diagnostics.Template
