import Diagnostics.Toml.Library
import Diagnostics.Toml.Scalar

/-!
# Reading TOML

A TOML document is read in two steps. `readStatements` reads its lines into
statements: table headers, headers of tables in an array, and assignments.
`Builder.run` then carries the statements out one after the other and refuses what
defines a key or a table twice. `Toml.read` does both.
-/

namespace Diagnostics.Toml

open Decimal Text

/-- Reads one part of a key. -/
def readKey : List Char → Read String
  | '"' :: rest => (readBasic rest).map fun read => (String.ofList read.1, read.2)
  | '\'' :: rest => (readLiteral rest).map fun read => (String.ofList read.1, read.2)
  | cs =>
    match cs.span isBare with
    | ([], _) => none
    | (name, rest) => some (String.ofList name, rest)

/-- Reads the parts of a dotted key; `fuel` bounds their number. -/
def readKeyPath : Nat → List Char → Read KeyPath
  | 0, _ => none
  | fuel + 1, cs =>
    match readKey cs with
    | none => none
    | some (key, rest) =>
      match skipInline rest with
      | '.' :: more => (readKeyPath fuel (skipInline more)).map fun read => (key :: read.1, read.2)
      | _ => some ([key], rest)

/-- The text behind a comment in front, up to what may not stand in it. -/
def skipComment : List Char → List Char
  | '#' :: rest => rest.dropWhile isComment
  | cs => cs

/-- The text behind the blanks, line breaks and comments in front; `comment` says whether the text
starts within a comment. -/
def skipLines : (comment : Bool) → List Char → List Char
  | _, [] => []
  | true, c :: cs => if isComment c then skipLines true cs else if c = '\n' then skipLines false cs else c :: cs
  | false, c :: cs =>
    if isInline c || c = '\n' then skipLines false cs
    else if c = '#' then skipLines true cs
    else c :: cs

/-- Puts a value under a dotted key of a table that did not have it. -/
def put : KeyPath → Value → Members → Option Members
  | [], _, _ => none
  | [key], v, ms => if (Members.get? key ms).isSome then none else some (ms ++ [(key, v)])
  | key :: keys, v, ms =>
    match Members.get? key ms with
    | none => (put keys v []).map fun inner => ms ++ [(key, .object inner)]
    | some (.object inner) => (put keys v inner).map fun inner => Members.set key (.object inner) ms
    | some (.list items) =>
      match items.reverse with
      | .object last :: before =>
        (put keys v last).map fun last => Members.set key (.list (before.reverse ++ [.object last])) ms
      | _ => none
    | some _ => none

/-- The items of an array are of one kind. -/
def isUniform : List Value → Bool
  | [] => true
  | v :: vs => vs.all fun w => w.kindName = v.kindName

/-- One key of an inline table must not be written under another one's value. -/
def isApart (seen : List KeyPath) (path : KeyPath) : Bool :=
  !seen.any fun s => s.isPrefixOf path

mutual

/-- Reads a value; `fuel` bounds the nesting and the number of items. -/
def readValue : Nat → List Char → Read Value
  | 0, _ => none
  | fuel + 1, '[' :: rest =>
    match readItems fuel (skipLines false rest) with
    | none => none
    | some (items, behind) => if isUniform items then some (.list items, behind) else none
  | fuel + 1, '{' :: rest =>
    match skipInline rest with
    | '}' :: behind => some (.object [], behind)
    | cs => (readMembers fuel [] [] cs).map fun read => (.object read.1, read.2)
  | _ + 1, '"' :: rest =>
    (readString ('"' :: rest)).map fun read => (.text (String.ofList read.1), read.2)
  | _ + 1, '\'' :: rest =>
    (readString ('\'' :: rest)).map fun read => (.text (String.ofList read.1), read.2)
  | _ + 1, cs => readWord cs

/-- Reads the items of an array up to its closing bracket. -/
def readItems : Nat → List Char → Read (List Value)
  | 0, _ => none
  | _ + 1, ']' :: rest => some ([], rest)
  | fuel + 1, cs =>
    match readValue fuel cs with
    | none => none
    | some (v, rest) =>
      match skipLines false rest with
      | ',' :: more => (readItems fuel (skipLines false more)).map fun read => (v :: read.1, read.2)
      | ']' :: behind => some ([v], behind)
      | _ => none

/-- Reads the members of an inline table, which stands on one line, up to its closing brace. -/
def readMembers : Nat → List KeyPath → Members → List Char → Read Members
  | 0, _, _, _ => none
  | fuel + 1, seen, ms, cs =>
    match readKeyPath (cs.length + 1) cs with
    | none => none
    | some (path, rest) =>
      match skipInline rest with
      | '=' :: behindSign =>
        match readValue fuel (skipInline behindSign) with
        | none => none
        | some (v, behindValue) =>
          match if isApart seen path then put path v ms else none with
          | none => none
          | some ms =>
            match skipInline behindValue with
            | ',' :: more => readMembers fuel (path :: seen) ms (skipInline more)
            | '}' :: behind => some (ms, behind)
            | _ => none
      | _ => none

end

/-! ### Statements -/

/-- What one line of a document says. -/
inductive Statement
  /-- A header `[path]`. -/
  | table (path : KeyPath)
  /-- A header `[[path]]`. -/
  | element (path : KeyPath)
  | assign (path : KeyPath) (v : Value)

/-- Reads an assignment. -/
def readAssign (cs : List Char) : Read Statement :=
  match readKeyPath (cs.length + 1) cs with
  | none => none
  | some (path, rest) =>
    match skipInline rest with
    | '=' :: more =>
      let behind := skipInline more
      (readValue (2 * behind.length + 1) behind).map fun read => (.assign path read.1, read.2)
    | _ => none

/-- Reads one statement. -/
def readStatement : List Char → Read Statement
  | '[' :: '[' :: rest =>
    match readKeyPath (rest.length + 1) (skipInline rest) with
    | none => none
    | some (path, behind) =>
      match skipInline behind with
      | ']' :: ']' :: more => some (.element path, more)
      | _ => none
  | '[' :: rest =>
    match readKeyPath (rest.length + 1) (skipInline rest) with
    | none => none
    | some (path, behind) =>
      match skipInline behind with
      | ']' :: more => some (.table path, more)
      | _ => none
  | cs => readAssign cs

/-- Reads statements, each on a line of its own; every one takes a character, which bounds `fuel`. -/
def readStatementsFrom : Nat → List Char → Option (List Statement)
  | 0, _ => none
  | fuel + 1, cs =>
    match skipLines false cs with
    | [] => some []
    | text =>
      match readStatement text with
      | none => none
      | some (s, rest) =>
        match skipComment (skipInline rest) with
        | [] => some [s]
        | '\n' :: more => (readStatementsFrom fuel more).map (s :: ·)
        | _ => none

/-- The statements of a document. -/
def readStatements (cs : List Char) : Option (List Statement) :=
  readStatementsFrom (cs.length + 1) cs

/-! ### Tables -/

/-- A document that is being put together. -/
structure Builder where
  /-- The tables so far. -/
  root : Members := []
  /-- The table that assignments go to. -/
  current : KeyPath := []
  /-- The tables that have a header. -/
  headed : List KeyPath := []
  /-- The tables that dotted keys made. -/
  dotted : List KeyPath := []
  /-- The keys that values were assigned to; nothing may be added below them. -/
  assigned : List KeyPath := []
  /-- The arrays of tables. -/
  arrays : List KeyPath := []

namespace Builder

/-- The value under a dotted key; an array of tables stands for its last table. -/
def find? : KeyPath → Members → Option Value
  | [], ms => some (.object ms)
  | [key], ms => Members.get? key ms
  | key :: keys, ms =>
    match Members.get? key ms with
    | some (.object inner) => find? keys inner
    | some (.list items) =>
      match items.getLast? with
      | some (.object inner) => find? keys inner
      | _ => none
    | _ => none

/-- Replaces the value under a dotted key. -/
def replace : KeyPath → Value → Members → Members
  | [], _, ms => ms
  | [key], v, ms => Members.set key v ms
  | key :: keys, v, ms =>
    match Members.get? key ms with
    | some (.object inner) => Members.set key (.object (replace keys v inner)) ms
    | some (.list items) =>
      match items.reverse with
      | .object last :: before =>
        Members.set key (.list (before.reverse ++ [.object (replace keys v last)])) ms
      | _ => ms
    | _ => ms

/-- Nothing was assigned to the path or to a path above it. -/
def isOpen (b : Builder) (path : KeyPath) : Bool :=
  isApart b.assigned path

/-- Carries out a header `[path]`. -/
def openTable (b : Builder) (path : KeyPath) : Option Builder :=
  if !b.isOpen path || b.headed.contains path || b.dotted.contains path || b.arrays.contains path then none
  else
    match find? path b.root with
    | some (.object _) => some { b with current := path, headed := path :: b.headed }
    | some _ => none
    | none =>
      (put path (.object []) b.root).map fun root =>
        { b with root, current := path, headed := path :: b.headed }

/-- Carries out a header `[[path]]`. What is known of tables below the path was about the table
before. -/
def openElement (b : Builder) (path : KeyPath) : Option Builder :=
  let above (p : KeyPath) : Bool := !path.isPrefixOf p
  let next (root : Members) : Builder :=
    { root, current := path, headed := b.headed.filter above, dotted := b.dotted.filter above
      assigned := b.assigned.filter above, arrays := path :: b.arrays.filter above }
  if !b.isOpen path then none
  else
    match find? path b.root with
    | none => (put path (.list [.object []]) b.root).map next
    | some (.list items) =>
      if b.arrays.contains path then some (next (replace path (.list (items ++ [.object []])) b.root)) else none
    | some _ => none

/-- The nonempty proper beginnings of a dotted key, below a table. -/
def intermediates (current path : KeyPath) : List KeyPath :=
  (List.range (path.length - 1)).map fun i => current ++ path.take (i + 1)

/-- Carries out an assignment. Dotted keys may not reach into a table that has a header. -/
def assign (b : Builder) (path : KeyPath) (v : Value) : Option Builder :=
  let full := b.current ++ path
  let between := intermediates b.current path
  if !b.isOpen full || between.any (fun p => b.headed.contains p || b.arrays.contains p) then none
  else
    (put full v b.root).map fun root =>
      { b with root, dotted := between ++ b.dotted, assigned := full :: b.assigned }

/-- Carries out one statement. -/
def step (b : Builder) : Statement → Option Builder
  | .table path => b.openTable path
  | .element path => b.openElement path
  | .assign path v => b.assign path v

/-- Carries out statements one after the other. -/
def run : Builder → List Statement → Option Builder
  | b, [] => some b
  | b, s :: ss => (b.step s).bind fun b => b.run ss

end Builder

/-- The table that a TOML document denotes, when it is one. -/
def read (s : String) : Option Members :=
  ((readStatements s.toList).bind fun ss => ({} : Builder).run ss).map Builder.root

end Diagnostics.Toml
