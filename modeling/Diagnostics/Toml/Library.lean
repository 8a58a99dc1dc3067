import Diagnostics.Toml.Basic
import Diagnostics.Value

/-!
# Libraries for TOML

`Toml.Library` is what the program uses of libraries for TOML: one that reads texts and writes
tables, and one that writes documents with comments. Nothing is said about texts in general;
`Toml.IsFaithful` says that a library reads the plain tables that it has written.
-/

namespace Diagnostics.Toml

/-- A dotted key. -/
abbrev KeyPath := List String

/-- An error that a library ends with. -/
structure Failure where
  /-- The kind of the error. -/
  kind : String
  message : String
deriving DecidableEq, Repr

/-! ### Documents -/

/-- A line of a document in the making. -/
inductive Line
  | comment (text : String)
  | blank
  | setting (key : String) (v : Value)

/-- The setting of a line, if it has one. -/
def Line.setting? : Line → Option (String × Value)
  | setting key v => some (key, v)
  | comment _ | blank => none

/-- A document in the making: lines at the top, and behind them those of one table. -/
structure Document where
  top : List Line := []
  /-- The name of the table, empty when it is the document itself. -/
  path : KeyPath := []
  lines : List Line

/-- The settings of a document. -/
def Document.settings (d : Document) : Members :=
  d.lines.filterMap Line.setting?

/-- A document that has nothing but one table, under a dotted key. -/
def nest : KeyPath → Members → Members
  | [], ms => ms
  | key :: path, ms => [(key, .object (nest path ms))]

/-! ### Libraries -/

/-- What the program uses of libraries. -/
class Library where
  /-- The table of a text, when it is TOML. -/
  read? : String → Option Members
  /-- Writes a table. -/
  write : Value → Except Failure String
  /-- Writes a document with its comments. -/
  writeDocument : Document → Except Failure String

/-- A value that is spelled alike by all libraries: a truth value, a name or a list of names. -/
inductive IsPlain : Value → Prop
  | bool (b : Bool) : IsPlain (.bool b)
  | name {s : String} (name : IsName s) : IsPlain (.text s)
  | names {ss : List String} (names : ∀ s ∈ ss, IsName s) : IsPlain (.list (ss.map .text))

/-- A table of plain values under names, no two of which are the same. -/
structure IsPlainTable (ms : Members) : Prop where
  distinct : (ms.map Prod.fst).Nodup
  plain : ∀ m ∈ ms, IsName m.1 ∧ IsPlain m.2

/-- The text fits on the line of a comment. -/
def IsRemark (text : String) : Prop :=
  ∀ c ∈ text.toList, isComment c = true

/-- A document with a plain table, and with comments that keep to their lines. -/
structure Document.IsPlain (d : Document) : Prop where
  comments : ∀ text, .comment text ∈ d.top ++ d.lines → IsRemark text
  top : d.top.filterMap Line.setting? = []
  path : ∀ key ∈ d.path, IsName key
  settings : IsPlainTable d.settings

/-- A text says a table, and does not change when its line ends are unified. -/
structure Says [Library] (text : String) (ms : Members) : Prop where
  read : Library.read? text = some ms
  noReturn : '\r' ∉ text.toList

/-- Plain tables and documents are written, and read as what was written. -/
structure IsFaithful [Library] : Prop where
  write : ∀ {ms : Members}, IsPlainTable ms → ∃ text, Library.write (.object ms) = .ok text ∧ Says text ms
  writeDocument : ∀ {d : Document}, d.IsPlain →
    ∃ text, Library.writeDocument d = .ok text ∧ Says text (nest d.path d.settings)

end Diagnostics.Toml
