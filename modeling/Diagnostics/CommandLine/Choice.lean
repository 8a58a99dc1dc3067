import Diagnostics.Level
import Diagnostics.Settings.ColorMode
import Diagnostics.Text.Lines

/-!
# Choices

A choice is an option value out of a list of words, which may be written in any case.
-/

namespace Diagnostics.CommandLine

open Text

/-- A value out of a list of words. -/
structure Choice (α : Type) where
  /-- What help texts call the value, in lower case. -/
  name : String
  members : List (String × α)

namespace Choice

variable {α : Type}

/-- The words of a choice. -/
def words (c : Choice α) : List String :=
  c.members.map Prod.fst

/-- The value of a word in any case. -/
def find? (c : Choice α) (s : String) : Option α :=
  c.members.lookup (lower s)

/-- The message on a text that is none of the words. -/
def message (c : Choice α) (s : String) : String :=
  "Invalid value '" ++ s ++ "'. Must be one of: " ++ joinTexts ", " c.words

/-- Reads a text as the value of a word in any case. A text that is none of the words is refused with
the message on it. -/
def read (c : Choice α) (s : String) : Except String α :=
  match c.find? s with
  | some value => .ok value
  | none => .error (c.message s)

/-- The words that start like a text. -/
def completions (c : Choice α) (s : String) : List String :=
  c.words.filter fun word => (lower s).toList.isPrefixOf word.toList

end Choice

/-- How the version is printed. -/
inductive Format
  | text
  | json
deriving DecidableEq, Repr

/-- The choice of a level. -/
def levelChoice : Choice Level :=
  { name := "diagnosticlevel", members := Level.all.map fun l => (l.name, l) }

/-- The choice of a colour mode. -/
def colorChoice : Choice ColorMode :=
  { name := "colormode", members := ColorMode.all.map fun m => (m.name, m) }

/-- The choice of a format. -/
def formatChoice : Choice Format :=
  { name := "outputformat", members := [("text", .text), ("json", .json)] }

end Diagnostics.CommandLine
