import Diagnostics.Ansi.Removal

/-!
# Consoles

A console writes text that is styled already. With colours switched off it strips the
styling, so that one rendering serves both.
-/

namespace Diagnostics

/-- A console, with or without colours. -/
structure Console where
  colored : Bool
  /-- How the console strips styling. -/
  remover : Ansi.Remover := .scan

namespace Console

/-- The style of error messages. -/
def errorStyle : Style :=
  { foreground := some .brightRed }

/-- The text as the console shows it. -/
def display (c : Console) (text : String) : String :=
  if c.colored then text else c.remover.strip text

/-- What the console writes for a line of text. -/
def line (c : Console) (text : String) : String :=
  c.display text ++ "\n"

/-- What the console writes for a line of raw text, or else where the text that it shows is torn. -/
def rawLine (c : Console) (text : RawText) : Except RawText.Tear String :=
  match text.whole with
  | .ok s => .ok (c.line s)
  | .error tear => .error { tear with before := c.display tear.before }

/-- What the console writes for an error message, without the line end. -/
def displayError (c : Console) (text : String) : String :=
  c.display (errorStyle.apply text)

/-- What the console writes for an error message. -/
def errorLine (c : Console) (text : String) : String :=
  c.displayError text ++ "\n"

/-- The text in a style, left alone when colours are switched off. -/
def styled (c : Console) (s : Style) (text : String) : String :=
  if c.colored then s.apply text else text

end Console

end Diagnostics
