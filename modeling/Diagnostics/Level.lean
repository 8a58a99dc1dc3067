import Diagnostics.Ansi
import Diagnostics.Text.Blank
import Diagnostics.Text.Case
import Diagnostics.Value

/-!
# Severity levels

The four severities of a diagnostic with the numbers and names under which documents
and configuration tables give them. `Level.ofValue?` reads a level from a value and
`Level.badge` is the coloured label of terminal output.
-/

namespace Diagnostics

open Text

/-- The severity of a diagnostic. -/
inductive Level
  | warning
  | error
  | suggestion
  | message
deriving DecidableEq, Repr

namespace Level

/-- All levels, in the order of their numbers. -/
def all : List Level :=
  [.warning, .error, .suggestion, .message]

/-- The number of a level on the wire. -/
def number : Level → Nat
  | .warning => 0
  | .error => 1
  | .suggestion => 2
  | .message => 3

/-- The name of a level in upper case, as terminal output shows it. -/
def label : Level → String
  | .warning => "WARNING"
  | .error => "ERROR"
  | .suggestion => "SUGGESTION"
  | .message => "MESSAGE"

/-- The name of a level in lower case, as configuration tables and options spell it. -/
def name : Level → String
  | .warning => "warning"
  | .error => "error"
  | .suggestion => "suggestion"
  | .message => "message"

/-- The level with a number. -/
def ofNumber? : Int → Option Level
  | 0 => some .warning
  | 1 => some .error
  | 2 => some .suggestion
  | 3 => some .message
  | _ => none

/-- The level with a label. -/
def ofLabel? (s : String) : Option Level :=
  all.find? fun l => l.label = s

/-- The level that a value gives: its number, or its name in any case with blanks around it. -/
def ofValue? {τ : Type} [Wording τ] : Value τ → Option Level
  | .int i => ofNumber? i
  | .text s => (Wording.whole? s).bind fun s => ofLabel? (upper (trim s))
  | _ => none

/-- The background of a level's badge. -/
def background : Level → Color
  | .error => .brightRed
  | .warning => .brightYellow
  | .suggestion => .brightBlue
  | .message => .brightCyan

/-- The style of a level's badge: bold black on a bright background. -/
def badgeStyle (l : Level) : Style :=
  { foreground := some .black, background := some l.background, bold := true }

/-- The text as the badge of a level. -/
def badge (l : Level) (text : RawText) : RawText :=
  l.badgeStyle.applyRaw text

end Level

end Diagnostics
