import Diagnostics.Decimal.Numeral
import Diagnostics.Diagnostic.Basic

/-!
# Terminal logs

The terminal log of a diagnostic has up to four parts, each on lines of its own: the
badge with the message, the file with the position, the code frame and the
conclusion. Empty parts are left out.
-/

namespace Diagnostics

open Decimal Text

/-- The style of line and column numbers. -/
def numberStyle : Style :=
  { foreground := some .yellow }

namespace Diagnostic

/-- The badge of a diagnostic, with the name of its checker in brackets when there is one. -/
def badge (name : RawText) (d : Diagnostic) : RawText :=
  let level := d.shownLevel
  let bracketed : RawText := if name = "" then "" else "(" ++ name ++ ")"
  level.badge (" " ++ level.label ++ bracketed ++ " ")

/-- The line and the column of a diagnostic, as far as they are known. -/
def positionText (d : Diagnostic) : String :=
  match d.location with
  | none => ""
  | some l =>
    numberStyle.apply (numeral l.start.line) ++
      match l.start.column with
      | none => ""
      | some c => ":" ++ numberStyle.apply (numeral c)

/-- The badge in front of a file. -/
def fileBadge : RawText :=
  Level.message.badge " FILE "

/-- The parts of the terminal log, empty ones included. -/
def logParts (name : RawText) (d : Diagnostic) : List RawText :=
  [d.badge name ++ " " ++ d.message.getD "",
    fileBadge ++ " " ++ d.id.getD "" ++ ":" ++ d.positionText,
    d.codeFrame.getD "",
    d.conclusion.getD ""]

/-- The terminal log of a diagnostic under the display name of its checker, which may be empty. -/
def terminalLog (name : RawText) (d : Diagnostic) : RawText :=
  .join "\n" ((d.logParts name).filter (· ≠ ""))

end Diagnostic

end Diagnostics
