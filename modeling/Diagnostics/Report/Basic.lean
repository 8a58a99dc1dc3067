import Diagnostics.Payload.Envelope
import Diagnostics.Report.Summary
import Diagnostics.Report.TerminalLog

/-!
# Checker reports

A report bundles the diagnostics of one checker run. `Report.render` is its text for
the terminal, `Report.summary` its summary line and `Report.payload` its envelope for
clients; all three are about the diagnostics selected by the wanted levels.
-/

namespace Diagnostics

open Text

/-- The diagnostics of one checker run, in the order in which they were collected. -/
structure Report where
  checker : RawText
  diagnostics : List Diagnostic
  displayName : Option RawText := none
deriving DecidableEq, Repr

namespace Report

/-- The name that the terminal shows: the display name unless it is missing or empty, else the
checker. -/
def name (r : Report) : RawText :=
  match r.displayName with
  | some n => if n = "" then r.checker else n
  | none => r.checker

/-- The selected diagnostics of a report. -/
def select (levels : List Level) (r : Report) : List Diagnostic :=
  Diagnostic.select levels r.diagnostics

/-- The counts of the selected diagnostics. -/
def stats (levels : List Level) (r : Report) : Stats :=
  Stats.ofDiagnostics (r.select levels)

/-- The summary line about the selected diagnostics. -/
def summary (levels : List Level) (r : Report) : RawText :=
  Summary.line r.name (r.stats levels).errors (r.stats levels).warnings

/-- The envelope of the selected diagnostics. -/
def payload (levels : List Level) (r : Report) : Payload.Tree :=
  Payload.envelope levels r.checker r.diagnostics

/-- The text of a report: the logs of the selected diagnostics and the summary line, with blank
lines between them. -/
def render (levels : List Level) (r : Report) : RawText :=
  .join "\n\n" ((r.select levels).map (Diagnostic.terminalLog r.name) ++ [r.summary levels])

end Report

end Diagnostics
