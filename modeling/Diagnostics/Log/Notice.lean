import Diagnostics.Text.Raw

/-!
# Notices

A notice is one record of the program's own log: a numeric severity and a text.
Operations that log return their notices as data, in the order in which they arise.
-/

namespace Diagnostics.Log

/-- The severity of step-by-step detail, the lowest with a name. -/
def trace : Int := 5

/-- The severity of detail for finding faults. -/
def debug : Int := 10

/-- The severity of what is worth knowing. -/
def info : Int := 20

/-- The severity of what was ignored or put right. -/
def warning : Int := 30

/-- The severity of what failed. -/
def error : Int := 40

/-- The severity of what stops the program. -/
def critical : Int := 50

/-- The name of a severity, or a number for one without a name. -/
def severityName (severity : Int) : String :=
  if severity = critical then "CRITICAL"
  else if severity = error then "ERROR"
  else if severity = warning then "WARNING"
  else if severity = info then "INFO"
  else if severity = debug then "DEBUG"
  else if severity = trace then "TRACE"
  else if severity = 0 then "NOTSET"
  else "Level " ++ toString severity

/-- One record of the log. -/
structure Notice where
  severity : Int
  text : RawText
deriving DecidableEq, Repr

end Diagnostics.Log
