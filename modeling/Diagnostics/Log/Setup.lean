import Diagnostics.Decimal.Numeral
import Diagnostics.Environment
import Diagnostics.Log.Record
import Diagnostics.Text.Blank
import Diagnostics.Text.Case
import Diagnostics.Text.Digit
import Diagnostics.Text.Lines

/-!
# Logging

`Log.fromEnvironment` is the severity threshold that the environment asks for.
`Log.setup` makes a `Sink` from a threshold, and `Sink.write` is the text that a
record leaves on the error stream. `RootLogger.setUp` puts a sink into the logger that
the whole program shares.
-/

namespace Diagnostics.Log

open Decimal Text

/-- The variable that sets the threshold. -/
def thresholdVariable : String := "CHECKRELAY_LOG_LEVEL"

/-- The names under which the environment gives thresholds. -/
def thresholdNames : List (String × Int) :=
  [("TRACE", trace), ("DEBUG", debug), ("INFO", info), ("WARNING", warning), ("WARN", warning),
   ("ERROR", error), ("CRITICAL", critical), ("FATAL", critical), ("NOTSET", 0)]

/-- The number of characters of a text that an error shows. -/
def shownLength : Nat := 200

/-- Why a threshold made of digits is no number. -/
inductive ThresholdError
  /-- Not all of the digits have a place in a decimal numeral. -/
  | notDecimal (digits : String)
  /-- The numeral has too many digits. -/
  | tooLong (count : Nat)
deriving DecidableEq, Repr

/-- The wording of a threshold error. -/
def ThresholdError.message : ThresholdError → String
  | notDecimal digits =>
    "invalid literal for int() with base 10: "
      ++ String.ofList ((quotedChars digits.toList).take shownLength)
  | tooLong count =>
    "Exceeds the limit (" ++ toString maxDigits ++ " digits) for integer string conversion: value has "
      ++ toString count ++ " digits; use sys.set_int_max_str_digits() to increase the limit"

/-- The number that digits denote. The decimal digits in front of any others are counted first. -/
def number? (digits : String) : Except ThresholdError Int :=
  let count := (digits.toList.takeWhile fun c => (decimal? c).isSome).length
  if maxDigits < count then .error (.tooLong count)
  else
    match natural? digits.toList with
    | some n => .ok n
    | none => .error (.notDecimal digits)

/-- The threshold that a text gives: a number, or a name in any case, with blanks around it. -/
def threshold? (s : String) : Except ThresholdError (Option Int) :=
  let key := upper (trim s)
  if key ≠ "" && key.toList.all isDigit then (number? key).map some
  else .ok (thresholdNames.lookup key)

/-- The threshold that the environment asks for. -/
def fromEnvironment (e : Environment) : Except ThresholdError (Option Int) :=
  match e.get? thresholdVariable with
  | none => .ok none
  | some s => threshold? s

/-- Where records go: those below the threshold are dropped, the others become lines. -/
structure Sink where
  threshold : Int
  layout : Layout
  colored : Bool

namespace Sink

/-- A record of the severity is kept. Zero is the severity of the weakest filter, so nothing at or
below it ever counts as logged. -/
def keeps (s : Sink) (severity : Int) : Bool :=
  0 < severity && s.threshold ≤ severity

/-- What a record leaves on the error stream. -/
def write (s : Sink) (r : Record) : String :=
  if s.keeps r.notice.severity then r.inLayout s.layout s.colored ++ "\n" else ""

end Sink

/-- The sink with a threshold. Where detail is wanted, lines name the place in the program. -/
def sink (threshold : Int) (terminal : Bool) : Sink :=
  { threshold
    layout := if info ≤ threshold then .brief else .detailed
    colored := terminal }

/-- Sets logging up. Without a threshold the environment is asked; nothing and zero leave only what
stops the program. -/
def setup (threshold : Option Int) (e : Environment) (terminal : Bool) : Except ThresholdError Sink :=
  match threshold with
  | some t => .ok (sink t terminal)
  | none =>
    (fromEnvironment e).map fun asked =>
      let t := asked.getD critical
      sink (if t = 0 then critical else t) terminal

/-! ### The root logger -/

/-- Where a logger hands its records. -/
inductive Handler
  /-- To the error stream, as lines in a layout. -/
  | errorStream (layout : Layout) (colored : Bool)
  /-- To a handler that was put in from elsewhere. -/
  | foreign (number : Nat)
deriving DecidableEq, Repr

/-- The logger that all others pass their records on to. -/
structure RootLogger where
  threshold : Int := warning
  handlers : List Handler := []
  /-- Records would be passed on to a logger further up. -/
  propagates : Bool := true
deriving DecidableEq, Repr

namespace RootLogger

/-- The logger without a handler. -/
def remove (r : RootLogger) (h : Handler) : RootLogger :=
  { r with handlers := r.handlers.erase h }

/-- The logger with a handler, which is not put in twice. -/
def add (r : RootLogger) (h : Handler) : RootLogger :=
  if h ∈ r.handlers then r else { r with handlers := r.handlers ++ [h] }

/-- The logger with the threshold of a sink. The handlers that it has are taken away one by one, and then
the one of the sink is put in. -/
def serve (r : RootLogger) (s : Sink) : RootLogger :=
  let bare := r.handlers.foldl remove { r with threshold := s.threshold }
  { bare.add (.errorStream s.layout s.colored) with propagates := false }

/-- Sets the logger up. It stays as it is when no threshold can be made out. -/
def setUp (r : RootLogger) (threshold : Option Int) (e : Environment) (terminal : Bool) :
    Except ThresholdError RootLogger :=
  (setup threshold e terminal).map r.serve

/-- What a record leaves on the error stream. -/
def write (r : RootLogger) (record : Record) : String :=
  joinTexts "" <| r.handlers.map fun h =>
    match h with
    | .errorStream layout colored => Sink.write ⟨r.threshold, layout, colored⟩ record
    | .foreign _ => ""

end RootLogger

end Diagnostics.Log
