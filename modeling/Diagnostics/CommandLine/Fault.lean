import Diagnostics.CommandLine.Choice
import Diagnostics.CommandLine.Command
import Diagnostics.ExitCode
import Diagnostics.Input.Frames
import Diagnostics.Log.Setup
import Diagnostics.Reporting.Console
import Diagnostics.Settings.Discovery
import Diagnostics.Toml.Library

/-!
# Faults of a run

A `Complaint` is about the arguments of a command and is shown with the usage line of
the command. A `ProgramError` stops the program with an exit code of its own. A
`Crash` is a fault that the program does not deal with.
-/

namespace Diagnostics.CommandLine

open Text

/-- What is wrong with the arguments of a command. -/
inductive Complaint
  | argument (f : ArgumentFault)
  /-- A value of a switch is not what it has to be. -/
  | badValue (switch reason : String)
  | unexpected (arguments : List String)
  | noCommand
  | unknownCommand (name : String)
deriving DecidableEq, Repr

namespace Complaint

/-- The wording of a complaint. -/
def message : Complaint → String
  | argument (.unknown name) => "No such option " ++ quoted name ++ "."
  | argument (.needsValue name) => "Option " ++ quoted name ++ " requires an argument."
  | argument (.takesNoValue name) => "Option " ++ quoted name ++ " does not take a value."
  | badValue switch reason => "Invalid value for '" ++ switch ++ "': " ++ reason
  | unexpected [a] => "Got unexpected extra argument (" ++ a ++ ")"
  | unexpected as => "Got unexpected extra arguments (" ++ joinTexts " " as ++ ")"
  | noCommand => "Missing command."
  | unknownCommand name => "No such command " ++ quoted name ++ "."

/-- The complaint is shown below the usage line of the command. -/
def showsUsage : Complaint → Bool
  | argument (.needsValue _) | argument (.takesNoValue _) => false
  | _ => true

/-- The text of a complaint about a command. -/
def text (path : String) (c : Command) (complaint : Complaint) : String :=
  (if complaint.showsUsage then
      Help.usage path c ++ "\nTry '" ++ path ++ " --help' for help.\n\n"
    else "")
    ++ "Error: " ++ complaint.message ++ "\n"

end Complaint

/-- The message on a text that is no choice, outside of any command. -/
def Choice.fault {α : Type} (c : Choice α) (s : String) : String :=
  "Invalid value: " ++ c.message s

/-- The kinds of errors that stop the program. -/
inductive ErrorKind
  | general
  | usage
  | config
  | notFound
  | data
deriving DecidableEq, Repr

/-- The exit code for a kind of error. -/
def ErrorKind.code : ErrorKind → ExitCode
  | general => .failure
  | usage => .usage
  | config => .badConfig
  | notFound => .noInput
  | data => .badData

/-- An error that stops the program. -/
structure ProgramError where
  kind : ErrorKind
  message : String
deriving DecidableEq, Repr

/-- What an error shows: on the console, when there is one, and without styling otherwise. -/
def ProgramError.text (e : ProgramError) (c : Option Console) : String :=
  match c with
  | some c => c.errorLine ("Error: " ++ e.message)
  | none => Ansi.strip ("Error: " ++ e.message ++ "\n")

/-- A fault that the program does not deal with. -/
inductive Crash
  /-- The environment asks for a threshold that is no number. -/
  | threshold (e : Log.ThresholdError)
  /-- A file cannot be looked up or read. -/
  | read (f : ReadFault)
  /-- Loading the inputs breaks off. -/
  | load (f : LoadFault)
  /-- Settings cannot be loaded. -/
  | settings (f : Settings.Fault)
  /-- A table or a document cannot be written. -/
  | write (f : Toml.Failure)
deriving DecidableEq, Repr

/-! ### Verbosity -/

/-- The error of asking for more and less output at once. -/
def contradiction : ProgramError :=
  { kind := .usage, message := "The '--verbose' and '--quiet' options are mutually exclusive." }

/-- How talkative the program is: minus one when it is to be quiet, else how often more output was
asked for. -/
def verbosity (verbose quiet : Int) : Except ProgramError Int :=
  if 0 < verbose && 0 < quiet then .error contradiction
  else if 0 < quiet then .ok (-1)
  else .ok verbose

/-- The threshold of the log that goes with a verbosity. -/
def thresholdFor (verbosity : Int) : Option Int :=
  if 3 ≤ verbosity then some Log.trace
  else if verbosity = 2 then some Log.debug
  else none

end Diagnostics.CommandLine
