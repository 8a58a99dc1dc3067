import Diagnostics.Files.Fault

/-!
# Exit codes

The codes with which the program ends, in the numbering customary for system
programs.
-/

namespace Diagnostics

/-- How the program ends. -/
inductive ExitCode
  | success
  /-- An error-level diagnostic was reported, or the program broke off. -/
  | failure
  /-- The command line cannot be understood. -/
  | badCommandLine
  /-- The options contradict each other. -/
  | usage
  /-- An input is not a diagnostics document. -/
  | badData
  /-- An input does not exist. -/
  | noInput
  /-- An input cannot be read. -/
  | badRead
  /-- An input is not accessible. -/
  | noPermission
  /-- The configuration cannot be used. -/
  | badConfig
deriving DecidableEq, Repr

namespace ExitCode

/-- The number of a code. -/
def number : ExitCode → Nat
  | success => 0
  | failure => 1
  | badCommandLine => 2
  | usage => 64
  | badData => 65
  | noInput => 66
  | badRead => 74
  | noPermission => 77
  | badConfig => 78

/-- The code for an input that cannot be opened. -/
def ofFault (f : OsFault) : ExitCode :=
  if f.isMissing then noInput else if f.isDenied then noPermission else badRead

end ExitCode

end Diagnostics
