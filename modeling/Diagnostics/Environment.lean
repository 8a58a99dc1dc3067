/-!
# The environment

The variables that the surroundings of the program set.
-/

namespace Diagnostics

/-- The environment variables with their values. -/
structure Environment where
  entries : List (String × String)

/-- The value of a variable, when it is set. -/
def Environment.get? (e : Environment) (name : String) : Option String :=
  e.entries.lookup name

end Diagnostics
