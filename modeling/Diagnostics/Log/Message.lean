import Diagnostics.Log.Notice
import Diagnostics.Template.Fill

/-!
# Messages with arguments

`Log.message` puts arguments into the template of a message, and `Log.traced` is what a
logger keeps of such a message of the lowest named severity.
-/

namespace Diagnostics.Log

/-- How arguments serve a template: a table that is alone and not empty gives its values by name. -/
def supplyOf : List (Value String) → Template.Supply
  | [.object (m :: ms)] => .ofMembers (m :: ms)
  | args => .list args

/-- A message with its arguments; a message without arguments is taken as it is. -/
def message (template : String) (args : List (Value String)) : Except Template.Fault String :=
  if args.isEmpty then .ok template else Template.fill template (supplyOf args)

/-- A message of the lowest named severity, from a logger with its own threshold; a logger without
one drops it unread. -/
def traced (threshold : Int) (template : String) (args : List (Value String)) :
    Except Template.Fault (List Notice) :=
  if threshold ≠ 0 && threshold ≤ trace then
    (message template args).map fun text => [⟨trace, text⟩]
  else .ok []

end Diagnostics.Log
