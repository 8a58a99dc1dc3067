import Diagnostics.Diagnostic.Selection
import Diagnostics.Json.Printer
import Diagnostics.Payload.Normal

/-!
# Client payloads

What a remote client is sent about the diagnostics of one checker: an envelope of
entries. `Payload.envelope` filters, projects and wraps the diagnostics, and
`Payload.serialize` is the JSON text of a payload.
-/

namespace Diagnostics.Payload

/-- The event under which clients receive diagnostics. -/
def event : String := "checkrelay:error"

/-- The envelope of one checker's entries. -/
def wrap (checker : RawText) (entries : List Entry) : Tree :=
  .map
    [(.text "event", .text event),
     (.text "data", .map
       [(.text "checkerId", .text checker), (.text "diagnostics", .list (entries.map .entry))])]

/-- The envelope of the diagnostics of one checker whose levels are wanted. -/
def envelope (levels : List Level) (checker : RawText) (ds : List Diagnostic) : Tree :=
  wrap checker ((Diagnostic.select levels ds).map Entry.ofDiagnostic)

/-- The JSON text of a payload. -/
def serialize (layout : Json.Layout) (payload : Tree) : String :=
  Json.print layout payload.normal

end Diagnostics.Payload
