import Diagnostics.Toml.Annotated
import Diagnostics.Toml.Reader
import Diagnostics.Toml.Writer

/-!
# The standard library for TOML

The reader and the writers that the program runs with. They are the library where `Toml.Standard` is
open.
-/

namespace Diagnostics.Toml.Standard

/-- The library that the program runs with. -/
scoped instance library : Library where
  read? := read
  write := write
  writeDocument := writeDocument

end Diagnostics.Toml.Standard
