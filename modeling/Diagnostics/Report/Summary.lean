import Diagnostics.Ansi
import Diagnostics.Decimal.Numeral

/-!
# Summary lines

One line per checker that counts its errors and warnings. A noun is in the plural
only for counts above one, and the colour tells the worst that was found.
-/

namespace Diagnostics.Summary

open Decimal

/-- A text behind the name of a checker in square brackets. -/
def wrap (name raw : RawText) : RawText :=
  "[" ++ name ++ "] " ++ raw

/-- A count with its noun. -/
def counted (n : Int) (noun : String) : String :=
  numeral n ++ " " ++ noun ++ (if 1 < n then "s" else "")

/-- The line without its style. -/
def plain (name : RawText) (errors warnings : Int) : RawText :=
  wrap name ("Found " ++ counted errors "error" ++ " and " ++ counted warnings "warning")

/-- The colour of the line: red for errors, yellow for warnings alone, and green for neither. -/
def color (errors warnings : Int) : Color :=
  if 0 < errors then .red else if 0 < warnings then .yellow else .green

/-- The summary line of a checker. -/
def line (name : RawText) (errors warnings : Int) : RawText :=
  let style : Style := { foreground := some (color errors warnings) }
  style.applyRaw (plain name errors warnings)

end Diagnostics.Summary
