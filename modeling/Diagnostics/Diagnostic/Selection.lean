import Diagnostics.Diagnostic.Basic

/-!
# Selection by level and counts

A diagnostic is selected when its level is known and among the wanted ones.
`Stats.ofDiagnostics` counts diagnostics by the level under which they are shown.
-/

namespace Diagnostics

namespace Diagnostic

/-- The level of the diagnostic is known and among `levels`. -/
def isSelected (levels : List Level) (d : Diagnostic) : Bool :=
  match d.level with
  | some l => levels.contains l
  | none => false

/-- The selected diagnostics, in their order. -/
def select (levels : List Level) (ds : List Diagnostic) : List Diagnostic :=
  ds.filter (isSelected levels)

/-- A diagnostic is selected exactly when it has a wanted level. -/
theorem isSelected_iff {levels : List Level} {d : Diagnostic} :
  d.isSelected levels = true ↔ ∃ l ∈ levels, d.level = some l
  := by
  unfold isSelected
  cases d.level with
  | none => simp
  | some l => simp

/-- The selected diagnostics are those that have a wanted level. -/
theorem select_eq_filter (levels : List Level) (ds : List Diagnostic) :
  select levels ds = ds.filter fun d => ∃ l ∈ levels, d.level = some l
  := by
  apply List.filter_congr
  intro d _
  rw [Bool.eq_iff_iff, isSelected_iff, decide_eq_true_iff]

end Diagnostic

/-- How many diagnostics there are of each level. -/
structure Stats where
  errors : Nat
  warnings : Nat
  suggestions : Nat
  messages : Nat
deriving DecidableEq, Repr

namespace Stats

/-- The number of diagnostics shown under a level. -/
def count (l : Level) (ds : List Diagnostic) : Nat :=
  ds.countP fun d => d.shownLevel = l

/-- The counts of a list of diagnostics. -/
def ofDiagnostics (ds : List Diagnostic) : Stats :=
  { errors := count .error ds
    warnings := count .warning ds
    suggestions := count .suggestion ds
    messages := count .message ds }

/-- The number of diagnostics of all levels. -/
def total (s : Stats) : Nat :=
  s.errors + s.warnings + s.suggestions + s.messages

end Stats

end Diagnostics
