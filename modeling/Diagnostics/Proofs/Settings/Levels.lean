import Diagnostics.Proofs.Level
import Diagnostics.Settings.Basic
import Mathlib.Tactic.Common

/-!
# The levels that a table leaves

A configuration table that gives no list of levels leaves those that were selected, and a list
replaces them by those that its items name (`Source.mem_levelsOf_iff`). Selected levels are thus
lost to a list in which no item names one, whether it is empty or not; every such item is told in a
notice (`Settings.levels_lost_iff`).
-/

namespace Diagnostics

namespace Source

variable {table : Toml.Members} {items : List Toml.Value}

/-- The levels that a list gives are those that its items name. -/
theorem mem_levelsOf_iff {l : Level} :
  l ∈ levelsOf items ↔ ∃ v ∈ items, l.NamedBy v
  := by
  simp only [levelsOf, List.mem_eraseDups, List.mem_filterMap, Level.ofValue?_eq_some_iff]

/-- A list gives no level when no item names one. -/
theorem levelsOf_eq_nil_iff :
  levelsOf items = [] ↔ ∀ v ∈ items, ∀ l : Level, ¬ l.NamedBy v
  := by
  simp only [List.eq_nil_iff_forall_not_mem, mem_levelsOf_iff, not_exists, not_and]
  constructor
  · intro h v hv l
    apply h l v hv
  · intro h l v hv
    apply h v hv l

/-- A table gives levels by a list. -/
theorem levelsIn_eq_some_iff {levels : List Level} :
  levelsIn table = some levels ↔ ∃ items, table.get? "log_levels" = some (.list items) ∧ levelsOf items = levels
  := by
  unfold levelsIn
  split
  · next items hitems => simp [hitems]
  · next hnone =>
    constructor
    · intro h
      contradiction
    · rintro ⟨items, hitems, -⟩
      exact absurd hitems (hnone items)

/-- A table without a list of levels gives none. -/
theorem levelsIn_eq_none (h : ∀ items, table.get? "log_levels" ≠ some (.list items)) :
  levelsIn table = none
  := by
  rw [Option.eq_none_iff_forall_not_mem]
  intro levels hlevels
  obtain ⟨items, hitems, -⟩ := levelsIn_eq_some_iff.mp hlevels
  exact h items hitems

/-- The notice on an item that names no level. -/
def unknownLevel (place : String) (v : Toml.Value) : Log.Notice :=
  ignored (place ++ ": unknown diagnostic level " ++ v.literal ++ " skipped")

/-- The notice on levels that are no list. -/
def levelsNoList (place : String) (v : Toml.Value) : Log.Notice :=
  ignored (place ++ ": 'log_levels' must be a list, got " ++ v.literal)

/-- Each item that names no level is told. -/
theorem unknownLevel_mem_notices (file : Option Path) {v : Toml.Value}
    (hitems : table.get? "log_levels" = some (.list items)) (hv : v ∈ items)
    (hnone : ∀ l : Level, ¬ l.NamedBy v) :
  unknownLevel (placeName file) v ∈ notices file table
  := by
  have hmem : unknownLevel (placeName file) v ∈ levelNotices (placeName file) table := by
    rw [levelNotices, hitems]
    apply List.mem_map_of_mem
    rw [List.mem_filter]
    use hv
    rw [Level.ofValue?_eq_none_iff.mpr hnone]
    rfl
  simp [notices, hmem]

/-- A value for the levels that is no list is told. -/
theorem levelsNoList_mem_notices (file : Option Path) {v : Toml.Value}
    (hv : table.get? "log_levels" = some v) (hlist : ∀ items, v ≠ .list items) :
  levelsNoList (placeName file) v ∈ notices file table
  := by
  have hmem : levelsNoList (placeName file) v ∈ levelNotices (placeName file) table := by
    rw [levelNotices, hv]
    cases v with
    | list items => exact absurd rfl (hlist items)
    | _ => exact List.mem_singleton_self _
  simp [notices, hmem]

end Source

namespace Settings

/-- The levels that a table gives replace those before, also when reading the table breaks off behind
them. -/
theorem levels_applyTable (s : Settings) (file : Option Path) (table : Toml.Members) :
  (s.applyTable file table).settings.levels = (Source.levelsIn table).getD s.levels
  := by
  rw [applyTable]
  split <;> rfl

/-- Levels that are selected are all lost exactly to a table with a list in which no item names a level.
A table that gives no list leaves them as they are, and a list leaves those that its items name. What is
ignored is told: a value that is no list, and each item that names no level. -/
theorem levels_lost_iff {s : Settings} (h : s.levels ≠ []) (file : Option Path) (table : Toml.Members) :
  ((s.applyTable file table).settings.levels = []
      ↔ ∃ items, table.get? "log_levels" = some (.list items) ∧ ∀ v ∈ items, ∀ l : Level, ¬ l.NamedBy v)
    ∧ ((∀ items, table.get? "log_levels" ≠ some (.list items)) →
      (s.applyTable file table).settings.levels = s.levels)
    ∧ (∀ items, table.get? "log_levels" = some (.list items) →
      ∀ l, l ∈ (s.applyTable file table).settings.levels ↔ ∃ v ∈ items, l.NamedBy v)
    ∧ (∀ v, table.get? "log_levels" = some v → (∀ items, v ≠ .list items) →
      Source.levelsNoList (Source.placeName file) v ∈ Source.notices file table)
    ∧ ∀ items, table.get? "log_levels" = some (.list items) → ∀ v ∈ items, (∀ l : Level, ¬ l.NamedBy v) →
      Source.unknownLevel (Source.placeName file) v ∈ Source.notices file table
  := by
  have happly := levels_applyTable s file table
  have hkept : (∀ items, table.get? "log_levels" ≠ some (.list items)) →
      (s.applyTable file table).settings.levels = s.levels := by
    intro hnone
    rw [happly, Source.levelsIn_eq_none hnone, Option.getD_none]
  have hreplaced : ∀ items, table.get? "log_levels" = some (.list items) →
      (s.applyTable file table).settings.levels = Source.levelsOf items := by
    intro items hitems
    rw [happly, Source.levelsIn_eq_some_iff.mpr ⟨items, hitems, rfl⟩, Option.getD_some]
  and_intros
  · constructor
    · intro hlost
      by_cases hlist : ∃ items, table.get? "log_levels" = some (.list items)
      · obtain ⟨items, hitems⟩ := hlist
        rw [hreplaced items hitems] at hlost
        exact ⟨items, hitems, Source.levelsOf_eq_nil_iff.mp hlost⟩
      · -- The levels are those from before, and there were some.
        rw [hkept (not_exists.mp hlist)] at hlost
        contradiction
    · rintro ⟨items, hitems, hnone⟩
      rw [hreplaced items hitems, Source.levelsOf_eq_nil_iff]
      exact hnone
  · exact hkept
  · intro items hitems l
    rw [hreplaced items hitems, Source.mem_levelsOf_iff]
  · intro v hv hlist
    apply Source.levelsNoList_mem_notices file hv hlist
  · intro items hitems v hv hnone
    apply Source.unknownLevel_mem_notices file hitems hv hnone

/-- No item of this list names a level: a misspelled label, a number out of range, a truth value and a list
with a number. -/
def vagueLevels : List Toml.Value :=
  [.text "wraning", .int 4, .bool true, .list [.int 1]]

/-- The levels of the defaults are lost to it. -/
theorem levels_lost_vague :
  ({} : Settings).levels ≠ [] ∧ (∀ v ∈ vagueLevels, ∀ l : Level, ¬ l.NamedBy v)
    ∧ (({} : Settings).applyTable none [("log_levels", .list vagueLevels)]).settings.levels = []
  := by
  have hlevels : ({} : Settings).levels ≠ [] := by decide
  have hread : ∀ v ∈ vagueLevels, Level.ofValue? v = none := by
    simp only [vagueLevels, List.forall_mem_cons]
    and_intros <;> first | rfl | (intro v hv; cases hv)
  have hnone : ∀ v ∈ vagueLevels, ∀ l : Level, ¬ l.NamedBy v :=
    fun v hv => Level.ofValue?_eq_none_iff.mp (hread v hv)
  obtain ⟨hlost, -⟩ := levels_lost_iff hlevels none [("log_levels", .list vagueLevels)]
  exact ⟨hlevels, hnone, hlost.mpr ⟨vagueLevels, rfl, hnone⟩⟩

/-- The defaults select all levels, and a list whose only item is a misspelled label leaves none of them. -/
theorem levels_lost_misspelled :
  ({} : Settings).levels = Level.all
    ∧ (({} : Settings).applyTable none [("log_levels", .list [.text "wraning"])]).settings.levels = []
  := by
  exact ⟨rfl, by decide⟩

end Settings

end Diagnostics
