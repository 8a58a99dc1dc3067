import Mathlib.Data.List.Nodup

/-!
# Lists of pairs

What a key is looked up as in a list of pairs: in the first pair and the rest, among the pairs of some
keys only, and in a list that repeats no key.
-/

namespace Diagnostics

variable {α β : Type} [DecidableEq α]

/-- A key is looked up in the first pair if this has it, and in the rest otherwise. -/
theorem lookup_cons_eq_ite (key a : α) (b : β) (pairs : List (α × β)) :
  ((a, b) :: pairs).lookup key = if key = a then some b else pairs.lookup key
  := by
  by_cases h : key = a
  · simp [h]
  · rw [List.lookup_cons, beq_false_of_ne h, if_neg h]

/-- Among the pairs whose keys are kept, these are looked up as before and others not found. -/
theorem lookup_filter_key (keep : α → Bool) (key : α) (pairs : List (α × β)) :
  (pairs.filter fun p => keep p.1).lookup key = if keep key then pairs.lookup key else none
  := by
  induction pairs with
  | nil => simp
  | cons p pairs ih =>
    obtain ⟨a, b⟩ := p
    rw [List.filter_cons, lookup_cons_eq_ite]
    by_cases hkey : key = a
    · subst hkey
      cases hkeep : keep key <;> simp [hkeep, ih]
    · rw [if_neg hkey, ← ih]
      cases keep a <;> simp [lookup_cons_eq_ite, hkey]

/-- When no key is repeated, each is looked up as what it is paired with. -/
theorem lookup_eq_some_iff_mem {pairs : List (α × β)} (hkeys : (pairs.map Prod.fst).Nodup) {key : α} {b : β} :
  pairs.lookup key = some b ↔ (key, b) ∈ pairs
  := by
  rw [List.lookup_eq_some_iff]
  constructor
  · rintro ⟨before, after, rfl, -⟩
    simp
  · intro hmem
    obtain ⟨before, after, rfl⟩ := List.append_of_mem hmem
    refine ⟨before, after, rfl, ?_⟩
    intro p hp
    rw [List.map_append, List.nodup_append] at hkeys
    simpa using (hkeys.2.2 p.1 (List.mem_map_of_mem hp) key (by simp)).symm

end Diagnostics
