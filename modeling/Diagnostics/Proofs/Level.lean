import Diagnostics.Level
import Diagnostics.Proofs.Text.Keyword

/-!
# What names a level

A level is read from its number and from the spellings of its label, and from nothing else
(`Level.ofValue?_eq_some_iff`).
-/

namespace Diagnostics.Level

open Text

variable {τ : Type} [Wording τ]

/-- The value names the level: it is its number, or a text that spells its label. -/
inductive NamedBy (l : Level) : Value τ → Prop
  | number : NamedBy l (.int l.number)
  | label {t : τ} {s : String} (ht : Wording.whole? t = some s) (h : IsSpelling l.label s) : NamedBy l (.text t)

/-- Levels have numbers of their own. -/
theorem ofNumber?_eq_some_iff {i : Int} {l : Level} :
  ofNumber? i = some l ↔ i = l.number
  := by
  constructor
  · intro h
    unfold ofNumber? at h
    split at h <;> cases h <;> rfl
  · rintro rfl
    cases l <;> rfl

/-- Levels have labels of their own. -/
theorem ofLabel?_eq_some_iff {s : String} {l : Level} :
  ofLabel? s = some l ↔ s = l.label
  := by
  constructor
  · intro h
    have hlabel := List.find?_some h
    rw [decide_eq_true_iff] at hlabel
    rw [hlabel]
  · rintro rfl
    cases l <;> decide

/-- A level is read from what names it. -/
theorem ofValue?_eq_some_iff {v : Value τ} {l : Level} :
  ofValue? v = some l ↔ l.NamedBy v
  := by
  have hlabel : l.label.toList.all (fun c => !isBlank c) = true := by cases l <;> decide
  have hne : l.label ≠ "" := by cases l <;> decide
  constructor
  · intro h
    cases v with
    | int i =>
      rw [ofNumber?_eq_some_iff.mp h]
      apply NamedBy.number
    | text t =>
      obtain ⟨s, hs, h⟩ := Option.bind_eq_some_iff.mp h
      have hspelling := (upper_trim_eq_iff hlabel hne).mp (ofLabel?_eq_some_iff.mp h)
      apply NamedBy.label hs hspelling
    | _ => contradiction
  · intro h
    cases h with
    | number => exact ofNumber?_eq_some_iff.mpr rfl
    | label ht hspelling =>
      have hread := ofLabel?_eq_some_iff.mpr ((upper_trim_eq_iff hlabel hne).mpr hspelling)
      exact Option.bind_eq_some_iff.mpr ⟨_, ht, hread⟩

/-- No level is read from a value that names none. -/
theorem ofValue?_eq_none_iff {v : Value τ} :
  ofValue? v = none ↔ ∀ l : Level, ¬ l.NamedBy v
  := by
  simp only [Option.eq_none_iff_forall_not_mem, Option.mem_def, ofValue?_eq_some_iff]

end Diagnostics.Level
