import Diagnostics.Proofs.Json.Numbers
import Diagnostics.Proofs.Text.Keyword
import Diagnostics.Settings.ColorMode
import Diagnostics.Value

/-!
# Spellings of colour modes

A colour mode is read from its name in any case and between blanks, and from nothing else
(`ColorMode.ofText?_eq_some_iff`). What shows a value that is no text is never such a
spelling (`ColorMode.exists_eq_text_of_spells`).
-/

namespace Diagnostics

open Decimal Text

namespace ColorMode

/-- The text is the name of the mode, in any case and between blanks. -/
def Spells (m : ColorMode) (s : String) : Prop :=
  ∃ before word after, s.toList = before ++ word ++ after ∧ (∀ c ∈ before ++ after, isBlank c = true)
    ∧ word.map Char.toLower = m.name.toList

/-- The letters of a name are no blanks. -/
theorem isBlank_of_toLower_mem_name {m : ColorMode} {c : Char} (h : c.toLower ∈ m.name.toList) :
  isBlank c = false
  := by
  have hname : m.name.toList.all (fun c => !isBlank c) = true := by cases m <;> decide
  by_contra hblank
  rw [Bool.not_eq_false] at hblank
  rw [toLower_of_isBlank hblank] at h
  have hc := List.all_eq_true.mp hname c h
  rw [hblank] at hc
  contradiction

/-- Modes have names of their own. -/
theorem find?_name (m : ColorMode) :
  all.find? (fun m' => m'.name = m.name) = some m
  := by
  cases m <;> decide

/-- A mode is read from the texts that trimming and mapping turn into its name. -/
theorem ofText?_eq_some_iff_lower_trim {s : String} {m : ColorMode} :
  ofText? s = some m ↔ lower (trim s) = m.name
  := by
  constructor
  · intro h
    have hname := List.find?_some h
    rw [decide_eq_true_iff] at hname
    exact hname.symm
  · intro h
    rw [ofText?, h]
    apply find?_name

/-- A mode is read from its spellings. -/
theorem ofText?_eq_some_iff {s : String} {m : ColorMode} :
  ofText? s = some m ↔ m.Spells s
  := by
  have hk : 'k' ∉ m.name.toList := by cases m <;> decide
  have hsign : '\u212a' ∉ m.name.toList := by cases m <;> decide
  have hkey : ofText? s = some m ↔ (trimChars s.toList).map Char.toLower = m.name.toList := by
    rw [ofText?_eq_some_iff_lower_trim, ← flatMap_lowerChar_eq_iff hk hsign, ← String.toList_inj, lower, trim,
      String.toList_ofList, String.toList_ofList]
  rw [hkey]
  constructor
  · intro h
    obtain ⟨before, after, hs, hblank⟩ := exists_eq_append_trimChars s.toList
    use before, trimChars s.toList, after
  · rintro ⟨before, word, after, hs, hblank, hword⟩
    have hletter : ∀ c ∈ word, isBlank c = false := by
      intro c hc
      apply isBlank_of_toLower_mem_name (m := m)
      rw [← hword]
      apply List.mem_map_of_mem hc
    have hne : word ≠ [] := by
      have hname : m.name.toList ≠ [] := by cases m <;> decide
      rintro rfl
      apply hname hword.symm
    obtain ⟨hbefore, hafter⟩ := List.forall_mem_append.mp hblank
    rw [hs, trimChars_append hbefore hletter hne hafter, hword]

/-! ### Values that are no texts -/

/-- A character that is neither a blank nor a letter of the mode does not occur in its spellings. -/
theorem Spells.notMem {m : ColorMode} {s : String} (h : m.Spells s) {c : Char} (hblank : isBlank c = false)
    (hname : c.toLower ∉ m.name.toList) :
  c ∉ s.toList
  := by
  obtain ⟨before, word, after, hs, hblanks, hword⟩ := h
  intro hc
  rw [hs, List.mem_append, List.mem_append] at hc
  rw [List.forall_mem_append] at hblanks
  obtain (hc | hc) | hc := hc
  · rw [hblanks.1 c hc] at hblank
    contradiction
  · apply hname
    rw [← hword]
    apply List.mem_map_of_mem hc
  · rw [hblanks.2 c hc] at hblank
    contradiction

/-- Characters that no spelling of a mode holds: signs, points, brackets, braces and digits. -/
def foreign : List Char :=
  "+-.[\x7b0123456789".toList

/-- A digit is foreign to modes. -/
theorem mem_foreign_of_isDigit {c : Char} (h : c.isDigit = true) :
  c ∈ foreign
  := by
  have hall : ∀ i : Fin 10, Char.ofNat (48 + i) ∈ foreign := by decide
  simp only [Char.isDigit, Bool.and_eq_true, decide_eq_true_eq] at h
  obtain ⟨hlow, hhigh⟩ := h
  have hlow' : 48 ≤ c.toNat := hlow
  have hhigh' : c.toNat ≤ 57 := hhigh
  have hc := hall ⟨c.toNat - 48, by omega⟩
  rwa [Nat.add_sub_cancel' hlow', Char.ofNat_toNat] at hc

/-- The spellings of modes hold no foreign characters. -/
theorem Spells.notMem_of_foreign {m : ColorMode} {s : String} (h : m.Spells s) {c : Char}
    (hc : c ∈ foreign) :
  c ∉ s.toList
  := by
  have hforeign : foreign.all (fun c => !isBlank c && !m.name.toList.contains c.toLower) = true := by
    cases m <;> decide
  obtain ⟨hblank, hname⟩ : isBlank c = false ∧ c.toLower ∉ m.name.toList := by
    simpa using List.all_eq_true.mp hforeign c hc
  apply h.notMem hblank hname

/-- A double is shown with a sign or a point, or as infinite or undefined. -/
theorem floatLiteral_cases (x : Binary64) :
  Value.floatLiteral x = "inf".toList ∨ Value.floatLiteral x = "nan".toList
    ∨ ∃ c ∈ foreign, c ∈ Value.floatLiteral x
  := by
  have hnotation : ∀ ds places, ∃ c ∈ foreign, c ∈ notationOf ds places := by
    intro ds places
    unfold notationOf
    split
    · by_cases hneg : places - 1 < 0
      · exact ⟨'-', by decide, by simp [exponentChars, hneg]⟩
      · exact ⟨'+', by decide, by simp [exponentChars, hneg]⟩
    · split
      · exact ⟨'.', by decide, by simp⟩
      · exact ⟨'.', by decide, by simp⟩
  unfold Value.floatLiteral Binary64.chars
  split
  · exact .inr (.inl rfl)
  · split
    · exact .inr (.inr ⟨'-', by decide, by simp⟩)
    · rw [List.nil_append]
      split
      · exact .inl rfl
      · right
        right
        dsimp only
        split
        · exact ⟨'.', by decide, by decide⟩
        · apply hnotation

/-- Only a text is shown as a spelling of a mode. -/
theorem exists_eq_text_of_spells {v : Toml.Value} {m : ColorMode} (h : m.Spells v.plain) :
  ∃ s, v = .text s
  := by
  have hnone : ∀ s ∈ ["None", "True", "False", "inf", "nan"], ofText? s = none := by decide +kernel
  have hword : v.plain ∉ ["None", "True", "False", "inf", "nan"] := by
    intro hmem
    have hread := ofText?_eq_some_iff.mpr h
    rw [hnone _ hmem] at hread
    contradiction
  have hforeign : ∀ c ∈ foreign, c ∉ v.plain.toList := fun c hc => h.notMem_of_foreign hc
  cases v with
  | text s => exact ⟨s, rfl⟩
  | null => simp [Value.plain, Value.literal, Value.literalChars] at hword
  | bool b => cases b <;> simp [Value.plain, Value.literal, Value.literalChars] at hword
  | int i =>
    obtain ⟨c, cs, hchars, hc⟩ := exists_numeralChars_eq_cons i
    have hmem : c ∈ foreign := by
      obtain hdigit | rfl := hc
      · apply mem_foreign_of_isDigit hdigit
      · decide
    apply absurd _ (hforeign c hmem)
    simp [Value.plain, Value.literal, Value.literalChars, hchars]
  | float x =>
    obtain hinf | hnan | ⟨c, hc, hmem⟩ := floatLiteral_cases x
    · simp [Value.plain, Value.literal, Value.literalChars, hinf] at hword
    · simp [Value.plain, Value.literal, Value.literalChars, hnan] at hword
    · apply absurd _ (hforeign c hc)
      simpa [Value.plain, Value.literal, Value.literalChars] using hmem
  | list items =>
    apply absurd _ (hforeign '[' (by decide))
    simp [Value.plain, Value.literal, Value.literalChars]
  | object members =>
    apply absurd _ (hforeign '\x7b' (by decide))
    simp [Value.plain, Value.literal, Value.literalChars]

end ColorMode

end Diagnostics
