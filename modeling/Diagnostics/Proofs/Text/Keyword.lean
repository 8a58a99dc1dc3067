import Diagnostics.Text.Blank
import Diagnostics.Text.Case
import Mathlib.Data.List.DropRight
import Mathlib.Data.List.TakeWhile
import Mathlib.Tactic.Common

/-!
# Keywords

A keyword may stand in any case and between blanks. Trimming takes away the blanks at both
ends of a text and nothing else (`trimChars_append`, `exists_eq_append_trimChars`), and a
keyword without the letter `k` is found by the ASCII case mapping alone
(`flatMap_lowerChar_eq_iff`). `IsSpelling` says that a text is a keyword in upper case, as far as
case and blanks go, and `upper_trim_eq_iff` that trimming and mapping find it. `IsTrimmed` says that
a text has no blanks at its ends, so that trimming leaves it alone (`trim_eq_self_iff`).
-/

namespace Diagnostics.Text

/-! ### Blanks at the ends -/

/-- A text without blanks stays as it is. -/
theorem dropWhile_isBlank_of_forall {cs : List Char} (h : ∀ c ∈ cs, isBlank c = false) (rest : List Char)
    (hcs : cs ≠ []) :
  (cs ++ rest).dropWhile isBlank = cs ++ rest
  := by
  obtain ⟨c, cs, rfl⟩ := List.exists_cons_of_ne_nil hcs
  rw [List.cons_append, List.dropWhile_cons_of_neg]
  simp [h c List.mem_cons_self]

/-- A word between blanks is trimmed to the word. -/
theorem trimChars_append {before word after : List Char} (hbefore : ∀ c ∈ before, isBlank c = true)
    (hword : ∀ c ∈ word, isBlank c = false) (hne : word ≠ [])
    (hafter : ∀ c ∈ after, isBlank c = true) :
  trimChars (before ++ word ++ after) = word
  := by
  have hafter' : ∀ c ∈ after.reverse, isBlank c = true := by simpa using hafter
  have hword' : ∀ c ∈ word.reverse, isBlank c = false := by simpa using hword
  have hne' : word.reverse ≠ [] := by simpa using hne
  calc trimChars (before ++ word ++ after)
    _ = trimEnd (word ++ after) := by
      rw [trimChars, trimStart, List.append_assoc, List.dropWhile_append_of_pos hbefore,
        dropWhile_isBlank_of_forall hword _ hne]
    _ = ((word.reverse ++ []).dropWhile isBlank).reverse := by
      rw [trimEnd, List.reverse_append, List.dropWhile_append_of_pos hafter', List.append_nil]
    _ = word := by
      rw [dropWhile_isBlank_of_forall hword' _ hne', List.append_nil, List.reverse_reverse]

/-- Trimming takes away blanks at the ends, and nothing else. -/
theorem exists_eq_append_trimChars (cs : List Char) :
  ∃ before after, cs = before ++ trimChars cs ++ after ∧ ∀ c ∈ before ++ after, isBlank c = true
  := by
  use cs.takeWhile isBlank, ((trimStart cs).reverse.takeWhile isBlank).reverse
  constructor
  · rw [trimChars, trimEnd, List.append_assoc, ← List.reverse_append, List.takeWhile_append_dropWhile,
      List.reverse_reverse, trimStart, List.takeWhile_append_dropWhile]
  · intro c hc
    rw [List.mem_append, List.mem_reverse] at hc
    obtain hc | hc := hc
    · apply List.mem_takeWhile_imp hc
    · apply List.mem_takeWhile_imp hc

/-- The text neither starts nor ends with a blank. -/
def IsTrimmed (s : String) : Prop :=
  (∀ c ∈ s.toList.head?, isBlank c = false) ∧ ∀ c ∈ s.toList.getLast?, isBlank c = false

theorem trimStart_eq_self_iff {cs : List Char} :
  trimStart cs = cs ↔ ∀ c ∈ cs.head?, isBlank c = false
  := by
  cases cs with
  | nil => simp [trimStart]
  | cons c cs => simp [trimStart, List.dropWhile_eq_self_iff]

theorem trimEnd_eq_self_iff {cs : List Char} :
  trimEnd cs = cs ↔ ∀ c ∈ cs.getLast?, isBlank c = false
  := by
  rw [← List.head?_reverse, ← trimStart_eq_self_iff, trimEnd, trimStart, List.reverse_eq_iff]

/-- Trimming changes nothing exactly when there is nothing to trim. -/
theorem trim_eq_self_iff {s : String} :
  trim s = s ↔ IsTrimmed s
  := by
  have hchars : trim s = s ↔ trimChars s.toList = s.toList := by
    rw [← String.toList_inj, trim, String.toList_ofList]
  rw [hchars, IsTrimmed, ← trimStart_eq_self_iff, ← trimEnd_eq_self_iff, trimChars]
  constructor
  · intro h
    have hstart : trimStart s.toList = s.toList := by
      apply (List.dropWhile_suffix isBlank).eq_of_length_le
      calc s.toList.length
        _ = (trimEnd (trimStart s.toList)).length := by rw [h]
        _ ≤ (trimStart s.toList).length := (List.rdropWhile_prefix isBlank (trimStart s.toList)).length_le
    rw [hstart] at h
    exact ⟨hstart, h⟩
  · rintro ⟨hstart, hend⟩
    rw [hstart, hend]

instance (s : String) : Decidable (IsTrimmed s) :=
  decidable_of_iff _ trim_eq_self_iff

/-! ### Case -/

/-- Outside ASCII only the Kelvin sign has an ASCII letter for its image. -/
theorem lowerChar_eq (c : Char) :
  lowerChar c = [if c = '\u212a' then 'k' else c.toLower]
  := by
  by_cases h : c = '\u212a'
  · subst h
    rfl
  · have hbeq : (c == '\u212a') = false := by simpa using h
    simp [lowerChar, lowerImages, List.lookup_cons, hbeq, h]

/-- A text has a keyword for its lower case exactly when its ASCII letters spell it, unless the keyword
has the letter of the Kelvin sign. -/
theorem flatMap_lowerChar_eq_iff {cs key : List Char} (hk : 'k' ∉ key) (hsign : '\u212a' ∉ key) :
  cs.flatMap lowerChar = key ↔ cs.map Char.toLower = key
  := by
  induction cs generalizing key with
  | nil => rfl
  | cons c cs ih =>
    rw [List.flatMap_cons, List.map_cons, lowerChar_eq, List.singleton_append]
    cases key with
    | nil => simp
    | cons d key =>
      obtain ⟨hd, hkey⟩ := not_or.mp (fun h => hk (List.mem_cons.mpr h))
      obtain ⟨hd', hkey'⟩ := not_or.mp (fun h => hsign (List.mem_cons.mpr h))
      rw [List.cons.injEq, List.cons.injEq, ih hkey hkey']
      by_cases h : c = '\u212a'
      · subst h
        have hlower : Char.toLower '\u212a' = '\u212a' := rfl
        simp [hlower, hd, hd']
      · rw [if_neg h]

/-- No blank is among the capital letters of ASCII or among its small ones. -/
theorem not_letter_of_isBlank {c : Char} (h : isBlank c = true) :
  ¬ (65 ≤ c.toNat ∧ c.toNat ≤ 90) ∧ ¬ (97 ≤ c.toNat ∧ c.toNat ≤ 122)
  := by
  have hapart : ∀ r ∈ blankRanges, r.2 < 65 ∨ 90 < r.1 ∧ r.2 < 97 ∨ 122 < r.1 := by decide
  obtain ⟨r, hr, hlow, hhigh⟩ := inRanges_iff.mp h
  have hc := hapart r hr
  omega

/-- A character outside of the table of images has an ASCII one. -/
theorem upperChar_of_ne {c : Char} (h : ∀ i ∈ upperImages, c ≠ i.1) :
  upperChar c = [c.toUpper]
  := by
  have hlookup : upperImages.lookup c = none := by
    rw [List.lookup_eq_none_iff]
    intro i hi
    simpa using h i hi
  rw [upperChar, hlookup, Option.getD_none]

/-- Case does not matter to a blank. -/
theorem upperChar_of_isBlank {c : Char} (h : isBlank c = true) :
  upperChar c = [c]
  := by
  have himages : ∀ i ∈ upperImages, isBlank i.1 = false := by decide
  have hc : c.toUpper = c := by
    apply dif_neg
    exact (not_letter_of_isBlank h).2
  rw [upperChar_of_ne, hc]
  rintro i hi rfl
  rw [himages i hi] at h
  contradiction

theorem toLower_of_isBlank {c : Char} (h : isBlank c = true) :
  c.toLower = c
  := by
  apply dif_neg
  exact (not_letter_of_isBlank h).1

theorem lowerChar_of_isBlank {c : Char} (h : isBlank c = true) :
  lowerChar c = [c]
  := by
  have hsign : c ≠ '\u212a' := by
    rintro rfl
    contradiction
  rw [lowerChar_eq, if_neg hsign, toLower_of_isBlank h]

/-- A text whose lower case has no blanks is trimmed. -/
theorem isTrimmed_of_lower_eq {key s : String} (hkey : key.toList.all (fun c => !isBlank c) = true)
    (h : lower s = key) :
  IsTrimmed s
  := by
  have hnone : ∀ c ∈ s.toList, isBlank c = false := by
    intro c hc
    by_contra hblank
    rw [Bool.not_eq_false] at hblank
    have hmem : c ∈ key.toList := by
      rw [← h, lower, String.toList_ofList, List.mem_flatMap]
      use c, hc
      simp [lowerChar_of_isBlank hblank]
    have hc := List.all_eq_true.mp hkey c hmem
    rw [hblank] at hc
    contradiction
  constructor
  · intro c hc
    apply hnone c (List.mem_of_mem_head? hc)
  · intro c hc
    apply hnone c (List.mem_of_mem_getLast? hc)

/-- The text is the keyword, which is in upper case, but for the case of its letters and the blanks
around it. -/
def IsSpelling (key s : String) : Prop :=
  ∃ before word after, s.toList = before ++ word ++ after ∧ (∀ c ∈ before ++ after, isBlank c = true)
    ∧ word.flatMap upperChar = key.toList

/-- A trimmed text has a keyword for its upper case exactly when it is a spelling of it. -/
theorem upper_trim_eq_iff {key s : String} (hkey : key.toList.all (fun c => !isBlank c) = true)
    (hne : key ≠ "") :
  upper (trim s) = key ↔ IsSpelling key s
  := by
  have hchars : upper (trim s) = key ↔ (trimChars s.toList).flatMap upperChar = key.toList := by
    rw [← String.toList_inj, upper, trim, String.toList_ofList, String.toList_ofList]
  rw [hchars]
  constructor
  · intro h
    obtain ⟨before, after, hs, hblank⟩ := exists_eq_append_trimChars s.toList
    use before, trimChars s.toList, after
  · rintro ⟨before, word, after, hs, hblank, hword⟩
    have hletter : ∀ c ∈ word, isBlank c = false := by
      intro c hc
      by_contra hblank
      rw [Bool.not_eq_false] at hblank
      have hmem : c ∈ key.toList := by
        rw [← hword, List.mem_flatMap]
        use c, hc
        simp [upperChar_of_isBlank hblank]
      have hc := List.all_eq_true.mp hkey c hmem
      rw [hblank] at hc
      contradiction
    have hword' : word ≠ [] := by
      rintro rfl
      apply hne
      rw [← String.toList_inj, ← hword]
      rfl
    obtain ⟨hbefore, hafter⟩ := List.forall_mem_append.mp hblank
    rw [hs, trimChars_append hbefore hletter hword' hafter, hword]

end Diagnostics.Text
