import Diagnostics.Proofs.Text.Utf8
import Diagnostics.Text.Raw
import Mathlib.Data.List.Basic
import Mathlib.Tactic.Common

/-!
# Texts among raw texts

A text is the raw text of its units, and the only one that is read as it
(`RawText.whole?_eq_some_iff`). So different texts are different raw texts.
-/

namespace Diagnostics

namespace Text

/-! ### Units of characters -/

/-- A character is below the surrogates, or above them and within Unicode. -/
theorem toNat_cases (c : Char) :
  c.toNat < 0xd800 ∨ 0xe000 ≤ c.toNat ∧ c.toNat < 0x110000
  := by
  obtain h | h := c.valid
  · left
    apply h
  · right
    obtain ⟨h₁, h₂⟩ := h
    exact ⟨h₁, h₂⟩

/-- A number below 2 ^ 16 is that of its unit. -/
theorem toNat_ofNat_unit {n : Nat} (h : n < 0x10000) :
  (UInt16.ofNat n).toNat = n
  := UInt16.toNat_ofNat_of_lt h

/-- The unit of a character of the basic plane belongs to no pair. -/
theorem ofUnit_ofNat {c : Char} (h : c.toNat < 0x10000) :
  isHighUnit (.ofNat c.toNat) = false ∧ Symbol.ofUnit (.ofNat c.toNat) = .char c
  := by
  have hc := toNat_cases c
  have hhigh : isHighUnit (.ofNat c.toNat) = false := by
    rw [isHighUnit, toNat_ofNat_unit h, Bool.and_eq_false_iff, decide_eq_false_iff_not,
      decide_eq_false_iff_not]
    omega
  have hlow : isLowUnit (.ofNat c.toNat) = false := by
    rw [isLowUnit, toNat_ofNat_unit h, Bool.and_eq_false_iff, decide_eq_false_iff_not,
      decide_eq_false_iff_not]
    omega
  refine ⟨hhigh, ?_⟩
  rw [Symbol.ofUnit, hhigh, hlow, toNat_ofNat_unit h, Char.ofNat_toNat]
  rfl

/-- The units of a character beyond the basic plane are the pair of the character. -/
theorem ofPair_ofNat {c : Char} (h : ¬ c.toNat < 0x10000) :
  isHighUnit (.ofNat (0xd800 + (c.toNat - 0x10000) / 0x400)) = true
    ∧ isLowUnit (.ofNat (0xdc00 + (c.toNat - 0x10000) % 0x400)) = true
    ∧ Symbol.ofPair (.ofNat (0xd800 + (c.toNat - 0x10000) / 0x400))
      (.ofNat (0xdc00 + (c.toNat - 0x10000) % 0x400)) = .char c
  := by
  have hc := toNat_cases c
  have hhigh : (UInt16.ofNat (0xd800 + (c.toNat - 0x10000) / 0x400)).toNat
      = 0xd800 + (c.toNat - 0x10000) / 0x400 := toNat_ofNat_unit (by omega)
  have hlow : (UInt16.ofNat (0xdc00 + (c.toNat - 0x10000) % 0x400)).toNat
      = 0xdc00 + (c.toNat - 0x10000) % 0x400 := toNat_ofNat_unit (by omega)
  have hpoint : 0x10000 + (0xd800 + (c.toNat - 0x10000) / 0x400 - 0xd800) * 0x400
      + (0xdc00 + (c.toNat - 0x10000) % 0x400 - 0xdc00) = c.toNat := by omega
  and_intros
  · rw [isHighUnit, hhigh, Bool.and_eq_true, decide_eq_true_eq, decide_eq_true_eq]
    omega
  · rw [isLowUnit, hlow, Bool.and_eq_true, decide_eq_true_eq, decide_eq_true_eq]
    omega
  · rw [Symbol.ofPair, hhigh, hlow, hpoint, Char.ofNat_toNat]

/-- A unit that starts no pair is a symbol of its own. -/
theorem ofUnits_cons {u : UInt16} (h : isHighUnit u = false) (us : List UInt16) :
  Symbol.ofUnits (u :: us) = Symbol.ofUnit u :: Symbol.ofUnits us
  := by
  cases us with
  | nil => rfl
  | cons low us => simp [Symbol.ofUnits, h]

/-- The units of a character stand for the character, whatever follows. -/
theorem ofUnits_unitsOf_append (c : Char) (us : List UInt16) :
  Symbol.ofUnits (unitsOf c ++ us) = .char c :: Symbol.ofUnits us
  := by
  rw [unitsOf]
  split
  · next h =>
    obtain ⟨hhigh, hchar⟩ := ofUnit_ofNat h
    rw [List.singleton_append, ofUnits_cons hhigh, hchar]
  · next h =>
    obtain ⟨hhigh, hlow, hchar⟩ := ofPair_ofNat h
    simp only [List.cons_append, List.nil_append, Symbol.ofUnits, hhigh, hlow, Bool.and_self, if_true, hchar]

/-- The units of characters stand for the characters. -/
theorem ofUnits_flatMap_unitsOf (cs : List Char) :
  Symbol.ofUnits (cs.flatMap unitsOf) = cs.map .char
  := by
  induction cs with
  | nil => rfl
  | cons c cs ih => rw [List.flatMap_cons, ofUnits_unitsOf_append, ih, List.map_cons]

/-! ### Characters of units -/

/-- The unit of a character is that of the basic plane. -/
theorem unitsOf_of_ofUnit {u : UInt16} {c : Char} (h : Symbol.ofUnit u = .char c) :
  unitsOf c = [u]
  := by
  unfold Symbol.ofUnit at h
  split at h
  · contradiction
  · next hhalf =>
    have hu := u.toNat_lt
    simp only [isHighUnit, isLowUnit, Bool.or_eq_true, Bool.and_eq_true, decide_eq_true_eq] at hhalf
    cases h
    have hpoint : (Char.ofNat u.toNat).toNat = u.toNat := Utf8.toNat_charOfNat (by omega)
    rw [unitsOf, hpoint, if_pos (by omega), UInt16.ofNat_toNat]

/-- The units of the character of a pair are the pair. -/
theorem unitsOf_of_ofPair {high low : UInt16} {c : Char} (hhigh : isHighUnit high = true)
    (hlow : isLowUnit low = true) (h : Symbol.ofPair high low = .char c) :
  unitsOf c = [high, low]
  := by
  simp only [isHighUnit, isLowUnit, Bool.and_eq_true, decide_eq_true_eq] at hhigh hlow
  obtain ⟨h₁, h₂⟩ := hhigh
  obtain ⟨h₃, h₄⟩ := hlow
  obtain rfl := Symbol.char.inj h
  have hpoint : (Char.ofNat (0x10000 + (high.toNat - 0xd800) * 0x400 + (low.toNat - 0xdc00))).toNat
      = 0x10000 + (high.toNat - 0xd800) * 0x400 + (low.toNat - 0xdc00) :=
    Utf8.toNat_charOfNat (by omega)
  have hquotient : 0xd800 + (0x10000 + (high.toNat - 0xd800) * 0x400 + (low.toNat - 0xdc00) - 0x10000) / 0x400
      = high.toNat := by omega
  have hremainder : 0xdc00 + (0x10000 + (high.toNat - 0xd800) * 0x400 + (low.toNat - 0xdc00) - 0x10000) % 0x400
      = low.toNat := by omega
  rw [unitsOf, hpoint, if_neg (by omega), hquotient, hremainder, UInt16.ofNat_toNat, UInt16.ofNat_toNat]

/-- Units that stand for characters alone are the units of these characters. -/
theorem eq_flatMap_unitsOf {us : List UInt16} {cs : List Char}
    (h : (Symbol.ofUnits us).mapM Symbol.char? = some cs) :
  us = cs.flatMap unitsOf
  := by
  induction us using Symbol.ofUnits.induct generalizing cs with
  | case1 =>
    cases h
    rfl
  | case2 u =>
    simp only [Symbol.ofUnits, List.mapM_cons, List.mapM_nil] at h
    obtain ⟨c, hc, hcs⟩ := Option.bind_eq_some_iff.mp h
    cases hcs
    cases hu : Symbol.ofUnit u with
    | half u' => simp [hu, Symbol.char?] at hc
    | char c' =>
      rw [hu] at hc
      cases hc
      simp [unitsOf_of_ofUnit hu]
  | case3 high low rest hpair ih =>
    rw [Symbol.ofUnits, if_pos hpair, List.mapM_cons] at h
    obtain ⟨c, hc, hcs⟩ := Option.bind_eq_some_iff.mp h
    obtain ⟨cs', hcs', heq⟩ := Option.bind_eq_some_iff.mp hcs
    cases heq
    obtain ⟨hhigh, hlow⟩ := Bool.and_eq_true_iff.mp hpair
    have hchar : Symbol.ofPair high low = .char c := congrArg Symbol.char (Option.some.inj hc)
    rw [List.flatMap_cons, unitsOf_of_ofPair hhigh hlow hchar, ← ih hcs']
    rfl
  | case4 high low rest hpair ih =>
    rw [Symbol.ofUnits, if_neg hpair, List.mapM_cons] at h
    obtain ⟨c, hc, hcs⟩ := Option.bind_eq_some_iff.mp h
    obtain ⟨cs', hcs', heq⟩ := Option.bind_eq_some_iff.mp hcs
    cases heq
    cases hu : Symbol.ofUnit high with
    | half u' => simp [hu, Symbol.char?] at hc
    | char c' =>
      rw [hu] at hc
      cases hc
      rw [List.flatMap_cons, unitsOf_of_ofUnit hu, ← ih hcs']
      rfl

end Text

namespace RawText

open Text

/-! ### Texts -/

/-- A text has no lone halves. -/
@[simp]
theorem symbols_ofString (s : String) :
  (ofString s).symbols = s.toList.map .char
  := ofUnits_flatMap_unitsOf s.toList

/-- A text is whole. -/
@[simp]
theorem whole_ofString (s : String) :
  (ofString s).whole = .ok s
  := by
  have hchars : (s.toList.map Symbol.char).mapM Symbol.char? = some s.toList := by
    induction s.toList with
    | nil => rfl
    | cons c cs ih => simp [List.mapM_cons, ih, Symbol.char?]
  rw [whole, symbols_ofString, hchars]
  simp

@[simp]
theorem whole?_ofString (s : String) :
  (ofString s).whole? = some s
  := by
  simp [whole?, Except.toOption]

/-- Different texts are different raw texts. -/
@[simp]
theorem ofString_inj {s s' : String} :
  ofString s = ofString s' ↔ s = s'
  := by
  constructor
  · intro h
    have hwhole := congrArg whole? h
    simpa using hwhole
  · rintro rfl
    rfl

@[simp]
theorem ofString_beq_ofString (s s' : String) :
  (ofString s == ofString s') = (s == s')
  := by
  rw [Bool.eq_iff_iff, beq_iff_eq, beq_iff_eq, ofString_inj]

/-- A raw text is read as a text exactly when it is the text. -/
theorem whole?_eq_some_iff {t : RawText} {s : String} :
  t.whole? = some s ↔ t = s
  := by
  constructor
  · intro h
    unfold whole? whole at h
    split at h
    · next cs hcs =>
      cases h
      obtain ⟨us⟩ := t
      simp only [ofString, String.toList_ofList, ← eq_flatMap_unitsOf hcs]
    · contradiction
  · rintro rfl
    apply whole?_ofString

end RawText

end Diagnostics
