import Diagnostics.Json.Printer
import Diagnostics.Json.Reader
import Diagnostics.Proofs.Text.Raw

/-!
# JSON strings

A text that was written as a JSON string is read back whatever its units are, lone halves of
surrogate pairs among them (`readString_stringChars`). A unit is written as a character of
ASCII, a short escape or a unit escape, and each of these is read as the unit.
-/

namespace Diagnostics.Json

open Text

/-! ### Units -/

/-- The escape of a unit is read as the unit, when some character of the string stands behind it. -/
theorem readUnits_unitEscape (opening : List Char) {n : Nat} (h : n < 0x10000) {rest : List Char}
    (hrest : rest ≠ []) :
  readUnits opening (unitEscape n ++ rest) = withUnits [.ofNat n] (readUnits opening rest)
  := by
  obtain ⟨x, behind, rfl⟩ := List.exists_cons_of_ne_nil hrest
  have hvalue : hexValue? (hexDigits 4 n) = some n := by
    have hn : n < Nat.pow 16 4 := h
    rw [hexValue?_hexDigits, Nat.mod_eq_of_lt hn]
  simp only [unitEscape, hexDigits, List.cons_append, List.nil_append, readUnits] at hvalue ⊢
  rw [hvalue]

/-- A short escape is read as the character that it stands for. -/
theorem readUnits_escaped (opening : List Char) {letter c : Char} (h : escaped? letter = some c)
    (rest : List Char) :
  readUnits opening ('\\' :: letter :: rest) = withUnits (unitsOf c) (readUnits opening rest)
  := by
  have hletter : letter ≠ 'u' := by
    rintro rfl
    simp [escaped?] at h
  rw [readUnits, h]
  · intros
    contradiction
  · apply hletter

/-- A printable character is read as itself. -/
theorem readUnits_plain (opening : List Char) {c : Char} (hquote : c ≠ '"') (hback : c ≠ '\\')
    (hcontrol : 0x20 ≤ c.toNat) (rest : List Char) :
  readUnits opening (c :: rest) = withUnits (unitsOf c) (readUnits opening rest)
  := by
  have hprintable : ¬ c.toNat < 0x20 := Nat.not_lt.mpr hcontrol
  rw [readUnits, if_neg hprintable]
  -- Every other way to read on takes a quote or a backslash.
  all_goals
    intros
    contradiction

/-- A character of ASCII as it was written is read as the character, when some character of the string
stands behind it. -/
theorem readUnits_escapeChar (opening : List Char) {c : Char} (hascii : c.toNat < 0x80) {rest : List Char}
    (hrest : rest ≠ []) :
  readUnits opening (escapeChar c ++ rest) = withUnits (unitsOf c) (readUnits opening rest)
  := by
  unfold escapeChar
  split_ifs with hquote hback hn hr ht hb hf hprintable
  · subst hquote
    apply readUnits_escaped opening rfl
  · subst hback
    apply readUnits_escaped opening rfl
  · subst hn
    apply readUnits_escaped opening rfl
  · subst hr
    apply readUnits_escaped opening rfl
  · subst ht
    apply readUnits_escaped opening rfl
  · subst hb
    apply readUnits_escaped opening rfl
  · subst hf
    apply readUnits_escaped opening rfl
  · apply readUnits_plain opening hquote hback hprintable.1
  · have hbasic : c.toNat < 0x10000 := by omega
    rw [unitsOf, if_pos hbasic]
    apply readUnits_unitEscape opening hbasic hrest

/-- A unit as it was written is read as the unit, when some character of the string stands behind it. -/
theorem readUnits_unitChars (opening : List Char) (u : UInt16) {rest : List Char} (hrest : rest ≠ []) :
  readUnits opening (unitChars u ++ rest) = withUnits [u] (readUnits opening rest)
  := by
  have hu := u.toNat_lt
  rw [unitChars]
  split
  · next hascii =>
    have hpoint : (Char.ofNat u.toNat).toNat = u.toNat := Utf8.toNat_charOfNat (by omega)
    have hunits : unitsOf (Char.ofNat u.toNat) = [u] := by
      rw [unitsOf, hpoint, if_pos (by omega), UInt16.ofNat_toNat]
    rw [readUnits_escapeChar opening (by omega) hrest, hunits]
  · rw [readUnits_unitEscape opening hu hrest, UInt16.ofNat_toNat]

/-! ### Texts -/

/-- The units of a text are read up to the closing quote. -/
theorem readUnits_flatMap (opening : List Char) (us : List UInt16) (rest : List Char) :
  readUnits opening (us.flatMap unitChars ++ '"' :: rest) = .ok (us, rest)
  := by
  induction us with
  | nil => simp [readUnits]
  | cons u us ih =>
    rw [List.flatMap_cons, List.append_assoc, readUnits_unitChars opening u (by simp), ih]
    rfl

/-- A text is read back from the JSON string that it was written as. -/
theorem readString_stringChars (t : RawText) (rest : List Char) :
  readString (t.units.flatMap unitChars ++ '"' :: rest) = .ok (t, rest)
  := by
  simp [readString, readUnits_flatMap, Except.map]

example : String.ofList (stringChars "é\n𝄞") = "\"\\u00e9\\n\\ud834\\udd1e\"" := by decide

end Diagnostics.Json
