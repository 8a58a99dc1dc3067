import Diagnostics.Decimal.Numeral
import Mathlib.Tactic.Common

/-!
# The digits of numerals

A numeral has digits only, and at least one (`Decimal.exists_digits_eq_cons`); only that of zero starts
with a zero (`Decimal.eq_zero_of_digits`). Larger numbers do not have shorter numerals
(`Decimal.length_digits_le`).
-/

namespace Diagnostics.Decimal

@[simp]
theorem numeralChars_natCast (n : Nat) :
  numeralChars n = digits n
  := rfl

/-- A numeral has digits only. -/
theorem isDigit_of_mem_digits {n : Nat} {c : Char} (h : c ∈ digits n) :
  c.isDigit = true
  := by
  apply Nat.isDigit_of_mem_toDigits (by decide) (by decide) h

/-- A numeral starts with a digit. -/
theorem exists_digits_eq_cons (n : Nat) :
  ∃ c cs, digits n = c :: cs ∧ c.isDigit = true
  := by
  obtain ⟨c, cs, hdigits⟩ := List.exists_cons_of_ne_nil (Nat.toDigits_ne_nil (n := n) (b := 10))
  use c, cs, hdigits
  apply isDigit_of_mem_digits (n := n)
  rw [digits, hdigits]
  apply List.mem_cons_self

/-- An integer is written with a digit or a minus sign in front. -/
theorem exists_numeralChars_eq_cons (i : Int) :
  ∃ c cs, numeralChars i = c :: cs ∧ (c.isDigit = true ∨ c = '-')
  := by
  cases i with
  | ofNat n =>
    obtain ⟨c, cs, hdigits, hc⟩ := exists_digits_eq_cons n
    use c, cs, hdigits
    left
    apply hc
  | negSucc n =>
    use '-', digits (n + 1), rfl
    right
    rfl

/-- The spelling of an integer is made of digits and a minus sign. -/
theorem isDigit_or_eq_of_mem_numeralChars {i : Int} {c : Char} (h : c ∈ numeralChars i) :
  c.isDigit = true ∨ c = '-'
  := by
  cases i with
  | ofNat n => exact .inl (isDigit_of_mem_digits h)
  | negSucc n =>
    obtain rfl | hn := List.mem_cons.mp h
    · exact .inr rfl
    · exact .inl (isDigit_of_mem_digits hn)

/-- Only zero has a numeral that starts with a zero. -/
theorem eq_zero_of_digits {n : Nat} {cs : List Char} (h : digits n = '0' :: cs) :
  n = 0
  := by
  induction n using Nat.strongRecOn generalizing cs with
  | ind n ih =>
    obtain hsmall | hlarge := Nat.lt_or_ge n 10
    · have hone : digits n = [n.digitChar] := Nat.toDigits_of_lt_base hsmall
      obtain ⟨hzero, -⟩ := List.cons_eq_cons.mp (hone.symm.trans h)
      have hvalue := Nat.ofDigitChars_ten_toDigits (n := n)
      rw [← digits, hone, hzero] at hvalue
      apply hvalue.symm
    · -- The numeral of the tenth part starts with the same digit.
      have hmore : digits n = digits (n / 10) ++ [(n % 10).digitChar] :=
        Nat.toDigits_of_base_le (by decide) hlarge
      obtain ⟨c, tail, htail, -⟩ := exists_digits_eq_cons (n / 10)
      rw [hmore, htail] at h
      obtain ⟨rfl, -⟩ := List.cons_eq_cons.mp h
      have htenth := ih (n / 10) (by omega) htail
      omega

/-- A larger number has no fewer digits. -/
theorem length_digits_le {m n : Nat} (h : m ≤ n) :
  (digits m).length ≤ (digits n).length
  := by
  have hpositive : 0 < (digits n).length := Nat.length_toDigits_pos
  apply (Nat.length_toDigits_le_iff (by decide) hpositive).mpr
  have hn : n < 10 ^ (digits n).length := (Nat.length_toDigits_le_iff (by decide) hpositive).mp (Nat.le_refl _)
  omega

end Diagnostics.Decimal
