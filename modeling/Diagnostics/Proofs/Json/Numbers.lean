import Diagnostics.Json.Printer
import Diagnostics.Json.Reader
import Diagnostics.Proofs.Decimal.Numeral
import Mathlib.Data.List.TakeDrop

/-!
# JSON integers

An integer that was written in decimal is read back as the same integer, however large it
is, when what stands behind it does not carry the number on (`readNumber?_numeralChars`).
-/

namespace Diagnostics.Json

open Decimal

/-! ### Numbers -/

/-- The text neither starts with a digit nor with a point or the letter of an exponent. -/
def EndsNumber (rest : List Char) : Prop :=
  ∀ c ∈ rest.head?, c.isDigit = false ∧ c ≠ '.' ∧ c ≠ 'e' ∧ c ≠ 'E'

/-- Whether a number ends is settled by the next character. -/
theorem endsNumber_cons {c : Char} (h : c.isDigit = false ∧ c ≠ '.' ∧ c ≠ 'e' ∧ c ≠ 'E')
    (rest : List Char) :
  EndsNumber (c :: rest)
  := by
  intro d hd
  obtain rfl := Option.some.inj hd
  apply h

/-- Digits are taken off up to what is none. -/
theorem spanDigits_append {ds rest : List Char} (hds : ∀ c ∈ ds, c.isDigit = true)
    (hrest : EndsNumber rest) :
  spanDigits (ds ++ rest) = (ds, rest)
  := by
  rw [spanDigits, List.span_eq_takeWhile_dropWhile, List.takeWhile_append_of_pos hds,
    List.dropWhile_append_of_pos hds]
  cases rest with
  | nil => simp
  | cons c rest =>
    obtain ⟨hc, -⟩ := hrest c rfl
    simp [hc]

/-- The digits of the whole part of a numeral are the numeral. -/
theorem spanWhole_digits (n : Nat) {rest : List Char} (hrest : EndsNumber rest) :
  spanWhole (digits n ++ rest) = (digits n, rest)
  := by
  obtain ⟨c, cs, hdigits, hc⟩ := exists_digits_eq_cons n
  by_cases hzero : c = '0'
  · subst hzero
    have hn := eq_zero_of_digits hdigits
    subst hn
    rfl
  · have hspan := spanDigits_append (fun _ => isDigit_of_mem_digits (n := n)) hrest
    rw [hdigits, List.cons_append] at hspan ⊢
    rw [spanWhole, hspan]
    intro tail heq
    apply hzero (List.cons_eq_cons.mp heq).1

/-- Nothing that ends a number is a fraction. -/
theorem spanFraction_of_endsNumber {rest : List Char} (hrest : EndsNumber rest) :
  spanFraction rest = ([], rest)
  := by
  cases rest with
  | nil => rfl
  | cons c rest =>
    obtain ⟨-, hpoint, -⟩ := hrest c rfl
    rw [spanFraction]
    intro tail heq
    apply hpoint (List.cons_eq_cons.mp heq).1

/-- Nothing that ends a number is an exponent. -/
theorem spanExponent_of_endsNumber {rest : List Char} (hrest : EndsNumber rest) :
  spanExponent rest = (none, rest)
  := by
  cases rest with
  | nil => rfl
  | cons c rest =>
    obtain ⟨-, -, he, hE⟩ := hrest c rfl
    simp [spanExponent, he, hE]

/-- The numeral of a natural number is read as the number with its sign. -/
theorem readUnsigned?_digits (negative : Bool) (n : Nat) {rest : List Char} (hrest : EndsNumber rest) :
  readUnsigned? negative (digits n ++ rest) = some (.int (if negative then -(n : Int) else n), rest)
  := by
  obtain ⟨c, cs, hdigits, -⟩ := exists_digits_eq_cons n
  have hvalue : naturalOf (digits n) = n := Nat.ofDigitChars_ten_toDigits
  have hwhole := spanWhole_digits n hrest
  rw [hdigits] at hwhole hvalue ⊢
  simp only [readUnsigned?, hwhole, spanFraction_of_endsNumber hrest, spanExponent_of_endsNumber hrest,
    hvalue]
  rfl

/-- What starts with a digit is a number without a sign. -/
theorem readNumber?_of_isDigit {c : Char} (hc : c.isDigit = true) (cs : List Char) :
  readNumber? (c :: cs) = readUnsigned? false (c :: cs)
  := by
  rw [readNumber?]
  all_goals
    intro tail heq
    obtain ⟨rfl, -⟩ := List.cons_eq_cons.mp heq
    contradiction

/-- A minus sign in front of a digit makes a number negative. -/
theorem readNumber?_minus {c : Char} (hc : c.isDigit = true) (cs : List Char) :
  readNumber? ('-' :: c :: cs) = readUnsigned? true (c :: cs)
  := by
  rw [readNumber?]
  intro tail heq
  obtain ⟨rfl, -⟩ := List.cons_eq_cons.mp heq
  contradiction

/-- An integer is read back from its numeral. -/
theorem readNumber?_numeralChars (i : Int) {rest : List Char} (hrest : EndsNumber rest) :
  readNumber? (numeralChars i ++ rest) = some (.int i, rest)
  := by
  cases i with
  | ofNat n =>
    obtain ⟨c, cs, hdigits, hc⟩ := exists_digits_eq_cons n
    have hread := readUnsigned?_digits false n hrest
    rw [numeralChars]
    rw [hdigits, List.cons_append] at hread ⊢
    rw [readNumber?_of_isDigit hc, hread]
    rfl
  | negSucc n =>
    obtain ⟨c, cs, hdigits, hc⟩ := exists_digits_eq_cons (n + 1)
    have hread := readUnsigned?_digits true (n + 1) hrest
    rw [numeralChars]
    rw [hdigits, List.cons_append] at hread
    rw [hdigits, List.cons_append, List.cons_append, readNumber?_minus hc, hread]
    rfl

end Diagnostics.Json
