/-!
# Hexadecimal digits

`hexDigits` writes a number with a fixed count of digits, as escapes do, and
`hexValue?` reads such digits in either case.
-/

namespace Diagnostics.Text

/-- The lower-case hexadecimal digit of a number below sixteen. -/
def hexDigit (n : Nat) : Char :=
  if n < 10 then Char.ofNat (48 + n) else Char.ofNat (87 + n)

/-- The last `width` hexadecimal digits of a number, the highest first. -/
def hexDigits : Nat → Nat → List Char
  | 0, _ => []
  | width + 1, n => hexDigit (n / Nat.pow 16 width % 16) :: hexDigits width n

/-- The value of one hexadecimal digit in either case. -/
def hexDigit? (c : Char) : Option Nat :=
  if '0' ≤ c && c ≤ '9' then some (c.toNat - 48)
  else if 'a' ≤ c && c ≤ 'f' then some (c.toNat - 87)
  else if 'A' ≤ c && c ≤ 'F' then some (c.toNat - 55)
  else none

/-- The number that hexadecimal digits denote, read on from the value of those before. -/
def hexValueFrom (before : Nat) : List Char → Option Nat
  | [] => some before
  | c :: cs => (hexDigit? c).bind fun d => hexValueFrom (16 * before + d) cs

/-- The number that a list of hexadecimal digits denotes. -/
def hexValue? (cs : List Char) : Option Nat :=
  hexValueFrom 0 cs

/-- A digit is read as the number that it was written for. -/
theorem hexDigit?_hexDigit {n : Nat} (h : n < 16) :
  hexDigit? (hexDigit n) = some n
  := by
  have hall : ∀ i : Fin 16, hexDigit? (hexDigit i) = some i.val := by decide
  apply hall ⟨n, h⟩

/-- The digits of a number are read on from the value before them. -/
theorem hexValueFrom_hexDigits (width before n : Nat) :
  hexValueFrom before (hexDigits width n) = some (Nat.pow 16 width * before + n % Nat.pow 16 width)
  := by
  induction width generalizing before with
  | zero => simp [hexDigits, hexValueFrom, Nat.mod_one]
  | succ width ih =>
    have hdigit : n / Nat.pow 16 width % 16 < 16 := Nat.mod_lt _ (by decide)
    have hlast : n % Nat.pow 16 (width + 1)
        = n % Nat.pow 16 width + Nat.pow 16 width * (n / Nat.pow 16 width % 16) := Nat.mod_pow_succ
    have hpow : Nat.pow 16 (width + 1) = Nat.pow 16 width * 16 := rfl
    simp only [hexDigits, hexValueFrom, hexDigit?_hexDigit hdigit, Option.bind_some, ih]
    rw [hlast, hpow, Nat.mul_add, Nat.mul_assoc, Nat.add_assoc, Nat.add_comm (n % _)]

/-- The digits of a number give the number, up to the digits that there was no room for. -/
theorem hexValue?_hexDigits (width n : Nat) :
  hexValue? (hexDigits width n) = some (n % Nat.pow 16 width)
  := by
  rw [hexValue?, hexValueFrom_hexDigits, Nat.mul_zero, Nat.zero_add]

end Diagnostics.Text
