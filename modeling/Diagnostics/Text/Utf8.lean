import Diagnostics.Text.Hex

/-!
# UTF-8

`Utf8.decode` reads bytes as UTF-8, strictly: over-long forms, surrogates and values
past U+10FFFF are refused. It is a machine that consumes one byte at a time and
remembers the character it is in the middle of, so a fault names the first byte of
the ill-formed sequence, how many bytes of it were in order, and what broke it.
-/

namespace Diagnostics.Text.Utf8

/-- What breaks a byte sequence. -/
inductive Reason
  /-- No character starts with this byte. -/
  | start
  /-- A byte that should continue the character does not. -/
  | continuation
  /-- The text ends inside a character. -/
  | truncated
deriving DecidableEq, Repr

/-- An ill-formed sequence of `length` bytes that starts at `position` with the byte `first`. -/
structure Fault where
  first : UInt8
  position : Nat
  length : Nat
  reason : Reason
deriving DecidableEq, Repr

/-- A character some of whose bytes have been read: the byte `first` stood at `position`,
`value` holds the bits so far, `left` more bytes are due, and the next one lies between
`low` and `high`. -/
structure Pending where
  first : UInt8
  position : Nat
  value : Nat
  left : Nat
  low : Nat
  high : Nat

/-- The state after a first byte that announces further ones. -/
def Pending.ofFirst? (b : UInt8) (position : Nat) : Option Pending :=
  let n := b.toNat
  if 0xc2 ≤ n && n ≤ 0xdf then some ⟨b, position, n - 0xc0, 1, 0x80, 0xbf⟩
  else if n == 0xe0 then some ⟨b, position, 0, 2, 0xa0, 0xbf⟩
  else if n == 0xed then some ⟨b, position, 0xd, 2, 0x80, 0x9f⟩
  else if 0xe1 ≤ n && n ≤ 0xef then some ⟨b, position, n - 0xe0, 2, 0x80, 0xbf⟩
  else if n == 0xf0 then some ⟨b, position, 0, 3, 0x90, 0xbf⟩
  else if 0xf1 ≤ n && n ≤ 0xf3 then some ⟨b, position, n - 0xf0, 3, 0x80, 0xbf⟩
  else if n == 0xf4 then some ⟨b, position, 4, 3, 0x80, 0x8f⟩
  else none

/-- The state after a further byte. -/
def Pending.push (p : Pending) (b : UInt8) : Pending :=
  { p with value := 64 * p.value + (b.toNat - 0x80), left := p.left - 1, low := 0x80, high := 0xbf }

/-- Reads on at `position`, inside the pending character if there is one. -/
def decodeFrom : Option Pending → Nat → List UInt8 → Except Fault (List Char)
  | none, _, [] => .ok []
  | some p, position, [] => .error ⟨p.first, p.position, position - p.position, .truncated⟩
  | none, position, b :: bs =>
    if b.toNat < 0x80 then
      (decodeFrom none (position + 1) bs).map (Char.ofNat b.toNat :: ·)
    else
      match Pending.ofFirst? b position with
      | some p => decodeFrom (some p) (position + 1) bs
      | none => .error ⟨b, position, 1, .start⟩
  | some p, position, b :: bs =>
    if p.low ≤ b.toNat && b.toNat ≤ p.high then
      let q := p.push b
      if q.left = 0 then (decodeFrom none (position + 1) bs).map (Char.ofNat q.value :: ·)
      else decodeFrom (some q) (position + 1) bs
    else .error ⟨p.first, p.position, position - p.position, .continuation⟩

/-- The characters that the bytes encode, or the first ill-formed sequence. -/
def decode (bytes : List UInt8) : Except Fault (List Char) :=
  decodeFrom none 0 bytes

/-- The wording of a reason. -/
def Reason.message : Reason → String
  | .start => "invalid start byte"
  | .continuation => "invalid continuation byte"
  | .truncated => "unexpected end of data"

/-- The wording of a fault; a single byte is shown, a longer sequence is given by its ends. -/
def Fault.message (f : Fault) : String :=
  let place :=
    if f.length = 1 then
      "byte 0x" ++ String.ofList (hexDigits 2 f.first.toNat) ++ " in position " ++ toString f.position
    else
      "bytes in position " ++ toString f.position ++ "-" ++ toString (f.position + f.length - 1)
  "'utf-8' codec can't decode " ++ place ++ ": " ++ f.reason.message

end Diagnostics.Text.Utf8
