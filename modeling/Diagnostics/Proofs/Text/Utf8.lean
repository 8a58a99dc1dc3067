import Diagnostics.Proofs.Except
import Diagnostics.Text.Utf8
import Mathlib.Tactic.Common

/-!
# Decoding what was encoded

A text is decoded from its own bytes (`Utf8.decode_toUTF8`): each character is read from the one to
four bytes that encode it (`Utf8.decodeFrom_utf8EncodeChar`), whatever stands behind them. No other
bytes are decoded (`Utf8.decode_eq_ok_iff`): those that are start with the bytes of a character
(`Utf8.exists_of_decodeFrom_none`).
-/

namespace Diagnostics.Text.Utf8

variable {p : Pending} {b : UInt8}

/-- The number of a byte that was made of a number. -/
theorem toNat_ofNat_of_lt {n : Nat} (h : n < 256) :
  (UInt8.ofNat n).toNat = n
  := by
  rw [UInt8.toNat_ofNat', Nat.mod_eq_of_lt h]

/-- The byte that continues a character with six further bits. -/
def continuation (m : Nat) : UInt8 :=
  UInt8.ofNat (m + 128)

theorem toNat_continuation {m : Nat} (h : m < 64) :
  (continuation m).toNat = m + 128
  := by
  apply toNat_ofNat_of_lt
  omega

/-- A character in the middle of which one is, is completed by the bytes that are due. -/
theorem decodeFrom_some (m : Nat) (ms : List Nat) (position : Nat) (bs : List UInt8)
    (hleft : p.left = ms.length + 1) (hlow : p.low ≤ m + 128) (hhigh : m + 128 ≤ p.high)
    (hms : ∀ k ∈ m :: ms, k < 64) :
  ∃ position', decodeFrom (some p) position ((m :: ms).map continuation ++ bs)
    = (decodeFrom none position' bs).map (Char.ofNat ((m :: ms).foldl (fun v k => 64 * v + k) p.value) :: ·)
  := by
  induction ms generalizing p m position with
  | nil =>
    have hm := toNat_continuation (hms m List.mem_cons_self)
    use position + 1
    simp [decodeFrom, Pending.push, hm, hlow, hhigh, hleft]
  | cons m' ms ih =>
    obtain ⟨hm, hms⟩ := List.forall_mem_cons.mp hms
    have hm := toNat_continuation hm
    have hnext : m' + 128 ≤ (p.push (continuation m)).high := by
      have hm' := hms m' List.mem_cons_self
      simp only [Pending.push]
      omega
    obtain ⟨position', h⟩ := ih (p := p.push (continuation m)) m' (position + 1)
      (by simp [Pending.push, hleft]) (by simp [Pending.push]) hnext hms
    use position'
    rw [List.map_cons, List.cons_append, decodeFrom, if_pos (by simp [hm, hlow, hhigh])]
    simp only [Pending.push, hleft] at h ⊢
    rw [if_neg (by simp), h]
    simp [hm]

/-- So is a character that a first byte announces. -/
theorem decodeFrom_first {c : Char} {position : Nat} {bs : List UInt8} (m : Nat) (ms : List Nat)
    (hb : 0x80 ≤ b.toNat) (hp : Pending.ofFirst? b position = some p) (hleft : p.left = ms.length + 1)
    (hlow : p.low ≤ m + 128) (hhigh : m + 128 ≤ p.high) (hms : ∀ k ∈ m :: ms, k < 64)
    (hvalue : (m :: ms).foldl (fun v k => 64 * v + k) p.value = c.toNat) :
  ∃ position', decodeFrom none position (b :: (m :: ms).map continuation ++ bs)
    = (decodeFrom none position' bs).map (c :: ·)
  := by
  obtain ⟨position', h⟩ := decodeFrom_some m ms (position + 1) bs hleft hlow hhigh hms
  use position'
  rw [List.cons_append, decodeFrom, if_neg (by omega), hp]
  rwa [hvalue, Char.ofNat_toNat] at h

/-- A first byte of two. -/
theorem ofFirst?_two (position : Nat) (hb : 0xc2 ≤ b.toNat) (hb' : b.toNat ≤ 0xdf) :
  Pending.ofFirst? b position = some ⟨b, position, b.toNat - 0xc0, 1, 0x80, 0xbf⟩
  := by
  simp [Pending.ofFirst?, hb, hb']

/-- A first byte of three allows for the next one unless the character would be too short for three
bytes, or a surrogate. -/
theorem exists_ofFirst?_three (position : Nat) {n : Nat} (hb : 0xe0 ≤ b.toNat) (hb' : b.toNat ≤ 0xef)
    (hn : 0x80 ≤ n) (hn' : n ≤ 0xbf) (hshort : b.toNat = 0xe0 → 0xa0 ≤ n)
    (hsurrogate : b.toNat = 0xed → n ≤ 0x9f) :
  ∃ low high, Pending.ofFirst? b position = some ⟨b, position, b.toNat - 0xe0, 2, low, high⟩
    ∧ low ≤ n ∧ n ≤ high
  := by
  simp only [Pending.ofFirst?, Bool.and_eq_true, decide_eq_true_eq, beq_iff_eq]
  rw [if_neg (by omega)]
  split
  · next h => exact ⟨0xa0, 0xbf, by simp [h], hshort h, hn'⟩
  · split
    · next h => exact ⟨0x80, 0x9f, by simp [h], hn, hsurrogate h⟩
    · rw [if_pos (by omega)]
      exact ⟨0x80, 0xbf, rfl, hn, hn'⟩

/-- A first byte of four allows for the next one unless the character would be too short for four
bytes, or beyond the last plane. -/
theorem exists_ofFirst?_four (position : Nat) {n : Nat} (hb : 0xf0 ≤ b.toNat) (hb' : b.toNat ≤ 0xf4)
    (hn : 0x80 ≤ n) (hn' : n ≤ 0xbf) (hshort : b.toNat = 0xf0 → 0x90 ≤ n)
    (hlast : b.toNat = 0xf4 → n ≤ 0x8f) :
  ∃ low high, Pending.ofFirst? b position = some ⟨b, position, b.toNat - 0xf0, 3, low, high⟩
    ∧ low ≤ n ∧ n ≤ high
  := by
  simp only [Pending.ofFirst?, Bool.and_eq_true, decide_eq_true_eq, beq_iff_eq]
  rw [if_neg (by omega), if_neg (by omega), if_neg (by omega), if_neg (by omega)]
  split
  · next h => exact ⟨0x90, 0xbf, by simp [h], hshort h, hn'⟩
  · split
    · exact ⟨0x80, 0xbf, rfl, hn, hn'⟩
    · have hb4 : b.toNat = 0xf4 := by omega
      rw [if_pos hb4]
      exact ⟨0x80, 0x8f, by rw [hb4], hn, hlast hb4⟩

/-- A character is read from the bytes that encode it. -/
theorem decodeFrom_utf8EncodeChar (c : Char) (position : Nat) (bs : List UInt8) :
  ∃ position', decodeFrom none position (String.utf8EncodeChar c ++ bs)
    = (decodeFrom none position' bs).map (c :: ·)
  := by
  have hvalid : c.toNat < 0xd800 ∨ 0xdfff < c.toNat ∧ c.toNat < 0x110000 := c.valid
  have hv : c.val.toNat = c.toNat := rfl
  unfold String.utf8EncodeChar
  rw [hv]
  dsimp only
  split
  · have hfirst := toNat_ofNat_of_lt (n := c.toNat) (by omega)
    use position + 1
    rw [List.singleton_append, decodeFrom, if_pos (by omega), hfirst, Char.ofNat_toNat]
  · split
    · have hfirst := toNat_ofNat_of_lt (n := c.toNat / 64 % 32 + 192) (by omega)
      apply decodeFrom_first (c.toNat % 64) [] (by omega)
        (ofFirst?_two position (by omega) (by omega)) rfl
      · dsimp only
        omega
      · dsimp only
        omega
      · simp
        omega
      · simp only [List.foldl, hfirst]
        omega
    · split
      · have hfirst := toNat_ofNat_of_lt (n := c.toNat / 4096 % 16 + 224) (by omega)
        obtain ⟨low, high, hp, hlow, hhigh⟩ := exists_ofFirst?_three position
          (b := UInt8.ofNat (c.toNat / 4096 % 16 + 224)) (n := c.toNat / 64 % 64 + 128)
          (by omega) (by omega) (by omega) (by omega) (by omega) (by omega)
        apply decodeFrom_first (c.toNat / 64 % 64) [c.toNat % 64] (by omega) hp rfl hlow hhigh
        · simp
          omega
        · simp only [List.foldl, hfirst]
          omega
      · have hfirst := toNat_ofNat_of_lt (n := c.toNat / 262144 % 8 + 240) (by omega)
        obtain ⟨low, high, hp, hlow, hhigh⟩ := exists_ofFirst?_four position
          (b := UInt8.ofNat (c.toNat / 262144 % 8 + 240)) (n := c.toNat / 4096 % 64 + 128)
          (by omega) (by omega) (by omega) (by omega) (by omega) (by omega)
        apply decodeFrom_first (c.toNat / 4096 % 64) [c.toNat / 64 % 64, c.toNat % 64]
          (by omega) hp rfl hlow hhigh
        · simp
          omega
        · simp only [List.foldl, hfirst]
          omega

/-- Characters are read from the bytes that encode them one after the other. -/
theorem decodeFrom_flatMap (cs : List Char) (position : Nat) :
  decodeFrom none position (cs.flatMap String.utf8EncodeChar) = .ok cs
  := by
  induction cs generalizing position with
  | nil => rfl
  | cons c cs ih =>
    obtain ⟨position', h⟩ := decodeFrom_utf8EncodeChar c position (cs.flatMap String.utf8EncodeChar)
    rw [List.flatMap_cons, h, ih]
    rfl

/-- The list of an array of bytes is the one that the array holds. -/
theorem toList_eq (bytes : ByteArray) :
  bytes.toList = bytes.data.toList
  := by
  have hloop : ∀ i before, ByteArray.toList.loop bytes i before
      = before.reverse ++ bytes.data.toList.drop i := by
    intro i before
    fun_induction ByteArray.toList.loop bytes i before with
    | case1 i before hi ih =>
      have hlength : i < bytes.data.toList.length := by simpa using hi
      have hget : bytes.get! i = bytes.data.toList[i] := by
        show bytes.data[i]! = _
        rw [getElem!_pos bytes.data i hi, Array.getElem_toList]
      rw [ih, List.drop_eq_getElem_cons hlength, ← hget, List.reverse_cons, List.append_assoc,
        List.singleton_append]
    | case2 i before hi =>
      rw [List.drop_eq_nil_of_le (by simpa using Nat.le_of_not_lt hi), List.append_nil]
  rw [ByteArray.toList, hloop]
  rfl

/-- The bytes of a text are those of its characters. -/
theorem toUTF8_toList (s : String) :
  s.toUTF8.toList = s.toList.flatMap String.utf8EncodeChar
  := by
  rw [toList_eq, String.toUTF8, ← String.utf8Encode_toList, List.utf8Encode, List.toList_data_toByteArray]

/-- A text is decoded from its bytes. -/
theorem decode_toUTF8 (s : String) :
  decode s.toUTF8.toList = .ok s.toList
  := by
  rw [decode, toUTF8_toList, decodeFrom_flatMap]

/-! ### Bytes that are decoded -/

variable {bs : List UInt8} {cs : List Char} {position : Nat}

/-- The character of a number that is neither a surrogate nor too large has that number. -/
theorem toNat_charOfNat {n : Nat} (h : n < 0xd800 ∨ 0xdfff < n ∧ n < 0x110000) :
  (Char.ofNat n).val.toNat = n
  := by
  rw [Char.ofNat, dif_pos h]
  rfl

theorem utf8EncodeChar_one {a : Nat} (ha : a < 0x80) :
  String.utf8EncodeChar (Char.ofNat a) = [UInt8.ofNat a]
  := by
  unfold String.utf8EncodeChar
  rw [toNat_charOfNat (by omega)]
  dsimp only
  rw [if_pos (by omega)]

theorem utf8EncodeChar_two {a m : Nat} (ha : 2 ≤ a) (ha' : a < 32) (hm : m < 64) :
  String.utf8EncodeChar (Char.ofNat (64 * a + m)) = [UInt8.ofNat (a + 192), continuation m]
  := by
  have hfirst : (64 * a + m) / 64 % 32 = a := by omega
  have hsecond : (64 * a + m) % 64 = m := by omega
  unfold String.utf8EncodeChar
  rw [toNat_charOfNat (by omega)]
  dsimp only
  rw [if_neg (by omega), if_pos (by omega), hfirst, hsecond]
  rfl

theorem utf8EncodeChar_three {a m m' : Nat} (ha : a < 16) (hm : m < 64) (hm' : m' < 64)
    (hshort : a = 0 → 32 ≤ m) (hsurrogate : a = 13 → m < 32) :
  String.utf8EncodeChar (Char.ofNat (64 * (64 * a + m) + m'))
    = [UInt8.ofNat (a + 224), continuation m, continuation m']
  := by
  have hfirst : (64 * (64 * a + m) + m') / 4096 % 16 = a := by omega
  have hsecond : (64 * (64 * a + m) + m') / 64 % 64 = m := by omega
  have hthird : (64 * (64 * a + m) + m') % 64 = m' := by omega
  unfold String.utf8EncodeChar
  rw [toNat_charOfNat (by omega)]
  dsimp only
  rw [if_neg (by omega), if_neg (by omega), if_pos (by omega), hfirst, hsecond, hthird]
  rfl

theorem utf8EncodeChar_four {a m m' m'' : Nat} (ha : a < 5) (hm : m < 64) (hm' : m' < 64) (hm'' : m'' < 64)
    (hshort : a = 0 → 16 ≤ m) (hlast : a = 4 → m < 16) :
  String.utf8EncodeChar (Char.ofNat (64 * (64 * (64 * a + m) + m') + m''))
    = [UInt8.ofNat (a + 240), continuation m, continuation m', continuation m'']
  := by
  have hfirst : (64 * (64 * (64 * a + m) + m') + m'') / 262144 % 8 = a := by omega
  have hsecond : (64 * (64 * (64 * a + m) + m') + m'') / 4096 % 64 = m := by omega
  have hthird : (64 * (64 * (64 * a + m) + m') + m'') / 64 % 64 = m' := by omega
  have hfourth : (64 * (64 * (64 * a + m) + m') + m'') % 64 = m'' := by omega
  unfold String.utf8EncodeChar
  rw [toNat_charOfNat (by omega)]
  dsimp only
  rw [if_neg (by omega), if_neg (by omega), if_neg (by omega), hfirst, hsecond, hthird, hfourth]
  rfl

/-- A byte between the bounds of the next one continues the character with its six last bits. -/
theorem continuation_of_between (hlow : 0x80 ≤ p.low) (hb : p.low ≤ b.toNat) :
  b = continuation (b.toNat - 0x80)
  := by
  rw [continuation, Nat.sub_add_cancel (Nat.le_trans hlow hb), UInt8.ofNat_toNat]

/-- In the middle of a character there is a next byte, and it lies between its bounds. -/
theorem exists_next_of_decodeFrom (h : decodeFrom (some p) position bs = .ok cs) :
  ∃ b rest, bs = b :: rest ∧ p.low ≤ b.toNat ∧ b.toNat ≤ p.high
    ∧ (if (p.push b).left = 0 then
        (decodeFrom none (position + 1) rest).map (Char.ofNat (p.push b).value :: ·)
      else decodeFrom (some (p.push b)) (position + 1) rest) = .ok cs
  := by
  cases bs with
  | nil => contradiction
  | cons b rest =>
    rw [decodeFrom] at h
    split at h
    · next hb =>
      simp only [Bool.and_eq_true, decide_eq_true_eq] at hb
      exact ⟨b, rest, rfl, hb.1, hb.2, h⟩
    · contradiction

/-- In the middle of a character, bytes that are decoded start with those that are due. -/
theorem exists_of_decodeFrom_some {n : Nat} (hleft : p.left = n + 1) (hlow : 0x80 ≤ p.low)
    (hhigh : p.high ≤ 0xbf) (h : decodeFrom (some p) position bs = .ok cs) :
  ∃ m ms rest cs' position', ms.length = n ∧ (∀ k ∈ m :: ms, k < 64)
    ∧ p.low ≤ m + 128 ∧ m + 128 ≤ p.high ∧ bs = (m :: ms).map continuation ++ rest
    ∧ cs = Char.ofNat ((m :: ms).foldl (fun v k => 64 * v + k) p.value) :: cs'
    ∧ decodeFrom none position' rest = .ok cs'
  := by
  induction n generalizing p position bs cs with
  | zero =>
    obtain ⟨b, rest, rfl, hb, hb', hnext⟩ := exists_next_of_decodeFrom h
    rw [if_pos (by simp [Pending.push, hleft])] at hnext
    obtain ⟨cs', hrest, rfl⟩ := Except.map_eq_ok_iff.mp hnext
    refine ⟨b.toNat - 0x80, [], rest, cs', position + 1, rfl, ?_, by omega, by omega, ?_, rfl, hrest⟩
    · rw [List.forall_mem_singleton]
      omega
    · rw [List.map_singleton, ← continuation_of_between hlow hb, List.singleton_append]
  | succ n ih =>
    obtain ⟨b, rest, rfl, hb, hb', hnext⟩ := exists_next_of_decodeFrom h
    rw [if_neg (by simp [Pending.push, hleft])] at hnext
    have hleft' : (p.push b).left = n + 1 := by simp [Pending.push, hleft]
    have hlow' : 0x80 ≤ (p.push b).low := by simp [Pending.push]
    have hhigh' : (p.push b).high ≤ 0xbf := by simp [Pending.push]
    obtain ⟨m, ms, rest, cs', position', hlength, hms, -, -, rfl, rfl, hrest⟩ := ih hleft' hlow' hhigh' hnext
    refine ⟨b.toNat - 0x80, m :: ms, rest, cs', position', by simp [hlength], ?_, by omega, by omega, ?_,
      by simp [Pending.push], hrest⟩
    · rw [List.forall_mem_cons]
      use by omega
    · rw [List.map_cons (a := b.toNat - 0x80), ← continuation_of_between hlow hb, List.cons_append]

/-- What a first byte announces: how many bytes are due, what it holds itself, and between which numbers
the next byte lies, so that the character is neither too short for its bytes nor a surrogate nor beyond the
last plane. -/
theorem ofFirst?_cases (h : Pending.ofFirst? b position = some p) :
  (p.left = 1 ∧ 0xc2 ≤ b.toNat ∧ b.toNat ≤ 0xdf ∧ p.value = b.toNat - 0xc0
      ∧ 0x80 ≤ p.low ∧ p.high ≤ 0xbf)
    ∨ (p.left = 2 ∧ 0xe0 ≤ b.toNat ∧ b.toNat ≤ 0xef ∧ p.value = b.toNat - 0xe0
      ∧ 0x80 ≤ p.low ∧ p.high ≤ 0xbf ∧ (b.toNat = 0xe0 → 0xa0 ≤ p.low) ∧ (b.toNat = 0xed → p.high ≤ 0x9f))
    ∨ (p.left = 3 ∧ 0xf0 ≤ b.toNat ∧ b.toNat ≤ 0xf4 ∧ p.value = b.toNat - 0xf0
      ∧ 0x80 ≤ p.low ∧ p.high ≤ 0xbf ∧ (b.toNat = 0xf0 → 0x90 ≤ p.low) ∧ (b.toNat = 0xf4 → p.high ≤ 0x8f))
  := by
  simp only [Pending.ofFirst?, Bool.and_eq_true, decide_eq_true_eq, beq_iff_eq] at h
  repeat' split at h
  all_goals first
    | contradiction
    | cases h
      dsimp only
      omega

/-- A byte is given by the number that is left of it and what was taken away. -/
theorem ofNat_sub_add {k : Nat} (h : k ≤ b.toNat) :
  UInt8.ofNat (b.toNat - k + k) = b
  := by
  rw [Nat.sub_add_cancel h, UInt8.ofNat_toNat]

/-- Bytes that are decoded start with those of a character. -/
theorem exists_of_decodeFrom_none (h : decodeFrom none position (b :: bs) = .ok cs) :
  ∃ c cs' rest position', b :: bs = String.utf8EncodeChar c ++ rest ∧ cs = c :: cs'
    ∧ decodeFrom none position' rest = .ok cs'
  := by
  rw [decodeFrom] at h
  split at h
  · next hb =>
    obtain ⟨cs', hrest, rfl⟩ := Except.map_eq_ok_iff.mp h
    refine ⟨_, cs', bs, position + 1, ?_, rfl, hrest⟩
    rw [utf8EncodeChar_one hb, UInt8.ofNat_toNat, List.singleton_append]
  · split at h
    · next p hp =>
      obtain ⟨hleft, hb, hb', hvalue, hlow, hhigh⟩
        | ⟨hleft, hb, hb', hvalue, hlow, hhigh, hshort, hsurrogate⟩
        | ⟨hleft, hb, hb', hvalue, hlow, hhigh, hshort, hlast⟩ := ofFirst?_cases hp
      all_goals
        obtain ⟨m, ms, rest, cs', position', hlength, hms, hm, hm', rfl, rfl, hrest⟩ :=
          exists_of_decodeFrom_some hleft hlow hhigh h
        refine ⟨_, cs', rest, position', ?_, rfl, hrest⟩
        rw [List.forall_mem_cons] at hms
      · obtain rfl := List.length_eq_zero_iff.mp hlength
        simp only [List.foldl, hvalue]
        rw [utf8EncodeChar_two (by omega) (by omega) hms.1, ofNat_sub_add (by omega)]
        rfl
      · obtain ⟨m', rfl⟩ := List.length_eq_one_iff.mp hlength
        rw [List.forall_mem_singleton] at hms
        simp only [List.foldl, hvalue]
        rw [utf8EncodeChar_three (by omega) hms.1 hms.2 (by omega) (by omega), ofNat_sub_add (by omega)]
        rfl
      · obtain ⟨m', m'', rfl⟩ := List.length_eq_two.mp hlength
        rw [List.forall_mem_cons, List.forall_mem_singleton] at hms
        simp only [List.foldl, hvalue]
        rw [utf8EncodeChar_four (by omega) hms.1 hms.2.1 hms.2.2 (by omega) (by omega),
          ofNat_sub_add (by omega)]
        rfl
    · contradiction

/-- Bytes that are decoded are those of the characters that they are decoded to. -/
theorem eq_flatMap_of_decodeFrom (h : decodeFrom none position bs = .ok cs) :
  bs = cs.flatMap String.utf8EncodeChar
  := by
  induction cs generalizing position bs with
  | nil =>
    cases bs with
    | nil => rfl
    | cons b bs =>
      obtain ⟨c, cs', rest, position', -, hcs, -⟩ := exists_of_decodeFrom_none h
      contradiction
  | cons c cs ih =>
    cases bs with
    | nil => simp [decodeFrom] at h
    | cons b bs =>
      obtain ⟨c', cs', rest, position', hbytes, hcs, hrest⟩ := exists_of_decodeFrom_none h
      cases hcs
      rw [hbytes, List.flatMap_cons, ih hrest]

/-- Bytes are decoded to the characters of a text exactly when they are its bytes. -/
theorem decode_eq_ok_iff {s : String} :
  decode bs = .ok s.toList ↔ bs = s.toUTF8.toList
  := by
  constructor
  · intro h
    rw [toUTF8_toList]
    apply eq_flatMap_of_decodeFrom h
  · rintro rfl
    apply decode_toUTF8

end Diagnostics.Text.Utf8
