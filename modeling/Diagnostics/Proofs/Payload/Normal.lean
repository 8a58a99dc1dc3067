import Diagnostics.Proofs.Members
import Diagnostics.Proofs.Payload.RoundTrip

/-!
# Normal payloads

What a payload may become is a relation (`Payload.Normalizes`), since nothing fixes the order in which the
members of a set come. Every payload becomes some value, whatever it becomes is plain, that is, it has only
what JSON can hold, and a plain value becomes itself and nothing else. So a payload that was brought into
plain values once stays as it is (`Payload.normalizes_plain`).
-/

namespace Diagnostics.Payload

/-! ### Plain values -/

/-- The value is made of null, truth values, numbers, texts, lists, and objects that repeat no key. -/
inductive Plain : Json.Value → Prop
  | null : Plain .null
  | bool (b : Bool) : Plain (.bool b)
  | int (i : Int) : Plain (.int i)
  | float (x : Decimal.Binary64) : Plain (.float x)
  | text (s : RawText) : Plain (.text s)
  | list {items : List Json.Value} (each : ∀ v ∈ items, Plain v) : Plain (.list items)
  | object {ms : Json.Members} (keys : (ms.map Prod.fst).Nodup) (each : ∀ m ∈ ms, Plain m.2) : Plain (.object ms)

/-- A told value is plain. -/
theorem Told.plain {v : Json.Value} (h : Told v) :
  Plain v
  := by
  induction h with
  | text s => exact .text s
  | int i => exact .int i
  | list _ ih => exact .list ih
  | object hkeys _ ih => exact .object hkeys ih

/-- The value of a member of an enumeration is plain. -/
theorem ConstantValue.plain_plain (c : ConstantValue) :
  Plain c.plain
  := by
  cases c <;> constructor

/-! ### Records -/

/-- A stack trace is told. -/
theorem told_stack (s : Stack) :
  Told s.encode
  := by
  cases s with
  | whole s => exact .text s
  | lines ls =>
    apply Told.list
    simp only [List.forall_mem_map]
    exact fun s _ => .text s

/-- A position is told. -/
theorem told_position (p : Position) :
  Told p.encode
  := by
  apply told_present
  · simp
  · simp only [List.forall_mem_cons]
    use told_some (.int _), told_map Told.int _
    simp

/-- A location is told. -/
theorem told_location (l : Location) :
  Told l.encode
  := by
  apply told_present
  · simp
  · simp only [List.forall_mem_cons]
    use told_some (told_position _), told_map told_position _
    simp

/-- The members of a diagnostic are told. -/
theorem told_diagnostic (d : Diagnostic) :
  Told (.object d.encode)
  := by
  apply told_present
  · simp
  · simp only [List.forall_mem_cons]
    use told_some (.text _), told_map Told.text _, told_map Told.text _, told_map told_stack _,
      told_map Told.text _, told_map Told.text _, told_map Told.text _, told_map told_location _,
      told_map (fun l => .int _) _
    simp

namespace Tree

/-- The object that a record becomes by itself. -/
def encoded? : Tree → Option Json.Value
  | .entry e => some (.object e.encode)
  | .place p => some p.encode
  | .diagnostic d => some (.object d.encode)
  | .location l => some l.encode
  | .position p => some p.encode
  | _ => none

/-- The object of a record is plain. -/
theorem plain_of_encoded? {t : Tree} {v : Json.Value} (h : t.encoded? = some v) :
  Plain v
  := by
  cases t <;> cases h
  case entry e => exact e.told.plain
  case place p => exact p.told.plain
  case diagnostic d => exact (told_diagnostic d).plain
  case location l => exact (told_location l).plain
  case position p => exact (told_position p).plain

/-! ### Trees of containers -/

theorem ofValues_eq_map (vs : List Json.Value) :
  ofValues vs = vs.map ofValue
  := by
  induction vs with
  | nil => rfl
  | cons v vs ih => rw [ofValues, ih, List.map_cons]

theorem keys_ofMembers (ms : Json.Members) :
  (ofMembers ms).map (fun p => keyText p.1) = ms.map Prod.fst
  := by
  induction ms with
  | nil => rfl
  | cons m ms ih => rw [ofMembers, List.map_cons, ih, List.map_cons, keyText]

theorem values_ofMembers (ms : Json.Members) :
  (ofMembers ms).map Prod.snd = (ms.map Prod.snd).map ofValue
  := by
  induction ms with
  | nil => rfl
  | cons m ms ih => rw [ofMembers, List.map_cons, ih, List.map_cons, List.map_cons]

theorem keys_normalPairs (pairs : List (Tree × Tree)) :
  (normalPairs pairs).map Prod.fst = pairs.map fun p => keyText p.1
  := by
  induction pairs with
  | nil => rfl
  | cons p pairs ih => rw [normalPairs, List.map_cons, ih, List.map_cons]

end Tree

/-! ### What a payload becomes -/

open Payload.Tree

/-- What a payload may become. Paths and members of enumerations become texts or numbers. The items of a
list or tuple stay in their order, and those of a set come in any. Of the pairs of a map, their keys taken
as texts, the first place and the last value of each key remain. A record becomes what the object does
that it becomes by itself. -/
inductive Normalizes : Tree → Json.Value → Prop
  | null : Normalizes .null .null
  | bool (b : Bool) : Normalizes (.bool b) (.bool b)
  | int (i : Int) : Normalizes (.int i) (.int i)
  | float (x : Decimal.Binary64) : Normalizes (.float x) (.float x)
  | text (s : RawText) : Normalizes (.text s) (.text s)
  | path (p : Path) : Normalizes (.path p) (.text p.text)
  | level (l : Level) : Normalizes (.level l) (.int l.number)
  | color (m : ColorMode) : Normalizes (.color m) (.text m.name)
  | constant (c : Constant) : Normalizes (.constant c) c.value.plain
  | list {items : List Tree} {vs : List Json.Value} (length : items.length = vs.length)
      (each : ∀ {t v}, (t, v) ∈ items.zip vs → Normalizes t v) : Normalizes (.list items) (.list vs)
  | tuple {items : List Tree} {vs : List Json.Value} (length : items.length = vs.length)
      (each : ∀ {t v}, (t, v) ∈ items.zip vs → Normalizes t v) : Normalizes (.tuple items) (.list vs)
  | set {items order : List Tree} {vs : List Json.Value} (perm : order.Perm items)
      (length : order.length = vs.length) (each : ∀ {t v}, (t, v) ∈ order.zip vs → Normalizes t v) :
      Normalizes (.set items) (.list vs)
  | map {pairs : List (Tree × Tree)} {vs : List Json.Value} {ms : Json.Members}
      (length : (pairs.map Prod.snd).length = vs.length)
      (each : ∀ {t v}, (t, v) ∈ (pairs.map Prod.snd).zip vs → Normalizes t v)
      (collapses : Members.Collapses ((pairs.map fun p => keyText p.1).zip vs) ms) :
      Normalizes (.map pairs) (.object ms)
  | record {t : Tree} {v w : Json.Value} (encoded : t.encoded? = some v) (h : Normalizes (ofValue v) w) :
      Normalizes t w

/-- Members are their keys with their values. -/
theorem zip_keys_values (ms : Json.Members) :
  (ms.map Prod.fst).zip (ms.map Prod.snd) = ms
  := by
  symm
  apply List.zip_of_prod <;> rfl

/-- What comes second in a pair of as many items comes second to something. -/
theorem exists_mem_zip {α β : Type} {xs : List α} {ys : List β} (h : xs.length = ys.length) {y : β}
    (hy : y ∈ ys) :
  ∃ x, (x, y) ∈ xs.zip ys
  := by
  rw [← List.map_snd_zip (Nat.le_of_eq h.symm)] at hy
  obtain ⟨⟨x, y⟩, hmem, rfl⟩ := List.mem_map.mp hy
  use x

/-- Whatever a payload becomes is plain. -/
theorem Normalizes.plain {t : Tree} {v : Json.Value} (h : Normalizes t v) :
  Plain v
  := by
  induction h with
  | null => exact .null
  | bool b => exact .bool b
  | int i => exact .int i
  | float x => exact .float x
  | text s => exact .text s
  | path p => exact .text _
  | level l => exact .int _
  | color m => exact .text _
  | constant c => exact c.value.plain_plain
  | list length _ ih | tuple length _ ih | set _ length _ ih =>
    apply Plain.list
    intro v hv
    obtain ⟨t, ht⟩ := exists_mem_zip length hv
    exact ih ht
  | map length _ collapses ih =>
    apply Plain.object collapses.nodup
    intro m hm
    obtain ⟨t, ht⟩ := exists_mem_zip length (List.of_mem_zip (collapses.mem hm)).2
    exact ih ht
  | record _ _ ih => exact ih

/-! ### Plain values stay as they are -/

/-- Beside a value in a list stands its tree when the list is made into trees. -/
theorem mem_of_mem_zip {vs : List Json.Value} {t : Tree} {v : Json.Value} (h : (t, v) ∈ (vs.map ofValue).zip vs) :
  v ∈ vs ∧ t = ofValue v
  := by
  rw [← List.map_prod_right_eq_zip] at h
  obtain ⟨u, hu, heq⟩ := List.mem_map.mp h
  cases heq
  exact ⟨hu, rfl⟩

/-- A plain value becomes itself. -/
theorem Plain.normalizes {v : Json.Value} (h : Plain v) :
  Normalizes (ofValue v) v
  := by
  induction h with
  | null => exact .null
  | bool b => exact .bool b
  | int i => exact .int i
  | float x => exact .float x
  | text s => exact .text s
  | @list items _ ih =>
    rw [ofValue, ofValues_eq_map]
    apply Normalizes.list (List.length_map _)
    intro t v hmem
    obtain ⟨hv, rfl⟩ := mem_of_mem_zip hmem
    exact ih v hv
  | @object ms keys _ ih =>
    rw [ofValue]
    apply @Normalizes.map _ (ms.map Prod.snd)
    · rw [values_ofMembers, List.length_map]
    · intro t v hmem
      rw [values_ofMembers] at hmem
      obtain ⟨hv, rfl⟩ := mem_of_mem_zip hmem
      obtain ⟨m, hm, rfl⟩ := List.mem_map.mp hv
      exact ih m hm
    · rw [keys_ofMembers, zip_keys_values, Members.collapses_iff, Members.ofWritten_of_nodup keys]

/-- Values that become others in the order of these, and each only itself, are the same as these. -/
theorem eq_of_forall₂ {vs ws : List Json.Value} (h : List.Forall₂ Normalizes (vs.map ofValue) ws)
    (honly : ∀ v ∈ vs, ∀ w, Normalizes (ofValue v) w → w = v) :
  ws = vs
  := by
  induction vs generalizing ws with
  | nil => simpa using h
  | cons v vs ih =>
    obtain ⟨hv, hvs⟩ := List.forall_mem_cons.mp honly
    rw [List.map_cons, List.forall₂_cons_left_iff] at h
    obtain ⟨w, ws, hw, hws, rfl⟩ := h
    rw [hv w hw, ih hws hvs]

/-- A plain value becomes nothing but itself. -/
theorem Plain.eq {v : Json.Value} (hplain : Plain v) :
  ∀ w, Normalizes (ofValue v) w → w = v
  := by
  induction hplain with
  | null | bool | int | float | text =>
    intro w h
    cases h with
    | record encoded => cases encoded
    | _ => rfl
  | @list items _ ih =>
    intro w h
    rw [ofValue, ofValues_eq_map] at h
    cases h with
    | list length each => rw [eq_of_forall₂ (List.forall₂_iff_zip.mpr ⟨length, each⟩) ih]
    | record encoded => cases encoded
  | @object ms keys _ ih =>
    intro w h
    rw [ofValue] at h
    cases h with
    | @map _ vs _ length each collapses =>
      rw [values_ofMembers] at length each
      have hvs : vs = ms.map Prod.snd := by
        apply eq_of_forall₂ (List.forall₂_iff_zip.mpr ⟨length, each⟩)
        intro v hv
        obtain ⟨m, hm, rfl⟩ := List.mem_map.mp hv
        exact ih m hm
      rw [keys_ofMembers, hvs, zip_keys_values, Members.collapses_iff, Members.ofWritten_of_nodup keys]
        at collapses
      rw [collapses]
    | record encoded => cases encoded

/-! ### Every payload becomes a plain value -/

/-- A record becomes its object. -/
theorem normalizes_of_encoded? {t : Tree} {v : Json.Value} (h : t.encoded? = some v) :
  Normalizes t v
  := by
  exact .record h (plain_of_encoded? h).normalizes

mutual

/-- The normal form of a payload is something that it may become. -/
theorem normalizes_normal (t : Tree) :
  Normalizes t t.normal
  := by
  match t with
  | .null => exact .null
  | .bool b => exact .bool b
  | .int i => exact .int i
  | .float x => exact .float x
  | .text s => exact .text s
  | .path p => exact .path p
  | .level l => exact .level l
  | .color m => exact .color m
  | .constant c => exact .constant c
  | .list items =>
    obtain ⟨hlength, heach⟩ := List.forall₂_iff_zip.mp (forall₂_normalItems items)
    exact .list hlength heach
  | .tuple items =>
    obtain ⟨hlength, heach⟩ := List.forall₂_iff_zip.mp (forall₂_normalItems items)
    exact .tuple hlength heach
  | .set items =>
    obtain ⟨hlength, heach⟩ := List.forall₂_iff_zip.mp (forall₂_normalItems items)
    exact .set (.refl items) hlength heach
  | .map pairs =>
    obtain ⟨hlength, heach⟩ := List.forall₂_iff_zip.mp (forall₂_normalPairs pairs)
    apply Normalizes.map hlength heach
    rw [← keys_normalPairs, zip_keys_values, Members.collapses_iff]
  | .entry _ | .place _ | .diagnostic _ | .location _ | .position _ => exact normalizes_of_encoded? rfl

/-- So are those of the items of a container, one by one. -/
theorem forall₂_normalItems (ts : List Tree) :
  List.Forall₂ Normalizes ts (normalItems ts)
  := by
  match ts with
  | [] => exact .nil
  | t :: ts => exact .cons (normalizes_normal t) (forall₂_normalItems ts)

/-- So are those of the values of a map. -/
theorem forall₂_normalPairs (ps : List (Tree × Tree)) :
  List.Forall₂ Normalizes (ps.map Prod.snd) ((normalPairs ps).map Prod.snd)
  := by
  match ps with
  | [] => exact .nil
  | (_, t) :: ps => exact .cons (normalizes_normal t) (forall₂_normalPairs ps)

end

/-- Every payload becomes its normal form, and whatever it may become, in whichever order the members of
its sets come, is plain and stays as it is. -/
theorem normalizes_plain (t : Tree) :
  Normalizes t t.normal
    ∧ ∀ v, Normalizes t v →
      Plain v ∧ (ofValue v).normal = v ∧ ∀ w, Normalizes (ofValue v) w → w = v
  := by
  use normalizes_normal t
  intro v hv
  have honly := hv.plain.eq
  exact ⟨hv.plain, honly _ (normalizes_normal _), honly⟩

/-- Two keys of a map that read the same become one, with the place of the first and the value of the
second. -/
example :
  (Tree.map [(.int 1, .text "a"), (.null, .set []), (.text "1", .level .error)]).normal
    = .object [("1", .int 1), ("None", .list [])]
  := rfl

end Diagnostics.Payload
