import Diagnostics.Proofs.Pairs
import Diagnostics.Value
import Mathlib.Data.List.Induction

/-!
# Written members

Of members that are written one after the other each key remains once, in the order of the first
occurrences, with the value that was written last (`Members.Collapses`). This fixes what remains
(`Members.collapses_iff`).
-/

namespace Diagnostics

/-! ### First occurrences -/

section

variable {α : Type} [BEq α] [LawfulBEq α]

/-- A further item is a first occurrence unless it is there already. -/
theorem eraseDups_concat (xs : List α) (x : α) :
  (xs ++ [x]).eraseDups = if x ∈ xs then xs.eraseDups else xs.eraseDups ++ [x]
  := by
  rw [List.eraseDups_append, List.removeAll]
  split
  · next hmem => simp [hmem]
  · next hnew => simp [hnew, List.eraseDups_cons]

/-- First occurrences are not repeated. -/
theorem nodup_eraseDups (xs : List α) :
  xs.eraseDups.Nodup
  := by
  induction xs using List.reverseRecOn with
  | nil => exact List.nodup_nil
  | append_singleton xs x ih =>
    rw [eraseDups_concat]
    split
    · exact ih
    · next hnew =>
      have hx : x ∉ xs.eraseDups := by rwa [List.mem_eraseDups]
      simp only [List.nodup_append, List.mem_singleton, forall_eq]
      exact ⟨ih, by simp, fun y hy hyx => hx (hyx ▸ hy)⟩

end

namespace Members

variable {τ : Type} [DecidableEq τ] {ms written : Members τ} {key : τ} {v : Value τ}

/-! ### Keys and values -/

/-- A key that has a value keeps its place, and any other comes behind. -/
theorem keys_set (key : τ) (v : Value τ) (ms : Members τ) :
  (ms.set key v).map Prod.fst = if key ∈ ms.map Prod.fst then ms.map Prod.fst else ms.map Prod.fst ++ [key]
  := by
  split
  · next hmem =>
    induction ms with
    | nil => contradiction
    | cons m ms ih =>
      rw [set]
      split
      · next hkey => simp [hkey]
      · next hkey =>
        have hms : key ∈ ms.map Prod.fst := (List.mem_cons.mp hmem).resolve_left (Ne.symm hkey)
        rw [List.map_cons, List.map_cons, ih hms]
  · next hnew => simp [set_of_notMem hnew]

/-- The value of a key is that of the first member if this has the key. -/
theorem get?_cons (key : τ) (m : τ × Value τ) (ms : Members τ) :
  Members.get? key (m :: ms) = if key = m.1 then some m.2 else ms.get? key
  := by
  exact lookup_cons_eq_ite key m.1 m.2 ms

/-- The key has the value that it is given, and other keys have theirs. -/
theorem get?_set (key key' : τ) (v : Value τ) (ms : Members τ) :
  (ms.set key v).get? key' = if key' = key then some v else ms.get? key'
  := by
  induction ms with
  | nil => rw [set, get?_cons]
  | cons m ms ih =>
    rw [set]
    split
    · next hkey =>
      subst hkey
      rw [get?_cons, get?_cons]
      split <;> rfl
    · next hkey =>
      rw [get?_cons, get?_cons, ih]
      split
      · next h => rw [if_neg (by rwa [h])]
      · rfl

/-- When no key is repeated, each key has the value of its member, and no other. -/
theorem get?_eq_some_iff (hkeys : (ms.map Prod.fst).Nodup) :
  ms.get? key = some v ↔ (key, v) ∈ ms
  := by
  exact lookup_eq_some_iff_mem hkeys

/-- Members without a repeated key are fixed by their keys and the values of these. -/
theorem eq_of_keys_eq {ms ms' : Members τ} (hnodup : (ms.map Prod.fst).Nodup)
    (hkeys : ms.map Prod.fst = ms'.map Prod.fst) (hvalues : ∀ key, ms.get? key = ms'.get? key) :
  ms = ms'
  := by
  have hnodup' : (ms'.map Prod.fst).Nodup := hkeys ▸ hnodup
  have hvalue : ∀ m ∈ ms, ∀ m' ∈ ms', m.1 = m'.1 → m.2 = m'.2 := by
    intro m hm m' hm' hkey
    have h := hvalues m.1
    rw [(get?_eq_some_iff hnodup).mpr hm, hkey, (get?_eq_some_iff hnodup').mpr hm'] at h
    exact Option.some.inj h
  have hlength : ms.length = ms'.length := by simpa using congrArg List.length hkeys
  apply List.ext_getElem hlength
  intro i hi hi'
  have hkey : ms[i].1 = ms'[i].1 := by
    have h := congrArg (fun keys => keys[i]?) hkeys
    simpa [hi, hi'] using h
  exact Prod.ext hkey (hvalue _ (List.getElem_mem hi) _ (List.getElem_mem hi') hkey)

/-! ### What remains -/

/-- What remains of members that are written one after the other: the keys in the order of their first
occurrences, each with the value that was written last. -/
structure Collapses (written ms : Members τ) : Prop where
  keys : ms.map Prod.fst = (written.map Prod.fst).eraseDups
  last : ∀ key, ms.get? key = Members.get? key written.reverse

namespace Collapses

/-- No key remains twice. -/
theorem nodup (h : Collapses written ms) :
  (ms.map Prod.fst).Nodup
  := by
  rw [h.keys]
  exact nodup_eraseDups _

/-- A member that remains was written. -/
theorem mem (h : Collapses written ms) {m : τ × Value τ} (hm : m ∈ ms) :
  m ∈ written
  := by
  have hlast := h.last m.1
  rw [(get?_eq_some_iff h.nodup).mpr hm, get?, eq_comm, List.lookup_eq_some_iff] at hlast
  obtain ⟨before, after, hsplit, -⟩ := hlast
  rw [← List.mem_reverse, hsplit]
  simp

end Collapses

/-- Writing members one after the other leaves what remains of them. -/
theorem collapses_ofWritten (written : Members τ) :
  Collapses written (ofWritten written)
  := by
  induction written using List.reverseRecOn with
  | nil => exact ⟨rfl, fun _ => rfl⟩
  | append_singleton written m ih =>
    have hconcat : ofWritten (written ++ [m]) = (ofWritten written).set m.1 m.2 := by
      simp [ofWritten]
    constructor
    · rw [hconcat, keys_set, ih.keys, List.map_append, List.map_singleton, eraseDups_concat]
      simp only [List.mem_eraseDups]
    · intro key
      rw [hconcat, get?_set, ih.last, List.reverse_append, List.reverse_singleton, List.singleton_append,
        get?_cons]

/-- What remains of written members is what writing them leaves, and nothing else. -/
theorem collapses_iff :
  Collapses written ms ↔ ms = ofWritten written
  := by
  constructor
  · intro h
    have hwritten := collapses_ofWritten written
    apply eq_of_keys_eq h.nodup
    · rw [h.keys, hwritten.keys]
    · intro key
      rw [h.last, hwritten.last]
  · rintro rfl
    exact collapses_ofWritten written

end Members

end Diagnostics
