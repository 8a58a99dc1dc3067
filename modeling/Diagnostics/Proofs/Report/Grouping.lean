import Diagnostics.Proofs.Except
import Diagnostics.Report.Document
import Mathlib.Algebra.GroupWithZero.Nat
import Mathlib.Data.List.Nodup
import Mathlib.Tactic.Common

/-!
# Documents grouped by checker

`Groups.Sorts` says what the groups of some diagnostics are: one for each checker, holding
its diagnostics in their order. Adding a diagnostic keeps this up (`Groups.Sorts.add`), and
so it holds of the groups of a document (`Groups.sorts_ofDiagnostics`), from which the
reports of a document are made.
-/

namespace Diagnostics.Document

/-! ### Groups -/

namespace Groups

/-- The checkers of some groups. -/
def checkers (gs : Groups) : List RawText :=
  gs.map Prod.fst

/-- The groups sort the diagnostics `ds` by their checkers, the default checker among them. -/
structure Sorts (checker : RawText) (ds : List Diagnostic) (gs : Groups) : Prop where
  /-- No checker has two groups. -/
  distinct : gs.checkers.Nodup
  /-- The checkers are the default checker and those of the diagnostics. -/
  mem_checkers : ∀ c, c ∈ gs.checkers ↔ c = checker ∨ ∃ d ∈ ds, d.checker = c
  /-- A group holds the diagnostics of its checker in their order. -/
  group : ∀ g ∈ gs, g.2 = ds.filter fun d => d.checker = g.1
  /-- The groups together hold each diagnostic once. -/
  together : (gs.flatMap Prod.snd).Perm ds

/-- A diagnostic is added to the group of its checker, and a new checker comes behind the others. -/
theorem checkers_add (d : Diagnostic) (gs : Groups) :
  checkers (add d gs) = if d.checker ∈ gs.checkers then gs.checkers else gs.checkers ++ [d.checker]
  := by
  induction gs with
  | nil => rfl
  | cons g gs ih =>
    by_cases hg : g.1 = d.checker
    · simp [add, checkers, hg]
    · have hmem : d.checker ∈ checkers (g :: gs) ↔ d.checker ∈ checkers gs := by
        simp [checkers, Ne.symm hg]
      rw [add, if_neg hg]
      simp only [hmem]
      change g.1 :: checkers (add d gs) = _
      rw [ih]
      split <;> rfl

/-- A group after adding a diagnostic is one of another checker, or that of its checker with the
diagnostic behind what was there before. -/
theorem mem_add {d : Diagnostic} {gs : Groups} (hdistinct : gs.checkers.Nodup)
    {g : RawText × List Diagnostic} (hg : g ∈ add d gs) :
  (g ∈ gs ∧ g.1 ≠ d.checker)
    ∨ (∃ before, (d.checker, before) ∈ gs ∧ g = (d.checker, before ++ [d]))
    ∨ (d.checker ∉ gs.checkers ∧ g = (d.checker, [d]))
  := by
  induction gs with
  | nil =>
    right; right
    simpa [add, checkers] using hg
  | cons first gs ih =>
    obtain ⟨hfirst, hrest⟩ := List.nodup_cons.mp hdistinct
    by_cases hchecker : first.1 = d.checker
    · rw [add, if_pos hchecker, List.mem_cons] at hg
      obtain rfl | hg := hg
      · right; left
        use first.2
        rw [← hchecker]
        simp
      · left
        constructor
        · apply List.mem_cons_of_mem _ hg
        · -- The checker of the first group is not repeated.
          intro h
          apply hfirst
          rw [hchecker, ← h]
          apply List.mem_map_of_mem hg
    · rw [add, if_neg hchecker, List.mem_cons] at hg
      obtain rfl | hg := hg
      · left
        simp [hchecker]
      · obtain ⟨hmem, hne⟩ | ⟨before, hmem, rfl⟩ | ⟨hnew, rfl⟩ := ih hrest hg
        · left
          use List.mem_cons_of_mem _ hmem
        · right; left
          use before, List.mem_cons_of_mem _ hmem
        · right; right
          simpa [checkers, Ne.symm hchecker] using hnew

/-- Adding a diagnostic adds it to what the groups hold together. -/
theorem flatMap_add_perm (d : Diagnostic) (gs : Groups) :
  ((add d gs).flatMap Prod.snd).Perm (gs.flatMap Prod.snd ++ [d])
  := by
  induction gs with
  | nil => simp [add]
  | cons g gs ih =>
    by_cases hg : g.1 = d.checker
    · simp only [add, if_pos hg, List.flatMap_cons, List.append_assoc]
      apply List.Perm.append_left
      apply List.perm_append_comm
    · simp only [add, if_neg hg, List.flatMap_cons, List.append_assoc]
      apply List.Perm.append_left _ ih

/-- The group of the default checker alone sorts no diagnostics. -/
theorem sorts_nil (checker : RawText) :
  Sorts checker [] [(checker, [])]
  where
  distinct := by simp [checkers]
  mem_checkers := by simp [checkers]
  group := by simp
  together := by simp

/-- Adding a diagnostic to groups that sort those before it. -/
theorem Sorts.add {checker : RawText} {ds : List Diagnostic} {gs : Groups} (h : Sorts checker ds gs)
    (d : Diagnostic) :
  Sorts checker (ds ++ [d]) (gs.add d)
  where
  distinct := by
    rw [checkers_add]
    split
    · apply h.distinct
    · next hnew =>
      rw [List.nodup_append]
      use h.distinct, by simp
      rintro c hc _ hd rfl
      rw [List.mem_singleton.mp hd] at hc
      apply hnew hc
  mem_checkers := by
    intro c
    rw [checkers_add]
    have hc := h.mem_checkers c
    have hd := h.mem_checkers d.checker
    split <;> simp only [List.mem_append, List.mem_singleton, or_and_right, exists_or] at * <;> grind
  group := by
    intro g hg
    rw [List.filter_append]
    obtain ⟨hmem, hne⟩ | ⟨before, hmem, rfl⟩ | ⟨hnew, rfl⟩ := mem_add h.distinct hg
    · rw [h.group g hmem]
      simp [Ne.symm hne]
    · have hbefore : before = ds.filter fun e => e.checker = d.checker := h.group _ hmem
      rw [hbefore]
      simp
    · -- No diagnostic before had the checker.
      have hnone : (ds.filter fun e => e.checker = d.checker) = [] := by
        rw [List.filter_eq_nil_iff]
        intro e he hchecker
        apply hnew
        apply (h.mem_checkers d.checker).mpr
        right
        use e, he
        simpa using hchecker
      simp [hnone]
  together := by
    apply (flatMap_add_perm d gs).trans
    apply h.together.append_right

/-- The groups of some diagnostics sort them. -/
theorem sorts_ofDiagnostics (checker : RawText) (ds : List Diagnostic) :
  Sorts checker ds (ofDiagnostics checker ds)
  := by
  have hfold : ∀ (rest before : List Diagnostic) (gs : Groups), Sorts checker before gs →
      Sorts checker (before ++ rest) (rest.foldl (fun gs d => gs.add d) gs) := by
    intro rest
    induction rest with
    | nil => simp
    | cons d rest ih =>
      intro before gs hgs
      rw [List.append_cons]
      apply ih _ _ (hgs.add d)
  apply hfold ds [] _ (sorts_nil checker)

/-- The checker of a diagnostic has a group. -/
theorem Sorts.exists_group {checker : RawText} {ds : List Diagnostic} {gs : Groups}
    (h : Sorts checker ds gs) {d : Diagnostic} (hd : d ∈ ds) :
  ∃ g ∈ gs, g.1 = d.checker
  := by
  have hmem : d.checker ∈ gs.checkers := by
    apply (h.mem_checkers d.checker).mpr
    right
    use d
  simpa [checkers] using hmem

/-- A diagnostic is in the group of its checker and in no other. -/
theorem Sorts.mem_group_iff {checker : RawText} {ds : List Diagnostic} {gs : Groups}
    (h : Sorts checker ds gs) {g g' : RawText × List Diagnostic} (hg : g ∈ gs) (hg' : g' ∈ gs)
    {d : Diagnostic} (hd : d ∈ ds) (hchecker : g.1 = d.checker) :
  d ∈ g'.2 ↔ g' = g
  := by
  rw [h.group g' hg', List.mem_filter, decide_eq_true_eq]
  constructor
  · rintro ⟨-, hd'⟩
    apply List.inj_on_of_nodup_map h.distinct hg' hg
    rw [hchecker, hd']
  · rintro rfl
    use hd, hchecker.symm

/-- A group without a diagnostic is that of the default checker. -/
theorem Sorts.ne_nil {checker : RawText} {ds : List Diagnostic} {gs : Groups}
    (h : Sorts checker ds gs) {g : RawText × List Diagnostic} (hg : g ∈ gs) (hne : g.1 ≠ checker) :
  g.2 ≠ []
  := by
  obtain hdefault | ⟨d, hd, hchecker⟩ := (h.mem_checkers g.1).mp (List.mem_map_of_mem hg)
  · contradiction
  · apply List.ne_nil_of_mem
    apply (h.mem_group_iff hg hg hd hchecker.symm).mpr rfl

/-- Every group of some diagnostics makes a report. -/
theorem Sorts.isReported {doc : Document} {ds : List Diagnostic} {gs : Groups}
    (h : Sorts doc.checker ds gs) :
  gs.filter doc.isReported = gs
  := by
  rw [List.filter_eq_self]
  intro g hg
  by_cases hdefault : g.1 = doc.checker
  · simp [Document.isReported, hdefault]
  · simp [Document.isReported, h.ne_nil hg hdefault]

end Groups

/-! ### Entries -/

/-- The entry is an object that gives the diagnostic, with a checker to fall back on. -/
def Gives (checker : RawText) (entry : Json.Value) (d : Diagnostic) : Prop :=
  ∃ members, entry = .object members ∧ Diagnostic.decode (some checker) members = .ok d

/-- An entry that is decoded gives what it is decoded to. -/
theorem gives_of_decodeEntry {checker : RawText} {index : Nat} {entry : Json.Value} {d : Diagnostic}
    (h : decodeEntry checker index entry = .ok d) :
  Gives checker entry d
  := by
  cases entry with
  | object members => use members, rfl, Except.mapError_eq_ok_iff.mp h
  | _ => contradiction

/-- Entries that are decoded give the diagnostics one by one. -/
theorem gives_of_decodeEntries {checker : RawText} {entries : List Json.Value} {index : Nat}
    {ds : List Diagnostic} (h : decodeEntries checker index entries = .ok ds) :
  List.Forall₂ (Gives checker) entries ds
  := by
  induction entries generalizing index ds with
  | nil =>
    cases h
    apply List.Forall₂.nil
  | cons entry entries ih =>
    rw [decodeEntries] at h
    split at h
    · contradiction
    · next d hd =>
      obtain ⟨rest, hrest, rfl⟩ := Except.map_eq_ok_iff.mp h
      apply List.Forall₂.cons (gives_of_decodeEntry hd) (ih hrest)

/-! ### Documents -/

/-- The checker of the entries of a value that name none: the one that an object names, and else
the given one. -/
def effectiveChecker (default : RawText) : Json.Value → RawText
  | .object members =>
    match Members.get? ↑"checker" members with
    | some (.text s) => s
    | _ => default
  | _ => default

/-- The entries that a value lists. -/
def listed : Json.Value → List Json.Value
  | .list entries => entries
  | .object members =>
    match Members.get? ↑"diagnostics" members with
    | some (.list entries) => entries
    | _ => []
  | _ => []

/-- The checker of an object document is the effective one. -/
theorem eq_of_checkerOf {default : RawText} {members : Json.Members} {checker : RawText}
    (h : checkerOf default members = .ok checker) :
  checker = effectiveChecker default (.object members)
  := by
  unfold checkerOf at h
  split at h
  · next habsent =>
    split at h
    · contradiction
    · cases h
      simp [effectiveChecker, habsent]
  · next s hs =>
    split at h
    · contradiction
    · cases h
      simp [effectiveChecker, hs]
  · contradiction

/-- The document that a value is has the checker and the entries of the value. -/
theorem eq_of_ofValue {default : RawText} {v : Json.Value} {doc : Document}
    (h : ofValue default v = .ok doc) :
  doc.checker = effectiveChecker default v ∧ doc.entries = listed v
  := by
  cases v with
  | list entries =>
    cases h
    constructor <;> rfl
  | object members =>
    rw [ofValue] at h
    split at h
    · contradiction
    · next checker hchecker =>
      unfold listed
      split at h
      · next habsent =>
        cases h
        use eq_of_checkerOf hchecker
        simp [habsent]
      · next entries hentries =>
        cases h
        use eq_of_checkerOf hchecker
        simp [hentries]
      · contradiction
  | _ => contradiction

/-- The reports of a text are made from the groups of the diagnostics that its entries give. -/
theorem exists_groups_of_reports {default : RawText} {text : String} {rs : List Report}
    (h : reports default text = .ok rs) :
  ∃ v doc ds, Json.read text = .ok v ∧ ofValue default v = .ok doc
    ∧ List.Forall₂ (Gives doc.checker) doc.entries ds
    ∧ rs = (Groups.ofDiagnostics doc.checker ds).map doc.reportOf
  := by
  unfold reports at h
  split at h
  · contradiction
  · next doc hdoc =>
    obtain ⟨ds, hds, rfl⟩ := Except.map_eq_ok_iff.mp h
    unfold read at hdoc
    split at hdoc
    · contradiction
    · next v hv =>
      use v, doc, ds, hv, hdoc, gives_of_decodeEntries hds
      rw [(Groups.sorts_ofDiagnostics doc.checker ds).isReported]

/-- The reports sort the diagnostics `ds` by their checkers; `checker` is the one whose report need
not hold any. -/
structure Sorts (checker : RawText) (ds : List Diagnostic) (rs : List Report) : Prop where
  /-- No checker has two reports. -/
  distinct : (rs.map Report.checker).Nodup
  /-- Each diagnostic is in the report of its checker and in no other. -/
  unique : ∀ d ∈ ds, ∃ r ∈ rs, r.checker = d.checker ∧ ∀ r' ∈ rs, d ∈ r'.diagnostics ↔ r' = r
  /-- A report holds the diagnostics of its checker in their order. -/
  report : ∀ r ∈ rs, r.diagnostics = ds.filter fun d => d.checker = r.checker
  /-- The other reports hold a diagnostic. -/
  ne_nil : ∀ r ∈ rs, r.checker ≠ checker → r.diagnostics ≠ []
  /-- The other reports have no display name. -/
  displayName : ∀ r ∈ rs, r.displayName ≠ none → r.checker = checker

/-- The reports of groups that sort some diagnostics sort them too. -/
theorem Groups.Sorts.map_reportOf {doc : Document} {ds : List Diagnostic} {gs : Groups}
    (h : gs.Sorts doc.checker ds) :
  Document.Sorts doc.checker ds (gs.map doc.reportOf)
  where
  distinct := by
    rw [List.map_map]
    apply h.distinct
  unique := by
    intro d hd
    obtain ⟨g, hg, hgd⟩ := h.exists_group hd
    use doc.reportOf g, List.mem_map_of_mem hg, hgd
    rw [List.forall_mem_map]
    intro g' hg'
    constructor
    · intro hmem
      rw [(h.mem_group_iff hg hg' hd hgd).mp hmem]
    · intro heq
      have hgd' : g'.1 = d.checker := Eq.trans (congrArg Report.checker heq) hgd
      apply (h.mem_group_iff hg' hg' hd hgd').mpr rfl
  report := by
    rw [List.forall_mem_map]
    apply h.group
  ne_nil := by
    rw [List.forall_mem_map]
    intro g hg
    apply h.ne_nil hg
  displayName := by
    rw [List.forall_mem_map]
    intro g hg hname
    by_contra hne
    apply hname
    apply if_neg hne

/-- The reports of a text sort the diagnostics that its entries give with the effective checker to
fall back on, and hold together as many as there are entries. -/
theorem reports_sort_entries {default : RawText} {text : String} {rs : List Report}
    (h : reports default text = .ok rs) :
  ∃ (v : Json.Value) (ds : List Diagnostic), Json.read text = .ok v
    ∧ List.Forall₂ (Gives (effectiveChecker default v)) (listed v) ds
    ∧ Sorts (effectiveChecker default v) ds rs
    ∧ (rs.map fun r => r.diagnostics.length).sum = (listed v).length
  := by
  obtain ⟨v, doc, ds, hv, hdoc, hentries, rfl⟩ := exists_groups_of_reports h
  obtain ⟨hchecker, hlisted⟩ := eq_of_ofValue hdoc
  have hsorts := Groups.sorts_ofDiagnostics doc.checker ds
  use v, ds, hv
  rw [← hchecker, ← hlisted]
  use hentries, hsorts.map_reportOf
  calc
    (((Groups.ofDiagnostics doc.checker ds).map doc.reportOf).map fun r => r.diagnostics.length).sum
      = ((Groups.ofDiagnostics doc.checker ds).map fun g => g.2.length).sum := by
        rw [List.map_map]
        rfl
    _ = ds.length := by
        rw [← hsorts.together.length_eq, List.length_flatMap]
    _ = doc.entries.length := hentries.length_eq.symm

/-- The first and the last entry of this list name the same checker, and the one between names none. -/
def interleaved : String :=
  "[\x7b\"checker\": \"types\"\x7d, \x7b\x7d, \x7b\"checker\": \"types\"\x7d]"

/-- The entries that name the same checker are brought together. -/
theorem reports_sort_interleaved :
  ∃ rs, reports "lint" interleaved = .ok rs
    ∧ rs = [⟨"lint", [{ checker := "lint" }], none⟩,
        ⟨"types", [{ checker := "types" }, { checker := "types" }], none⟩]
    ∧ ∃ (v : Json.Value) (ds : List Diagnostic), Json.read interleaved = .ok v
      ∧ List.Forall₂ (Gives (effectiveChecker "lint" v)) (listed v) ds
      ∧ Sorts (effectiveChecker "lint" v) ds rs
      ∧ (rs.map fun r => r.diagnostics.length).sum = (listed v).length
  := by
  have h : reports "lint" interleaved = .ok [⟨"lint", [{ checker := "lint" }], none⟩,
      ⟨"types", [{ checker := "types" }, { checker := "types" }], none⟩] := by
    decide +kernel
  refine ⟨_, h, rfl, ?_⟩
  apply reports_sort_entries h

end Diagnostics.Document
