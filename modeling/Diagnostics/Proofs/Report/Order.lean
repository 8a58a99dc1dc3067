import Diagnostics.Proofs.Diagnostic.Refusal
import Diagnostics.Proofs.Members
import Diagnostics.Proofs.Report.Grouping

/-!
# The order of reports

The groups of a document stand in the order in which their checkers are first seen, the default
checker being seen before all entries (`Groups.checkers_ofDiagnostics`). So the reports of a list
come in the order of its entries, but for the report of the default checker, which is always there
and always the first (`reports_firstSeen`).
-/

namespace Diagnostics.Document

/-! ### First occurrences -/

/-- Putting an item in front leaves the first occurrences as they are when it is the first anyway. -/
theorem eraseDups_cons_eq_iff {α : Type} [BEq α] [LawfulBEq α] {x : α} {xs : List α} :
  (x :: xs).eraseDups = xs.eraseDups ↔ xs.head? = some x
  := by
  cases xs with
  | nil => simp [List.eraseDups_cons]
  | cons y ys =>
    rw [List.eraseDups_cons, List.eraseDups_cons, List.head?_cons, Option.some.injEq]
    constructor
    · intro h
      exact (List.cons.inj h).1.symm
    · rintro rfl
      simp

/-! ### The order of groups -/

/-- The checkers of groups stand in the order in which they are first seen. -/
theorem Groups.checkers_ofDiagnostics (checker : RawText) (ds : List Diagnostic) :
  checkers (ofDiagnostics checker ds) = (checker :: ds.map Diagnostic.checker).eraseDups
  := by
  induction ds using List.reverseRecOn with
  | nil => simp [ofDiagnostics, checkers, List.eraseDups_cons]
  | append_singleton ds d ih =>
    have hadd : ofDiagnostics checker (ds ++ [d]) = (ofDiagnostics checker ds).add d := by
      simp [ofDiagnostics]
    rw [hadd, checkers_add, ih, List.map_append, ← List.cons_append, List.map_singleton, eraseDups_concat]
    simp only [List.mem_eraseDups]

/-! ### The checkers of entries -/

/-- The diagnostic of an entry has the checker that the entry names, and the default one when it names
none. -/
theorem Gives.checker_eq {default : RawText} {entry : Json.Value} {d : Diagnostic} (h : Gives default entry d) :
  d.checker = effectiveChecker default entry
  := by
  obtain ⟨members, rfl, hdecode⟩ := h
  have hchecker := (Diagnostic.decode_eq_ok_iff.mp hdecode).1
  cases Diagnostic.checkerOf?_eq_some_iff.mp hchecker with
  | named hnamed => simp [effectiveChecker, hnamed]
  | fallenBack habsent hdefault => simpa [effectiveChecker, habsent] using hdefault.symm

/-- Entries that are all diagnostics are decoded. -/
theorem exists_decodeEntries_eq {checker : RawText} {entries : List Json.Value}
    (h : ∀ v ∈ entries, ∃ d, Gives checker v d) (index : Nat) :
  ∃ ds, decodeEntries checker index entries = .ok ds
  := by
  induction entries generalizing index with
  | nil => exact ⟨[], rfl⟩
  | cons v vs ih =>
    obtain ⟨⟨d, members, rfl, hdecode⟩, hrest⟩ := List.forall_mem_cons.mp h
    obtain ⟨ds, hds⟩ := ih hrest (index + 1)
    use d :: ds
    simp [decodeEntries, decodeEntry, hdecode, hds, Except.mapError, Except.map]

/-! ### Lists of diagnostics -/

/-- A list whose entries are all diagnostics has the report of the default checker first, and behind it
those of the other checkers of its entries in the order of the first entry of each. That is the order in
which its checkers are first seen exactly when the first entry has the default checker. -/
theorem reports_firstSeen {default : RawText} {text : String} {entries : List Json.Value}
    (hread : Json.read text = .ok (.list entries)) (hentries : ∀ v ∈ entries, ∃ d, Gives default v d) :
  ∃ rs, reports default text = .ok rs
    ∧ rs.map Report.checker
      = default :: ((entries.map (effectiveChecker default)).filter fun c => c ≠ default).eraseDups
    ∧ (rs.map Report.checker = (entries.map (effectiveChecker default)).eraseDups
      ↔ entries.head?.map (effectiveChecker default) = some default)
  := by
  obtain ⟨ds, hds⟩ := exists_decodeEntries_eq hentries 0
  have hcheckers : ds.map Diagnostic.checker = entries.map (effectiveChecker default) := by
    have hgives := gives_of_decodeEntries hds
    rw [← List.forall₂_eq_eq_eq, List.forall₂_map_left_iff, List.forall₂_map_right_iff]
    apply hgives.flip.imp
    intro d v h
    apply Gives.checker_eq h
  let doc : Document := { checker := default, displayName := none, entries }
  have hreports : reports default text = .ok ((Groups.ofDiagnostics default ds).map doc.reportOf) := by
    have hall := (Groups.sorts_ofDiagnostics doc.checker ds).isReported
    simp only [reports, read, hread, ofValue, toReports, hds, Except.map]
    rw [hall]
  have horder : ((Groups.ofDiagnostics default ds).map doc.reportOf).map Report.checker
      = (default :: entries.map (effectiveChecker default)).eraseDups := by
    rw [List.map_map, ← hcheckers]
    apply Groups.checkers_ofDiagnostics
  refine ⟨_, hreports, ?_, ?_⟩
  · rw [horder, List.eraseDups_cons]
    congr 2
    apply List.filter_congr
    intro c _
    by_cases hc : c = default <;> simp [hc]
  · rw [horder, eraseDups_cons_eq_iff, List.head?_map]

/-- The first entry of this list names a checker and the second names none. -/
def unnamedLast : String :=
  "[\x7b\"checker\":\"types\"\x7d,\x7b\x7d]"

/-- The checker of the second entry comes before that of the first. -/
theorem reports_firstSeen_unnamedLast :
  ∃ entries, Json.read unnamedLast = .ok (.list entries) ∧ (∀ v ∈ entries, ∃ d, Gives "stdin" v d)
    ∧ ∃ rs, reports "stdin" unnamedLast = .ok rs ∧ rs.map Report.checker = ["stdin", "types"]
      ∧ (entries.map (effectiveChecker "stdin")).eraseDups = ["types", "stdin"]
  := by
  have hread : Json.read unnamedLast = .ok (.list [.object [("checker", .text "types")], .object []]) := by
    decide +kernel
  have hentries : ∀ v ∈ ([.object [("checker", .text "types")], .object []] : List Json.Value),
      ∃ d, Gives "stdin" v d := by
    rw [List.forall_mem_cons, List.forall_mem_singleton]
    exact ⟨⟨{ checker := "types" }, _, rfl, rfl⟩, ⟨{ checker := "stdin" }, _, rfl, rfl⟩⟩
  obtain ⟨rs, hrs, horder, -⟩ := reports_firstSeen hread hentries
  refine ⟨_, hread, hentries, rs, hrs, ?_, by decide⟩
  rw [horder]
  decide

/-- The report of the default checker is the first, whether an entry has the checker or not. -/
theorem reports_start_with_default :
  (reports "stdin" unnamedLast).toOption
      = some [⟨"stdin", [{ checker := "stdin" }], none⟩, ⟨"types", [{ checker := "types" }], none⟩]
    ∧ (reports "stdin" "[\x7b\"checker\":\"types\"\x7d]").toOption
      = some [⟨"stdin", [], none⟩, ⟨"types", [{ checker := "types" }], none⟩]
  := by
  decide +kernel

end Diagnostics.Document
