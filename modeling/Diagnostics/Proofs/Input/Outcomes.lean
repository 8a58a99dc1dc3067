import Diagnostics.Input.Loading
import Diagnostics.Proofs.Except
import Mathlib.Tactic.Common

/-!
# Loading as a list of outcomes

`Input.outcomes` is what becomes of several inputs, frames included. Loading the inputs
returns exactly when each of them has an outcome, and then the reports and the exit code
are put together from the outcomes (`Loading.exists_run_iff`). With frames the outcomes are
those without, each with its frames built (`Input.outcomes_frames_iff`).
-/

namespace Diagnostics

/-! ### Outcomes of one input -/

/-- The reports of an input, none when it failed. -/
def Loaded.reportList : Loaded → List Report
  | .reports rs => rs
  | .failed _ => []

/-- The failure of an input. -/
def Loaded.fault? : Loaded → Option InputFault
  | .reports _ => none
  | .failed f => some f

/-- The text of a problem that was shown. -/
def LoadEvent.problem? : LoadEvent → Option String
  | .notice _ => none
  | .problem text => some text

/-- The number of the exit code for a failure: that nothing is there to be read, that it may not be
read, that reading failed, or that it is no diagnostics document. -/
def InputFault.exitNumber : InputFault → Nat
  | .os .notFound _ | .os .notADirectory _ | .os .isADirectory _ => 66
  | .os .denied _ | .os .notPermitted _ => 77
  | .os .nameTooLong _ | .os (.other _ _) _ => 74
  | .encoding _ | .document _ => 65

/-- The exit code of a failure has the number of the failure. -/
theorem InputFault.number_code (f : InputFault) :
  f.code.number = f.exitNumber
  := by
  cases f with
  | os f p => cases f <;> rfl
  | encoding f => rfl
  | document e => rfl

/-! ### Outcomes of several inputs -/

variable {t : FileTree} {cwd : FilePlace}

namespace Input

/-- What becomes of the inputs with the given names. Standard input is used up by the first of them
that reads it. -/
def outcomes (t : FileTree) (cwd : FilePlace) (frames : Bool) :
    List UInt8 → List String → Except LoadFault (List Loaded)
  | _, [] => .ok []
  | stdin, name :: names => do
    let o ← (ofName name).load t cwd frames stdin
    return o :: (← outcomes t cwd frames ((ofName name).left stdin) names)

/-- Inputs have outcomes when the first has one and the others have. -/
theorem outcomes_cons_iff {frames : Bool} {stdin : List UInt8} {name : String} {names : List String}
    {os : List Loaded} :
  outcomes t cwd frames stdin (name :: names) = .ok os
    ↔ ∃ o rest, (ofName name).load t cwd frames stdin = .ok o
      ∧ outcomes t cwd frames ((ofName name).left stdin) names = .ok rest ∧ os = o :: rest
  := by
  rw [outcomes, Except.bind_eq_ok_iff]
  constructor
  · rintro ⟨o, ho, hrest⟩
    obtain ⟨rest, hrest, hlist⟩ := Except.bind_eq_ok_iff.mp hrest
    cases hlist
    use o, rest
  · rintro ⟨o, rest, ho, hrest, rfl⟩
    use o, ho
    rw [hrest]
    rfl

end Input

namespace Loading

/-! ### Steps -/

/-- The problems that were shown. -/
def problems (l : Loading) : List String :=
  l.events.filterMap LoadEvent.problem?

/-- What is written about a document before its outcome is no problem. -/
theorem filterMap_documentEvents (stdin : List UInt8) (i : Input) :
  (i.documentEvents t cwd stdin).filterMap LoadEvent.problem? = []
  := by
  unfold Input.documentEvents
  split
  · simp [List.filterMap_map, LoadEvent.problem?]
  · rfl

/-- An input without an outcome ends loading. -/
theorem step_of_error {frames : Bool} {l : Loading} {name : String} {f : LoadFault}
    (h : (Input.ofName name).load t cwd frames l.stdin = .error f) :
  ∃ events, step t cwd frames l name = .error ⟨f, events⟩
  := by
  simp [step, h]

/-- The outcome of an input is taken in: its reports stand behind those before, and a failure is shown as
a problem, with its exit code when there is none before. -/
theorem step_of_ok {frames : Bool} {l : Loading} {name : String} {o : Loaded}
    (h : (Input.ofName name).load t cwd frames l.stdin = .ok o) :
  ∃ l', step t cwd frames l name = .ok l'
    ∧ l'.stdin = (Input.ofName name).left l.stdin
    ∧ l'.reports = l.reports ++ o.reportList
    ∧ l'.code = l.code.or (o.fault?.map InputFault.code)
    ∧ l'.problems = l.problems ++ (o.fault?.map (InputFault.message name)).toList
  := by
  simp only [step, h, Except.ok.injEq, exists_eq_left']
  cases o with
  | reports rs => simp [add, Loaded.reportList, Loaded.fault?, problems, filterMap_documentEvents]
  | failed f =>
    simp [add, Loaded.reportList, Loaded.fault?, problems, filterMap_documentEvents,
      List.filterMap_cons, LoadEvent.problem?]

/-! ### Runs -/

/-- Going on with further inputs returns exactly when they have outcomes; the reports and the exit code
are then those from before with those of the outcomes. -/
theorem exists_foldlM_iff {frames : Bool} {names : List String} {l : Loading} {reports : List Report}
    {code : Option ExitCode} :
  (∃ l', names.foldlM (step t cwd frames) l = .ok l' ∧ l'.reports = reports ∧ l'.code = code)
    ↔ ∃ os, Input.outcomes t cwd frames l.stdin names = .ok os
      ∧ reports = l.reports ++ os.flatMap Loaded.reportList
      ∧ code = l.code.or ((os.findSome? Loaded.fault?).map InputFault.code)
  := by
  induction names generalizing l with
  | nil => simp [Input.outcomes, pure, Except.pure, eq_comm]
  | cons name names ih =>
    rw [List.foldlM_cons]
    simp only [Input.outcomes_cons_iff]
    cases hload : (Input.ofName name).load t cwd frames l.stdin with
    | error f =>
      obtain ⟨events, hstep⟩ := step_of_error hload
      simp [hstep, bind, Except.bind]
    | ok o =>
      obtain ⟨l₁, hstep, hstdin, hreports, hcode, -⟩ := step_of_ok hload
      have hfault : ∀ os : List Loaded, ((o :: os).findSome? Loaded.fault?).map InputFault.code
          = (o.fault?.map InputFault.code).or ((os.findSome? Loaded.fault?).map InputFault.code) := by
        intro os
        rw [List.findSome?_cons]
        cases o.fault? <;> rfl
      rw [hstep]
      apply ih.trans
      rw [hstdin, hreports, hcode]
      simp only [List.append_assoc, Option.or_assoc, ← hfault, ← List.flatMap_cons]
      constructor
      · rintro ⟨os, hos, h⟩
        exact ⟨o :: os, ⟨o, os, rfl, hos, rfl⟩, h⟩
      · rintro ⟨_, ⟨_, os, ⟨⟩, hos, rfl⟩, h⟩
        exact ⟨os, hos, h⟩

/-- Loading inputs returns exactly when they have outcomes: the reports are those of the outcomes, the
exit code is that of the first failure. -/
theorem exists_run_iff {frames : Bool} {stdin : List UInt8} {names : List String} {reports : List Report}
    {code : Option ExitCode} :
  (∃ l, run t cwd frames stdin names = .ok l ∧ l.reports = reports ∧ l.code = code)
    ↔ ∃ os, Input.outcomes t cwd frames stdin names = .ok os
      ∧ reports = os.flatMap Loaded.reportList
      ∧ code = (os.findSome? Loaded.fault?).map InputFault.code
  := by
  apply (exists_foldlM_iff (l := { stdin })).trans
  simp

/-- The reports and the exit code that loading comes to, or the fault that ends it. -/
def result (r : Except Breakdown Loading) : Except LoadFault (List Report × Option ExitCode) :=
  (r.map fun l => (l.reports, l.code)).mapError Breakdown.fault

/-- Loading comes to reports and an exit code when it returns them. -/
theorem result_eq_ok_iff {r : Except Breakdown Loading} {reports : List Report} {code : Option ExitCode} :
  result r = .ok (reports, code) ↔ ∃ l, r = .ok l ∧ l.reports = reports ∧ l.code = code
  := by
  rw [result, Except.mapError_eq_ok_iff, Except.map_eq_ok_iff]
  simp only [Prod.mk.injEq]

end Loading

end Diagnostics
