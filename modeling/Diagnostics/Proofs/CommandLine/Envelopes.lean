import Diagnostics.Proofs.CommandLine.Payload
import Diagnostics.Proofs.Input.Envelopes

/-!
# One envelope for each input and checker

Every input that names a checker gets an envelope for it, so a checker that two inputs name
gets two, and a client that replaces what it shows loses the first of them
(`Program.payload_envelopes_repeated`). What the envelopes are in general is said by
`Program.payload_envelopes`.
-/

namespace Diagnostics.CommandLine

variable {w : Surroundings} {e : Program.Entry} {args : List String} {s : State} {a : Arguments}
  {settings : Settings} {l : Loading}

/-- Each text that is printed is read back as the envelope of its report. -/
theorem forall₂_read_payloadLines (layout : Json.Layout) (levels : List Level) (rs : List Report) :
  List.Forall₂ (fun text e => Json.read text = .ok (Payload.plainEnvelope e.1 e.2))
    (payloadLines layout levels rs) (envelopesOf levels rs)
  := by
  rw [payloadLines, envelopesOf, List.forall₂_map_left_iff, List.forall₂_map_right_iff, List.forall₂_same]
  intro r _
  have hregular := Payload.regular_envelope levels r.checker r.diagnostics
  rw [Report.payload, Payload.serialize, Json.read_print layout hregular, Payload.envelope,
    Payload.normal_wrap, List.map_map]
  rfl

section Library

variable [Toml.Library]

/-- With settings that ask for payloads and inputs that can be loaded, the payload command prints texts that
are read back as envelopes, which announce what the inputs contribute: each envelope is about a checker
that an input names, and those of a checker hold together the entries of all its diagnostics that are
wanted, in the order of the inputs and of their documents. The checkers are distinct exactly when no two
inputs name the same one, and then a client ends up with all entries of every checker; else it ends
up with those of the last input that names the checker. -/
theorem Program.payload_envelopes (hrun : Emits w e args s a) (hsettings : InEffect w s a settings)
    (hoverlay : settings.overlay = true)
    (hload : Loading.run w.files w.directory (framesOf a) w.input (inputsOf a) = .ok l) :
  ∃ (xs : List Listing) (envelopes : List Envelope) (texts : List String),
    Input.ListAll w.files w.directory (framesOf a) w.input (inputsOf a) xs
    ∧ (run w e args).stdout = String.join (texts.map (· ++ "\n"))
    ∧ List.Forall₂ (fun text e => Json.read text = .ok (Payload.plainEnvelope e.1 e.2)) texts envelopes
    ∧ Announces settings.levels xs envelopes
    ∧ ((envelopes.map Prod.fst).Nodup → ∀ c ∈ envelopes.map Prod.fst,
      Shown.after envelopes c = some (entriesOf settings.levels c (xs.flatMap Listing.diagnostics)))
  := by
  obtain ⟨os, hos, hreports, -⟩ := Loading.exists_run_iff.mp ⟨l, hload, rfl, rfl⟩
  obtain ⟨xs, hxs, hannounces⟩ := Input.announces_of_outcomes hos
  rw [← hreports] at hannounces
  use xs, envelopesOf settings.levels l.reports, payloadLines (layoutOf a) settings.levels l.reports, hxs
  use (hrun.of_loading hsettings hoverlay hload).1
  use forall₂_read_payloadLines (layoutOf a) settings.levels l.reports
  use hannounces settings.levels
  apply (hannounces settings.levels).complete

end Library

namespace Program

open Toml.Standard

/-- Two documents that name the same checker, each with an error. -/
def repeatedSurroundings : Surroundings where
  files := .ofEntries
    [(["work", "a.json"], .file
        "\x7b\"checker\": \"lint\", \"diagnostics\": [\x7b\"level\": 1, \"message\": \"one\"\x7d]\x7d".toUTF8.toList),
     (["work", "b.json"], .file
        "\x7b\"checker\": \"lint\", \"diagnostics\": [\x7b\"level\": 1, \"message\": \"two\"\x7d]\x7d".toUTF8.toList)]
  directory := ["work"]

/-- The error of one of the documents. -/
def repeatedDiagnostic (message : String) : Diagnostic :=
  { checker := "lint", level := some .error, message := some message }

/-- The reports of the two documents. -/
def repeatedReports : List Report :=
  [{ checker := "lint", diagnostics := [repeatedDiagnostic "one"] },
   { checker := "lint", diagnostics := [repeatedDiagnostic "two"] }]

/-- The envelopes of the two documents, printed with an indentation, announce what the documents
contribute. -/
theorem payload_envelopes_indented :
  ∃ a l xs envelopes texts,
    Emits repeatedSurroundings (.command .payload) ["--indent", "2", "a.json", "b.json"] {} a
    ∧ InEffect repeatedSurroundings {} a {}
    ∧ Loading.run repeatedSurroundings.files repeatedSurroundings.directory (framesOf a)
      repeatedSurroundings.input (inputsOf a) = .ok l
    ∧ Input.ListAll repeatedSurroundings.files repeatedSurroundings.directory (framesOf a)
      repeatedSurroundings.input (inputsOf a) xs
    ∧ (run repeatedSurroundings (.command .payload) ["--indent", "2", "a.json", "b.json"]).stdout
      = String.join (texts.map (· ++ "\n"))
    ∧ List.Forall₂ (fun text e => Json.read text = .ok (Payload.plainEnvelope e.1 e.2)) texts envelopes
    ∧ Announces Level.all xs envelopes
  := by
  let a : Arguments := { uses := [{ key := .indent, value := "2" }], rest := ["a.json", "b.json"] }
  have hrun : Emits repeatedSurroundings (.command .payload) ["--indent", "2", "a.json", "b.json"] {} a :=
    .alone (by decide +kernel)
  have hsettings : InEffect repeatedSurroundings {} a {} :=
    ⟨by rintro p ⟨⟩, {}, by decide +kernel, by decide +kernel⟩
  obtain ⟨l, hload, -⟩ : ∃ l, Loading.run repeatedSurroundings.files repeatedSurroundings.directory
      (framesOf a) repeatedSurroundings.input (inputsOf a) = .ok l ∧ l.reports = repeatedReports
      ∧ l.code = none := Loading.result_eq_ok_iff.mp (by decide +kernel)
  obtain ⟨xs, envelopes, texts, hxs, hstdout, hread, hannounces, -⟩ :=
    payload_envelopes hrun hsettings rfl hload
  exact ⟨a, l, xs, envelopes, texts, hrun, hsettings, hload, hxs, hstdout, hread, hannounces⟩

/-- The two documents get an envelope each, both for the same checker. A client that replaces the first by
the second shows one entry, although two diagnostics are selected. -/
theorem payload_envelopes_repeated :
  ∃ a l,
    Emits repeatedSurroundings (.command .payload) ["--no-frames", "a.json", "b.json"] {} a
    ∧ InEffect repeatedSurroundings {} a {}
    ∧ Loading.run repeatedSurroundings.files repeatedSurroundings.directory (framesOf a)
      repeatedSurroundings.input (inputsOf a) = .ok l
    ∧ (run repeatedSurroundings (.command .payload) ["--no-frames", "a.json", "b.json"]).stdout
      = "\x7b\"event\": \"checkrelay:error\", \"data\": \x7b\"checkerId\": \"lint\", \"diagnostics\": [" ++
        "\x7b\"message\": \"one\", \"stack\": \"\", \"checkerId\": \"lint\", \"level\": 1\x7d]\x7d\x7d\n" ++
        "\x7b\"event\": \"checkrelay:error\", \"data\": \x7b\"checkerId\": \"lint\", \"diagnostics\": [" ++
        "\x7b\"message\": \"two\", \"stack\": \"\", \"checkerId\": \"lint\", \"level\": 1\x7d]\x7d\x7d\n"
    ∧ ¬ ((envelopesOf Level.all l.reports).map Prod.fst).Nodup
    ∧ (Shown.after (envelopesOf Level.all l.reports) "lint").map List.length = some 1
    ∧ (entriesOf Level.all "lint" (l.reports.flatMap Report.diagnostics)).length = 2
  := by
  let a : Arguments := { uses := [{ key := .frames, on := false }], rest := ["a.json", "b.json"] }
  have hrun : Emits repeatedSurroundings (.command .payload) ["--no-frames", "a.json", "b.json"] {} a :=
    .alone (by decide +kernel)
  have hsettings : InEffect repeatedSurroundings {} a {} :=
    ⟨by rintro p ⟨⟩, {}, by decide +kernel, by decide +kernel⟩
  obtain ⟨l, hload, hreports, -⟩ : ∃ l, Loading.run repeatedSurroundings.files
      repeatedSurroundings.directory (framesOf a) repeatedSurroundings.input (inputsOf a) = .ok l
      ∧ l.reports = repeatedReports ∧ l.code = none := Loading.result_eq_ok_iff.mp (by decide +kernel)
  use a, l, hrun, hsettings, hload
  rw [(hrun.of_loading hsettings rfl hload).1, hreports]
  and_intros
  · decide +kernel
  · decide +kernel
  · rfl
  · decide +kernel

end Program

end Diagnostics.CommandLine
