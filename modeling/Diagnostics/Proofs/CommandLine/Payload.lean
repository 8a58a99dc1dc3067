import Diagnostics.Proofs.Ansi.Sequences
import Diagnostics.Proofs.CommandLine.Colors
import Diagnostics.Proofs.Json.Ascii
import Diagnostics.Proofs.Payload.RoundTrip

/-!
# What the payload command prints

`Emits` says that a run of the program gets to the payload command. The command prints the
envelope of each report as one line of printable ASCII, whatever the texts in it are, and
nothing that decides on colours has a part in it (`Program.run_payload`).
-/

namespace Diagnostics

open Text

/-! ### Envelopes in ASCII -/

namespace Json.Layout.Fills

variable {layout : Layout} {c : Char}

/-- In the compact layout there are no line ends. -/
theorem isGraphic (h : Fills .compact c) :
  IsGraphic c
  := by
  cases h with
  | graphic h => apply h

/-- In no layout there is an escape character. -/
theorem ne_esc (h : layout.Fills c) :
  c ≠ Ansi.esc
  := by
  cases h with
  | graphic h =>
    rintro rfl
    revert h
    decide
  | lineEnd => decide

end Json.Layout.Fills

namespace Payload

/-- An envelope has no doubles and repeats no key. -/
theorem regular_envelope (levels : List Level) (checker : RawText) (ds : List Diagnostic) :
  (envelope levels checker ds).normal.Regular
  := by
  rw [envelope, normal_wrap]
  apply (told_envelope levels checker ds).regular

/-- The JSON text of an envelope is made of the characters of its layout. -/
theorem fills_serialize (layout : Json.Layout) (levels : List Level) (checker : RawText)
    (ds : List Diagnostic) :
  ∀ c ∈ (serialize layout (envelope levels checker ds)).toList, layout.Fills c
  := Json.fills_print layout (regular_envelope levels checker ds)

/-- Stripping leaves the JSON text of an envelope alone. -/
theorem strip_serialize (r : Ansi.Remover) (layout : Json.Layout) (levels : List Level) (checker : RawText)
    (ds : List Diagnostic) :
  r.strip (serialize layout (envelope levels checker ds)) = serialize layout (envelope levels checker ds)
  := by
  apply r.strip_of_notMem
  intro hesc
  apply (fills_serialize layout levels checker ds _ hesc).ne_esc rfl

end Payload

namespace CommandLine

variable {w : Surroundings} {e : Program.Entry} {args : List String} {s : State} {a : Arguments}
  {settings : Settings} {l : Loading}

/-! ### The command -/

/-- A run gets to the payload command, with the state `s` and the arguments `a` of the command. -/
inductive Emits (w : Surroundings) : Program.Entry → List String → State → Arguments → Prop
  /-- The command is run alone. -/
  | alone {args : List String} {a : Arguments} (ha : readArguments w .payload args = .ok a) :
      Emits w (.command .payload) args {} a
  /-- The program is told to run it. -/
  | whole {args rest : List String} {g a : Arguments} {s : State}
      (hg : readArguments w .program args = .ok g) (hrest : g.rest = "payload" :: rest)
      (hs : Program.start w g = .ok s) (ha : readArguments w .payload rest = .ok a) :
      Emits w .whole args s a

/-- The lines that the command prints, one for each report. -/
def payloadLines (layout : Json.Layout) (levels : List Level) (rs : List Report) : List String :=
  rs.map fun r => Payload.serialize layout (r.payload levels)

/-- A console without colours prints payloads as they are. -/
theorem stdout_printPayloads (r : Ansi.Remover) (h : s.console = some { colored := false, remover := r })
    (layout : Json.Layout) :
  (printPayloads settings s layout l).stdout
    = String.join ((payloadLines layout settings.levels l.reports).map (· ++ "\n"))
  := by
  have hline : ∀ r : Report, s.consoleOrDefault.line (Payload.serialize layout (r.payload settings.levels))
      = Payload.serialize layout (r.payload settings.levels) ++ "\n" := by
    intro r
    rw [State.consoleOrDefault, h, Console.line]
    simp [Console.display, Report.payload, Payload.strip_serialize]
  simp [Outcome.stdout, joinTexts_empty, printPayloads, payloadLines, hline, Function.comp_def]

section Library

variable [Toml.Library]

namespace Emits

/-- The run is that of the command. -/
theorem run_eq (h : Emits w e args s a) :
  Program.run w e args = runPayload w s a
  := by
  cases h with
  | alone ha => simp only [Program.run, MainCommand.run, MainCommand.runDescribed, ha]
  | whole hg hrest hs ha =>
    have hname : MainCommand.ofName? "payload" = some .payload := by decide
    simp only [Program.run, Program.runWhole, hg, hrest, hname, hs, MainCommand.run,
      MainCommand.runDescribed, ha]

/-- With settings that ask for payloads, and inputs that can be loaded, the command prints the payload lines
and exits with the code of the first input that failed. -/
theorem of_loading (hrun : Emits w e args s a) (hsettings : InEffect w s a settings)
    (hoverlay : settings.overlay = true)
    (hload : Loading.run w.files w.directory (framesOf a) w.input (inputsOf a) = .ok l) :
  (Program.run w e args).stdout
      = String.join ((payloadLines (layoutOf a) settings.levels l.reports).map (· ++ "\n"))
    ∧ (Program.run w e args).ending = .exit (l.code.getD .success)
  := by
  let s' : State := { s with console := some { colored := false, remover := w.remover } }
  obtain ⟨notices, hnotices, hpayload⟩ := withSettings_eq hsettings (some "json") fun settings s =>
    if settings.overlay then withReports w s a (printPayloads settings s (layoutOf a))
    else { outputs := [s.logged ⟨Log.info, "Overlay disabled; no payloads emitted"⟩] }
  obtain ⟨events, hevents, hprint⟩ := withReports_eq (s := s') hload (printPayloads settings s' (layoutOf a))
  have hmachine : ColorMode.isColored (some settings.color) (some "json") w.environment w.outputTerminal
      = false := by
    have hformat : ColorMode.isMachineFormat (some "json") = true := by decide
    simp [ColorMode.isColored, hformat]
  have hrun' : Program.run w e args
      = ((printPayloads settings s' (layoutOf a) l).after events).after notices := by
    rw [hrun.run_eq, runPayload, hpayload, hmachine, if_pos hoverlay, hprint]
  rw [hrun', Outcome.stdout_after hnotices, Outcome.stdout_after hevents]
  constructor
  · apply stdout_printPayloads w.remover rfl
  · rfl

end Emits

/-- With settings that ask for payloads, inputs that can be loaded and no indentation, the payload command
prints one line for each report, in the order of loading. Whatever the texts in the reports are, each
line is made of printable ASCII, so that none is broken up. The exit code is that of the first input
that failed, else zero. A run that differs in colours alone prints the same and ends in the same way. -/
theorem Program.run_payload (hrun : Emits w e args s a) (hsettings : InEffect w s a settings)
    (hoverlay : settings.overlay = true) (hindent : lastValue? a .indent = none)
    (hload : Loading.run w.files w.directory (framesOf a) w.input (inputsOf a) = .ok l) :
  (run w e args).stdout
      = String.join ((payloadLines .compact settings.levels l.reports).map (· ++ "\n"))
    ∧ (∀ line ∈ payloadLines .compact settings.levels l.reports, ∀ c ∈ line.toList, IsGraphic c)
    ∧ (run w e args).ending = .exit (l.code.getD .success)
    ∧ ∀ {w' e' args' s' a'}, Emits w' e' args' s' a' → SameButColors w w' a a' →
      (run w' e' args').stdout = (run w e args).stdout
        ∧ (run w' e' args').ending = (run w e args).ending
  := by
  have hcompact : layoutOf a = .compact := by rw [layoutOf, hindent]; rfl
  obtain ⟨hstdout, hending⟩ := hrun.of_loading hsettings hoverlay hload
  and_intros
  · rw [hstdout, hcompact]
  · intro line hline c hc
    obtain ⟨r, -, rfl⟩ := List.mem_map.mp hline
    exact (Payload.fills_serialize .compact settings.levels r.checker r.diagnostics c hc).isGraphic
  · apply hending
  · intro w' e' args' s' a' hrun' hsame
    obtain ⟨settings', hsettings', hlevels, -, hoverlay'⟩ := hsettings.of_sameButColors hsame s'
    obtain ⟨l', hload', hreports, hcode⟩ := hsame.exists_run_eq hload
    rw [hoverlay] at hoverlay'
    obtain ⟨hstdout', hending'⟩ := hrun'.of_loading hsettings' hoverlay' hload'
    have hlayout : layoutOf a' = layoutOf a := by rw [layoutOf, layoutOf, hsame.indent]
    rw [hstdout', hstdout, hending', hending, hlayout, hlevels, hreports, hcode]
    exact ⟨rfl, rfl⟩

end Library

namespace Program

open Toml.Standard

/-- The message that breaks off within a control sequence is printed with the escape character spelled out,
and a run that is told in several ways to use no colours prints the same. -/
theorem run_payload_recolored :
  ∃ (a : Arguments) (settings : Settings) (l : Loading),
    Emits colorfulSurroundings (.command .payload) ["lint.json"] {} a
    ∧ InEffect colorfulSurroundings {} a settings ∧ settings.overlay = true ∧ settings.color = .always
    ∧ lastValue? a .indent = none
    ∧ Loading.run colorfulSurroundings.files colorfulSurroundings.directory (framesOf a)
      colorfulSurroundings.input (inputsOf a) = .ok l
    ∧ (run colorfulSurroundings (.command .payload) ["lint.json"]).stdout
      = "\x7b\"event\": \"checkrelay:error\", \"data\": \x7b\"checkerId\": \"lint\", \"diagnostics\": [" ++
        "\x7b\"message\": \"\\u001b[\", \"stack\": \"\", \"checkerId\": \"lint\", \"level\": 1\x7d]\x7d\x7d\n"
    ∧ (run { plainSurroundings with environment := { entries := [("NO_COLOR", "")] } } .whole
        ["--no-color", "payload", "lint.json"]).stdout
      = (run colorfulSurroundings (.command .payload) ["lint.json"]).stdout
  := by
  let a : Arguments := { uses := [], rest := ["lint.json"] }
  let settings : Settings := { color := .always, files := [.ofRoot ["work", "checkrelay.toml"]] }
  let w' : Surroundings := { plainSurroundings with environment := { entries := [("NO_COLOR", "")] } }
  let r : Report :=
    { checker := "lint", diagnostics := [{ checker := "lint", level := some .error, message := some "\x1b[" }] }
  have hrun : Emits colorfulSurroundings (.command .payload) ["lint.json"] {} a := .alone (by decide +kernel)
  have hsettings : InEffect colorfulSurroundings {} a settings :=
    ⟨by rintro p ⟨⟩, settings, by decide +kernel, by decide +kernel⟩
  obtain ⟨l, hload, hreports, -⟩ : ∃ l, Loading.run colorfulSurroundings.files
      colorfulSurroundings.directory (framesOf a) colorfulSurroundings.input (inputsOf a) = .ok l
      ∧ l.reports = [r] ∧ l.code = none := Loading.result_eq_ok_iff.mp (by decide +kernel)
  obtain ⟨s', hstart⟩ : ∃ s', start w' { uses := [{ key := .noColor }], rest := ["payload", "lint.json"] } = .ok s' :=
    Except.exists_eq_ok_of_toBool (by decide +kernel)
  have hrun' : Emits w' .whole ["--no-color", "payload", "lint.json"] s' a :=
    .whole (by decide +kernel) rfl hstart (by decide +kernel)
  have hsame : SameButColors colorfulSurroundings w' a a :=
    { directory := rfl
      files := recolors_plainSurroundings
      inputs := by decide +kernel
      config := rfl
      levels := rfl
      terminal := rfl
      overlay := rfl
      indent := rfl }
  obtain ⟨hstdout, -, -, hother⟩ := run_payload hrun hsettings rfl rfl hload
  use a, settings, l, hrun, hsettings, rfl, rfl, rfl, hload
  constructor
  · rw [hstdout, hreports]
    decide +kernel
  · apply (hother hrun' hsame).1

end Program

end CommandLine

end Diagnostics
