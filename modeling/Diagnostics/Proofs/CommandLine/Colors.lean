import Diagnostics.Proofs.Ansi.Lines
import Diagnostics.Proofs.CommandLine.Report
import Diagnostics.Proofs.Settings.Recolor

/-!
# Reports with colours and without

`SameButColors` relates two runs that may differ in everything that decides on colours: the
switches of the program, the colour mode of the configuration, the environment and the
terminals. Such runs take the same settings but for the colour mode
(`InEffect.of_sameButColors`). When one report is coloured and the other is not, the
second is the first with the control sequences stripped from all of it
(`Program.run_report_uncolored`).
-/

namespace Diagnostics.CommandLine

variable {w w' : Surroundings} {e e' : Program.Entry} {args args' : List String} {quiet : Bool}
  {s s' : State} {a a' : Arguments}

section Library

variable [Toml.Library]

/-! ### Runs that differ in colours -/

/-- The runs differ in what decides on colours, and otherwise in nothing that reaches standard output: the
configuration in their files may set another colour mode, the inputs are loaded to the same reports and
exit code, and the switches of the command are the same. -/
structure SameButColors (w w' : Surroundings) (a a' : Arguments) : Prop where
  directory : w'.directory = w.directory
  files : w.files.Recolors w'.files
  inputs : Loading.result (Loading.run w'.files w'.directory (framesOf a') w'.input (inputsOf a'))
    = Loading.result (Loading.run w.files w.directory (framesOf a) w.input (inputsOf a))
  config : lastValue? a' .config = lastValue? a .config
  levels : a'.values .level = a.values .level
  terminal : (a'.last? .terminal).map Use.on = (a.last? .terminal).map Use.on
  overlay : (a'.last? .overlay).map Use.on = (a.last? .overlay).map Use.on
  indent : lastValue? a' .indent = lastValue? a .indent

namespace SameButColors

/-- The settings are loaded from the same place. -/
theorem originOf_eq (h : SameButColors w w' a a') :
  originOf w' a' = originOf w a
  := by
  rw [originOf, originOf, h.config, h.directory]

/-- The inputs are loaded when they are in the other run. -/
theorem exists_run_eq (h : SameButColors w w' a a') {l : Loading}
    (hload : Loading.run w.files w.directory (framesOf a) w.input (inputsOf a) = .ok l) :
  ∃ l', Loading.run w'.files w'.directory (framesOf a') w'.input (inputsOf a') = .ok l'
    ∧ l'.reports = l.reports ∧ l'.code = l.code
  := by
  apply Loading.result_eq_ok_iff.mp
  rw [h.inputs]
  apply Loading.result_eq_ok_iff.mpr
  use l

end SameButColors

/-- Runs that differ in colours take the same settings but for the colour mode. -/
theorem InEffect.of_sameButColors {settings : Settings} (h : InEffect w s a settings)
    (hsame : SameButColors w w' a a') (s' : State) :
  ∃ settings', InEffect w' s' a' settings' ∧ settings'.levels = settings.levels
    ∧ settings'.terminal = settings.terminal ∧ settings'.overlay = settings.overlay
  := by
  obtain ⟨there, base, hbase, rfl⟩ := h
  have hload : (Settings.load w'.files w'.directory (originOf w' a')).map Settings.uncolored
      = .ok base.uncolored := by
    rw [hsame.directory, hsame.originOf_eq, hsame.files.load, hbase]
    rfl
  obtain ⟨base', hbase', huncolored⟩ := Except.map_eq_ok_iff.mp hload
  use base'.apply (sourceOf s' a')
  constructor
  · constructor
    · intro p hp
      rw [hsame.directory, hsame.files.isFile]
      apply there p
      rw [← hp, hsame.originOf_eq]
    · use base'
  · have hsource : (sourceOf s' a').uncolored = (sourceOf s a).uncolored := by
      simp only [sourceOf, Source.uncolored, hsame.levels, hsame.terminal, hsame.overlay]
    have hsettings : (base'.apply (sourceOf s' a')).uncolored = (base.apply (sourceOf s a)).uncolored := by
      rw [Settings.uncolored_apply, Settings.uncolored_apply, huncolored, hsource]
    obtain ⟨hlevels, -, hterminal, hoverlay, -⟩ := Settings.mk.inj hsettings
    use hlevels, hterminal

/-- The settings that a command takes are settled by the run. -/
theorem InEffect.unique {settings settings' : Settings} (h : InEffect w s a settings)
    (h' : InEffect w s a settings') :
  settings' = settings
  := by
  obtain ⟨-, base, hbase, rfl⟩ := h
  obtain ⟨-, base', hbase', rfl⟩ := h'
  rw [hbase] at hbase'
  cases hbase'
  rfl

/-! ### Runs that come to an end -/

/-- The configuration file that the command line names is not there. -/
def LacksConfig (w : Surroundings) (a : Arguments) : Prop :=
  ∃ p, originOf w a = .file p ∧ w.files.isFile w.directory p = .ok false

/-- Runs that differ in colours lack the same configuration file. -/
theorem LacksConfig.of_sameButColors (h : LacksConfig w a) (hsame : SameButColors w w' a a') :
  LacksConfig w' a'
  := by
  obtain ⟨p, horigin, hfile⟩ := h
  use p
  rw [hsame.originOf_eq, hsame.directory, hsame.files.isFile]
  use horigin

/-- The report command that lacks its configuration file prints nothing to standard output and exits with an
error about the configuration. -/
theorem runReport_of_lacksConfig (h : LacksConfig w a) (s : State) :
  (runReport w s a).stdout = "" ∧ (runReport w s a).ending = .exit .badConfig
  := by
  obtain ⟨p, horigin, hfile⟩ := h
  simp only [runReport, withSettings, horigin, hfile]
  exact ⟨rfl, rfl⟩

/-- A command that comes to an exit lacks its configuration file, or it takes settings. -/
theorem of_withSettings_exit {format : Option String} {next : Settings → State → Outcome} {c : ExitCode}
    (h : (withSettings w s format a next).ending = .exit c) :
  LacksConfig w a ∨ ∃ settings, InEffect w s a settings
  := by
  -- Once a file that is named is there, the settings must have been loaded.
  have htakes : (∀ p, originOf w a = .file p → w.files.isFile w.directory p = .ok true) →
      (∀ f, Settings.load w.files w.directory (originOf w a) ≠ .error f) →
      ∃ settings, InEffect w s a settings := by
    intro hthere hne
    cases hload : Settings.load w.files w.directory (originOf w a) with
    | error f => exact absurd hload (hne f)
    | ok base => exact ⟨_, hthere, base, hload, rfl⟩
  unfold withSettings at h
  dsimp only at h
  split at h
  · next start horigin =>
    right
    apply htakes
    · simp [horigin]
    · intro f hf
      simp only [hf] at h
      contradiction
  · next p horigin =>
    split at h
    · contradiction
    · next hfile =>
      right
      apply htakes
      · intro p' hp'
        rw [horigin] at hp'
        cases hp'
        apply hfile
      · intro f hf
        simp only [hf] at h
        contradiction
    · next hfile => exact .inl ⟨p, horigin, hfile⟩

/-- The report command that comes to an exit lacks its configuration file, or it takes settings and the
inputs are loaded. -/
theorem of_runReport_exit {c : ExitCode} (h : (runReport w s a).ending = .exit c) :
  LacksConfig w a ∨ ∃ settings l, InEffect w s a settings
    ∧ Loading.run w.files w.directory (framesOf a) w.input (inputsOf a) = .ok l
  := by
  obtain hlacks | ⟨settings, hsettings⟩ := of_withSettings_exit h
  · exact .inl hlacks
  · right
    obtain ⟨outputs, -, hreport⟩ :=
      withSettings_eq hsettings none fun settings s => withReports w s a (printReports settings s)
    rw [runReport, hreport] at h
    cases hload : Loading.run w.files w.directory (framesOf a) w.input (inputsOf a) with
    | error b =>
      rw [withReports, hload] at h
      contradiction
    | ok l => use settings, l, hsettings

/-! ### The command -/

/-- The run is coloured or not, once it has settings. -/
def ColorsAre (w : Surroundings) (s : State) (a : Arguments) (on : Bool) : Prop :=
  ∀ settings, InEffect w s a settings →
    ColorMode.isColored (some settings.color) none w.environment w.outputTerminal = on

/-- The colours are settled by the settings. -/
theorem InEffect.colorsAre {settings : Settings} (h : InEffect w s a settings) {on : Bool}
    (hcolor : ColorMode.isColored (some settings.color) none w.environment w.outputTerminal = on) :
  ColorsAre w s a on
  := by
  intro settings' hsettings'
  rwa [h.unique hsettings']

/-- When a report that comes to an exit is run with colours and again without, the second run prints what
the first prints with the control sequences stripped from all of it, in whatever way consoles strip them, and
it exits in the same way. -/
theorem Program.run_report_uncolored {c : ExitCode} (hrun : Invokes w e args quiet s a)
    (hrun' : Invokes w' e' args' quiet s' a') (hsame : SameButColors w w' a a')
    (hcolored : ColorsAre w s a true) (huncolored : ColorsAre w' s' a' false)
    (hexit : (run w e args).ending = .exit c) :
  (run w' e' args').stdout = w'.remover.strip (run w e args).stdout ∧ (run w' e' args').ending = .exit c
  := by
  have hreport := hrun.run_eq ▸ hexit
  obtain hlacks | ⟨settings, l, hsettings, hload⟩ := of_runReport_exit hreport
  · obtain ⟨hstdout, hending⟩ := runReport_of_lacksConfig hlacks s
    obtain ⟨hstdout', hending'⟩ := runReport_of_lacksConfig (hlacks.of_sameButColors hsame) s'
    rw [← hexit, hrun.run_eq, hrun'.run_eq, hstdout, hending, hstdout', hending']
    exact ⟨(w'.remover.strip_of_notMem (by decide)).symm, rfl⟩
  · obtain ⟨settings', hsettings', hlevels, hterminal, -⟩ := hsettings.of_sameButColors hsame s'
    obtain ⟨l', hload', hreports, hcode⟩ := hsame.exists_run_eq hload
    constructor
    · have htexts : printedTexts quiet settings' l' = printedTexts quiet settings l := by
        rw [printedTexts, printedTexts, hreports, hlevels, hterminal]
      rw [hrun'.stdout_eq hsettings' hload', hrun.stdout_eq hsettings hload, join_names_printTasks,
        join_names_printTasks, htexts, consoleOf, consoleOf, huncolored settings' hsettings',
        hcolored settings hsettings]
      symm
      apply w'.remover.strip_join_lines
    · have herrors : hasErrors settings' = hasErrors settings := by
        funext r
        rw [hasErrors, hasErrors, hlevels]
      rw [← hexit, hrun'.ending_eq hsettings' hload', hrun.ending_eq hsettings hload, hreports, hcode,
        herrors]

end Library

namespace Program

open Toml.Standard

/-- A directory with a configuration that asks for colours, and a document whose message breaks off within
a control sequence. -/
def colorfulSurroundings : Surroundings where
  files := .ofEntries
    [(["work", "checkrelay.toml"], .file "color = \"always\"".toUTF8.toList),
     (["work", "lint.json"], .file "[\x7b\"level\": 1, \"message\": \"\\u001b[\"\x7d]".toUTF8.toList)]
  directory := ["work"]

/-- The same directory with a configuration that asks for no colours, and consoles that strip only sequences
which end in a letter. -/
def plainSurroundings : Surroundings :=
  { colorfulSurroundings with
    files := colorfulSurroundings.files.rewrite ["work", "checkrelay.toml"]
      "color = \"never\"".toUTF8.toList
    remover := .letters }

/-- The two directories differ in the colour mode alone. -/
theorem recolors_plainSurroundings :
  colorfulSurroundings.files.Recolors plainSurroundings.files
  := by
  have hentry : colorfulSurroundings.files.entry? ["work", "checkrelay.toml"]
      = some (.file "color = \"always\"".toUTF8.toList) := rfl
  apply FileTree.recolors_rewrite_of_saysColorOnly hentry
  · decide +kernel
  · decide +kernel

/-- The report on the document is printed with colours and without. -/
theorem run_report_uncolored_recolored :
  ∃ a, Invokes colorfulSurroundings (.command .report) ["lint.json"] false {} a
    ∧ Invokes plainSurroundings (.command .report) ["lint.json"] false {} a
    ∧ SameButColors colorfulSurroundings plainSurroundings a a
    ∧ ColorsAre colorfulSurroundings {} a true ∧ ColorsAre plainSurroundings {} a false
    ∧ (run plainSurroundings (.command .report) ["lint.json"]).stdout
      = Ansi.Remover.letters.strip (run colorfulSurroundings (.command .report) ["lint.json"]).stdout
    ∧ (run plainSurroundings (.command .report) ["lint.json"]).ending = .exit .failure
  := by
  let a : Arguments := { uses := [], rest := ["lint.json"] }
  let config : Path := .ofRoot ["work", "checkrelay.toml"]
  have hrun : Invokes colorfulSurroundings (.command .report) ["lint.json"] false {} a :=
    .alone (by decide +kernel)
  have hrun' : Invokes plainSurroundings (.command .report) ["lint.json"] false {} a :=
    .alone (by decide +kernel)
  have hsame : SameButColors colorfulSurroundings plainSurroundings a a :=
    { directory := rfl
      files := recolors_plainSurroundings
      inputs := by decide +kernel
      config := rfl
      levels := rfl
      terminal := rfl
      overlay := rfl
      indent := rfl }
  have hsettings : InEffect colorfulSurroundings {} a { color := .always, files := [config] } :=
    ⟨by rintro p ⟨⟩, { color := .always, files := [config] }, by decide +kernel, by decide +kernel⟩
  have hsettings' : InEffect plainSurroundings {} a { color := .never, files := [config] } :=
    ⟨by rintro p ⟨⟩, { color := .never, files := [config] }, by decide +kernel, by decide +kernel⟩
  have hcolored : ColorsAre colorfulSurroundings {} a true := hsettings.colorsAre rfl
  have huncolored : ColorsAre plainSurroundings {} a false := hsettings'.colorsAre rfl
  use a, hrun, hrun', hsame, hcolored, huncolored
  apply run_report_uncolored hrun hrun' hsame hcolored huncolored
  decide +kernel

end Program

end Diagnostics.CommandLine
