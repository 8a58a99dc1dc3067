import Diagnostics.CommandLine.Run
import Diagnostics.Proofs.Input.Outcomes
import Diagnostics.Proofs.Report.Views
import Diagnostics.Proofs.Reporting.Worker
import Diagnostics.Toml.Standard

/-!
# What the report command prints

`Invokes` says that a run of the program gets to the report command, and `InEffect` which
settings the command takes. If loading the inputs returns, standard output is made of one
text for each report, except that a text with a lone half of a surrogate pair is lost, and the
exit code is settled by the outcomes of the inputs and the wanted levels
(`Program.run_report`).
-/

namespace Diagnostics

open Text

/-- Texts with nothing between them. -/
theorem Text.joinTexts_empty (texts : List String) :
  joinTexts "" texts = String.join texts
  := by
  induction texts with
  | nil => rfl
  | cons text texts ih =>
    rw [String.join_cons, ← ih]
    cases texts with
    | nil => simp [joinTexts, join]
    | cons next texts => simp [joinTexts, join, String.ofList_append]

namespace CommandLine

/-! ### Standard output -/

namespace Outcome

/-- Output on the error stream leaves standard output as it is. -/
theorem stdout_after {outputs : List Output} (h : ∀ x ∈ outputs, ∃ text, x = .err text) (o : Outcome) :
  (o.after outputs).stdout = o.stdout
  := by
  simp only [stdout, after, joinTexts_empty]
  induction outputs with
  | nil => rfl
  | cons x outputs ih =>
    obtain ⟨⟨text, rfl⟩, hrest⟩ := List.forall_mem_cons.mp h
    simpa using ih hrest

/-- Output in front of output in front. -/
theorem after_after (o : Outcome) (outputs outputs' : List Output) :
  (o.after outputs).after outputs' = o.after (outputs' ++ outputs)
  := by
  simp [after]

end Outcome

/-- A text is written as a line, and of one that is torn nothing is written. -/
theorem name_printTask (c : Console) (text : RawText) :
  (printTask c text).name = (text.whole?.map c.line).getD ""
  := by
  rw [printTask, Console.rawLine, RawText.whole?]
  cases text.whole <;> rfl

/-- Printing texts schedules nothing. -/
theorem isFlat_printTasks (c : Console) (texts : List RawText) :
  Background.IsFlat (texts.map (printTask c))
  := by
  intro t ht
  obtain ⟨text, -, rfl⟩ := List.mem_map.mp ht
  unfold printTask
  split <;> rfl

/-- What is written of some texts are the lines of those that are not torn. -/
theorem join_names_printTasks (c : Console) (texts : List RawText) :
  String.join ((texts.map (printTask c)).map Task.name) = String.join ((texts.filterMap RawText.whole?).map c.line)
  := by
  induction texts with
  | nil => rfl
  | cons text texts ih =>
    rw [List.map_cons, List.map_cons, String.join_cons, ih, name_printTask, List.filterMap_cons]
    cases text.whole? <;> simp

/-! ### Getting to the command -/

variable {w : Surroundings} {e : Program.Entry} {args : List String} {quiet : Bool} {s : State}
  {a : Arguments}

/-- A run gets to the report command, with the state `s` and the arguments `a` of the command; `quiet`
says that the program was told to be quiet. -/
inductive Invokes (w : Surroundings) : Program.Entry → List String → Bool → State → Arguments → Prop
  /-- The command is run alone. -/
  | alone {args : List String} {a : Arguments} (ha : readArguments w .report args = .ok a) :
      Invokes w (.command .report) args false {} a
  /-- The program is told to run it. -/
  | whole {args rest : List String} {g a : Arguments} {s : State}
      (hg : readArguments w .program args = .ok g) (hrest : g.rest = "report" :: rest)
      (hs : Program.start w g = .ok s) (ha : readArguments w .report rest = .ok a) :
      Invokes w .whole args (g.has .quiet) s a

/-- The verbosity of the commands is the one that the switches of the program ask for. -/
theorem Program.verbosity_of_start {g : Arguments} (h : start w g = .ok s) :
  verbosity (g.count .verbose) (g.count .quiet) = .ok s.verbosity
  := by
  unfold start at h
  split at h
  · contradiction
  · next hverbosity =>
    split at h
    · contradiction
    · dsimp only at h
      split at h
      · contradiction
      · cases h
        apply hverbosity

/-- The command is quiet exactly when the program was told to be. -/
theorem Invokes.quiet_iff (h : Invokes w e args quiet s a) :
  quiet = true ↔ s.verbosity < 0
  := by
  cases h with
  | alone ha => decide
  | @whole args rest g a s hg hrest hs ha =>
    have hcount : g.has .quiet = true ↔ 0 < g.count .quiet := by
      simp [Arguments.has, Arguments.count, List.countP_pos_iff]
    have hverbosity := Program.verbosity_of_start hs
    rw [hcount]
    unfold verbosity at hverbosity
    split at hverbosity
    · contradiction
    · split at hverbosity
      · have := Except.ok.inj hverbosity
        omega
      · have := Except.ok.inj hverbosity
        omega

/-- The console of the command, which follows the settings. -/
def consoleOf (w : Surroundings) (settings : Settings) : Console :=
  { colored := ColorMode.isColored (some settings.color) none w.environment w.outputTerminal
    remover := w.remover }

/-- The state of the command with its console. -/
def State.following (s : State) (w : Surroundings) (settings : Settings) : State :=
  { s with console := some (consoleOf w settings) }

/-- With inputs that can be loaded, a command goes on with their reports after what is written about
them. -/
theorem withReports_eq {l : Loading}
    (h : Loading.run w.files w.directory (framesOf a) w.input (inputsOf a) = .ok l)
    (next : Loading → Outcome) :
  ∃ outputs, (∀ x ∈ outputs, ∃ text, x = .err text) ∧ withReports w s a next = (next l).after outputs
  := by
  use l.events.map (loadOutput s)
  constructor
  · intro x hx
    obtain ⟨event, -, rfl⟩ := List.mem_map.mp hx
    cases event with
    | notice n => exact ⟨_, rfl⟩
    | problem text => exact ⟨_, rfl⟩
  · simp only [withReports, h]

/-! ### Texts and exit code -/

/-- The texts that the command prints, one for each report: in full or the summary line alone, and none
when it is quiet. -/
def printedTexts (quiet : Bool) (settings : Settings) (l : Loading) : List RawText :=
  if quiet then []
  else l.reports.map fun r => if settings.terminal then r.render settings.levels else r.summary settings.levels

/-- What tasks write to standard output when they are run. -/
theorem stdout_taskOutput (s : State) (tasks : List Task) (ending : Ending) :
  Outcome.stdout { outputs := (tasks.flatMap Deferred.eventsOf).map s.taskOutput, ending }
    = String.join (tasks.map Task.name)
  := by
  rw [Outcome.stdout, joinTexts_empty]
  induction tasks with
  | nil => rfl
  | cons t tasks ih =>
    rw [List.map_cons, String.join_cons, ← ih]
    cases hfailure : t.failure <;>
      simp [Deferred.eventsOf, State.taskOutput, State.logged, hfailure]

/-- What printing reports writes to standard output. -/
theorem stdout_printReports (settings : Settings) (s : State) (l : Loading) :
  (printReports settings s l).stdout
    = String.join (((if s.verbosity < 0 then [] else l.reports.map (reportText settings)).map
      (printTask s.consoleOrDefault)).map Task.name)
  := by
  rw [printReports, ← stdout_taskOutput, ← Deferred.run_flat (isFlat_printTasks _ _), List.map_map]
  rfl

/-- A report makes the command fail when errors are wanted and one of its diagnostics is an error. -/
theorem hasErrors_iff {settings : Settings} {r : Report} :
  hasErrors settings r = true ↔ .error ∈ settings.levels ∧ ∃ d ∈ r.diagnostics, d.level = some .error
  := by
  have hcount : (r.stats settings.levels).errors
      = (r.select settings.levels).countP fun d => d.level = some .error :=
    r.number_stats settings.levels .error
  rw [hasErrors, decide_eq_true_iff, hcount, List.countP_pos_iff]
  simp only [Report.select, Diagnostic.select, List.mem_filter, Diagnostic.isSelected_iff, decide_eq_true_iff]
  constructor
  · rintro ⟨d, ⟨hd, l, hl, hlevel⟩, herror⟩
    obtain rfl := Option.some.inj (hlevel.symm.trans herror)
    exact ⟨hl, d, hd, herror⟩
  · rintro ⟨hwanted, d, hd, herror⟩
    exact ⟨d, ⟨hd, .error, hwanted, herror⟩, herror⟩

/-- The number of the exit code for the outcomes of the inputs: that of the first failure, else one when
errors are wanted and a diagnostic is an error. -/
def exitNumber (levels : List Level) (os : List Loaded) : Nat :=
  match os.findSome? Loaded.fault? with
  | some f => f.exitNumber
  | none =>
    if .error ∈ levels ∧ ∃ r ∈ os.flatMap Loaded.reportList, ∃ d ∈ r.diagnostics, d.level = some .error then 1
    else 0

/-- The exit code of printing reports depends on the outcomes of the inputs and the wanted levels. -/
theorem number_printReports {settings : Settings} {l : Loading} {os : List Loaded}
    (hreports : l.reports = os.flatMap Loaded.reportList)
    (hcode : l.code = (os.findSome? Loaded.fault?).map InputFault.code) :
  (l.code.getD (if l.reports.any (hasErrors settings) then .failure else .success)).number
    = exitNumber settings.levels os
  := by
  have hany : l.reports.any (hasErrors settings) = true
      ↔ .error ∈ settings.levels ∧ ∃ r ∈ os.flatMap Loaded.reportList, ∃ d ∈ r.diagnostics,
        d.level = some .error := by
    rw [List.any_eq_true, ← hreports]
    simp only [hasErrors_iff]
    constructor
    · rintro ⟨r, hr, hwanted, herror⟩
      exact ⟨hwanted, r, hr, herror⟩
    · rintro ⟨hwanted, r, hr, herror⟩
      exact ⟨r, hr, hwanted, herror⟩
  rw [hcode, exitNumber]
  cases os.findSome? Loaded.fault? with
  | some f => apply f.number_code
  | none =>
    simp only [Option.map_none, Option.getD_none, hany]
    split <;> rfl

/-- Two runs of the command do the same work: on the same files and with the same inputs, levels,
configuration file and frames. They may differ in whether they are quiet, in what is shown of a report, in
colours, in the environment and in the terminals. -/
structure SameWork (w w' : Surroundings) (a a' : Arguments) : Prop where
  files : w'.files = w.files
  directory : w'.directory = w.directory
  input : w'.input = w.input
  inputs : inputsOf a' = inputsOf a
  frames : framesOf a' = framesOf a
  config : lastValue? a' .config = lastValue? a .config
  levels : a'.values .level = a.values .level

/-! ### The command -/

section Library

variable [Toml.Library]

/-- The run is that of the command. -/
theorem Invokes.run_eq (h : Invokes w e args quiet s a) :
  Program.run w e args = runReport w s a
  := by
  cases h with
  | alone ha => simp only [Program.run, MainCommand.run, MainCommand.runDescribed, ha]
  | whole hg hrest hs ha =>
    have hname : MainCommand.ofName? "report" = some .report := by decide
    simp only [Program.run, Program.runWhole, hg, hrest, hname, hs, MainCommand.run,
      MainCommand.runDescribed, ha]

/-- The settings that the command takes: those of the configuration file, which has to be there when one
is named, with the switches of the command line put over them. -/
structure InEffect (w : Surroundings) (s : State) (a : Arguments) (settings : Settings) : Prop where
  there : ∀ p, originOf w a = .file p → w.files.isFile w.directory p = .ok true
  loaded : ∃ base, Settings.load w.files w.directory (originOf w a) = .ok base
    ∧ settings = base.apply (sourceOf s a)

/-- With settings that can be had, a command goes on with them after some notices. -/
theorem withSettings_eq {settings : Settings} (h : InEffect w s a settings) (format : Option String)
    (next : Settings → State → Outcome) :
  ∃ outputs, (∀ x ∈ outputs, ∃ text, x = .err text)
    ∧ withSettings w s format a next
      = (next settings { s with
          console := some
            { colored := ColorMode.isColored (some settings.color) format w.environment w.outputTerminal
              remover := w.remover }
        }).after outputs
  := by
  obtain ⟨there, base, hbase, rfl⟩ := h
  use (Settings.loadNotices w.files w.directory (originOf w a)).map s.logged
  constructor
  · intro x hx
    obtain ⟨n, -, rfl⟩ := List.mem_map.mp hx
    exact ⟨_, rfl⟩
  · unfold withSettings
    simp only [hbase]
    cases horigin : originOf w a with
    | nearest start => rfl
    | file p => simp only [there p horigin]

/-- With settings and inputs that can be had, the command prints the reports after some output on the
error stream. -/
theorem runReport_eq {settings : Settings} {l : Loading} (hsettings : InEffect w s a settings)
    (hload : Loading.run w.files w.directory (framesOf a) w.input (inputsOf a) = .ok l) :
  ∃ outputs, (∀ x ∈ outputs, ∃ text, x = .err text)
    ∧ runReport w s a = (printReports settings (s.following w settings) l).after outputs
  := by
  obtain ⟨notices, hnotices, hreport⟩ :=
    withSettings_eq hsettings none fun settings s => withReports w s a (printReports settings s)
  obtain ⟨events, hevents, hprint⟩ :=
    withReports_eq (s := s.following w settings) hload (printReports settings (s.following w settings))
  use notices ++ events
  constructor
  · rw [List.forall_mem_append]
    use hnotices, hevents
  · calc runReport w s a
      _ = (withReports w (s.following w settings) a
            (printReports settings (s.following w settings))).after notices := hreport
      _ = _ := by rw [hprint, Outcome.after_after]

/-- Runs that do the same work take the same configuration file and want the same levels. -/
theorem InEffect.of_sameWork {w w' : Surroundings} {s s' : State} {a a' : Arguments} {settings : Settings}
    (h : InEffect w s a settings) (hsame : SameWork w w' a a') :
  ∃ settings', InEffect w' s' a' settings' ∧ settings'.levels = settings.levels
  := by
  have horigin : originOf w' a' = originOf w a := by rw [originOf, originOf, hsame.config, hsame.directory]
  obtain ⟨there, base, hbase, rfl⟩ := h
  use base.apply (sourceOf s' a')
  constructor
  · constructor
    · rw [horigin, hsame.files, hsame.directory]
      apply there
    · use base
      rw [horigin, hsame.files, hsame.directory]
      exact ⟨hbase, rfl⟩
  · simp only [Settings.apply, sourceOf, hsame.levels]

/-- What a run of the command writes to standard output is what its tasks write. -/
theorem Invokes.stdout_eq {settings : Settings} {l : Loading} (hrun : Invokes w e args quiet s a)
    (hsettings : InEffect w s a settings)
    (hload : Loading.run w.files w.directory (framesOf a) w.input (inputsOf a) = .ok l) :
  (Program.run w e args).stdout
    = String.join (((printedTexts quiet settings l).map (printTask (consoleOf w settings))).map Task.name)
  := by
  obtain ⟨outputs, herr, hreport⟩ := runReport_eq hsettings hload
  have htexts : (if (s.following w settings).verbosity < 0 then [] else l.reports.map (reportText settings))
      = printedTexts quiet settings l := by
    simp only [printedTexts, hrun.quiet_iff]
    rfl
  rw [hrun.run_eq, hreport, Outcome.stdout_after herr, stdout_printReports, htexts]
  rfl

/-- How a run of the command ends. -/
theorem Invokes.ending_eq {settings : Settings} {l : Loading} (hrun : Invokes w e args quiet s a)
    (hsettings : InEffect w s a settings)
    (hload : Loading.run w.files w.directory (framesOf a) w.input (inputsOf a) = .ok l) :
  (Program.run w e args).ending
    = .exit (l.code.getD (if l.reports.any (hasErrors settings) then .failure else .success))
  := by
  obtain ⟨outputs, -, hreport⟩ := runReport_eq hsettings hload
  rw [hrun.run_eq, hreport]
  rfl

/-- If the settings can be had and loading the inputs returns, the report command prints one line for each
text, with styling when colours are on and without when they are off; a text that is torn is lost. Printing
in the background changes nothing: however the script and its worker take turns, the lines are printed in the
order of the texts, and all of them when the script has come to its end, where every run stops. The command
exits with the code of the first input that failed, else with one when errors are wanted and there is one,
else with zero; any run that does the same work exits in the same way. -/
theorem Program.run_report {w : Surroundings} {e : Entry} {args : List String} {quiet : Bool} {s : State}
    {a : Arguments} {settings : Settings} {l : Loading} (hrun : Invokes w e args quiet s a)
    (hsettings : InEffect w s a settings)
    (hload : Loading.run w.files w.directory (framesOf a) w.input (inputsOf a) = .ok l) :
  (run w e args).stdout
      = String.join (((printedTexts quiet settings l).filterMap RawText.whole?).map fun text =>
        (if ColorMode.isColored (some settings.color) none w.environment w.outputTerminal then text
          else w.remover.strip text) ++ "\n")
    ∧ (WellFounded (fun b' b => Background.Step b b')
      ∧ ∀ b, Relation.ReflTransGen Background.Step
          (.printing ((printedTexts quiet settings l).map (printTask (consoleOf w settings)))) b →
        b.ranNames <+: ((printedTexts quiet settings l).map (printTask (consoleOf w settings))).map Task.name
          ∧ (b.isPast = true → String.join b.ranNames = (run w e args).stdout)
          ∧ ((∀ b', ¬ Background.Step b b') → b.isPast = true))
    ∧ (∃ os c, Input.outcomes w.files w.directory (framesOf a) w.input (inputsOf a) = .ok os
      ∧ l.reports = os.flatMap Loaded.reportList
      ∧ l.code = (os.findSome? Loaded.fault?).map InputFault.code
      ∧ (run w e args).ending = .exit c ∧ c.number = exitNumber settings.levels os)
    ∧ ∀ {w' e' args' quiet' s' a'}, Invokes w' e' args' quiet' s' a' → SameWork w w' a a' →
      (run w' e' args').ending = (run w e args).ending
  := by
  have hstdout := hrun.stdout_eq hsettings hload
  and_intros
  · rw [hstdout, join_names_printTasks]
    rfl
  · apply Background.wellFounded_step
  · intro b hb
    obtain ⟨hleading, hpast, hstuck⟩ := Background.printing_reaches (isFlat_printTasks _ _) hb
    refine ⟨hleading, ?_, hstuck⟩
    intro h
    rw [hpast h, hstdout]
  · obtain ⟨os, hos, hreports, hcode⟩ := Loading.exists_run_iff.mp ⟨l, hload, rfl, rfl⟩
    exact ⟨os, _, hos, hreports, hcode, hrun.ending_eq hsettings hload, number_printReports hreports hcode⟩
  · intro w' e' args' quiet' s' a' hrun' hsame
    obtain ⟨settings', hsettings', hlevels⟩ := hsettings.of_sameWork hsame
    have hload' : Loading.run w'.files w'.directory (framesOf a') w'.input (inputsOf a') = .ok l := by
      rw [hsame.files, hsame.directory, hsame.frames, hsame.input, hsame.inputs, hload]
    have herrors : hasErrors settings' = hasErrors settings := by
      funext r
      rw [hasErrors, hasErrors, hlevels]
    rw [hrun'.ending_eq hsettings' hload', hrun.ending_eq hsettings hload, herrors]

end Library

namespace Program

open Toml.Standard

/-- A directory with a document that holds an error and a warning. -/
def sampleSurroundings : Surroundings where
  files := .ofEntries [(["work", "lint.json"], .file "[\x7b\"level\": 1\x7d, \x7b\"level\": 0\x7d]".toUTF8.toList)]
  directory := ["work"]

/-- The arguments that ask for the summary of that document, and of one that is not there. -/
def sampleArguments : List String :=
  ["--no-terminal", "gone.json", "lint.json"]

/-- The summary of the document is printed without colours. The missing document settles the exit code,
although there is an error. -/
theorem run_report_sample :
  ∃ a settings l, Invokes sampleSurroundings (.command .report) sampleArguments false {} a
    ∧ InEffect sampleSurroundings {} a settings
    ∧ Loading.run sampleSurroundings.files sampleSurroundings.directory (framesOf a) sampleSurroundings.input
      (inputsOf a) = .ok l
    ∧ (run sampleSurroundings (.command .report) sampleArguments).stdout
      = "[lint] Found 1 error and 1 warning\n"
    ∧ (run sampleSurroundings (.command .report) sampleArguments).code = 66
  := by
  let a : Arguments := { uses := [{ key := .terminal, on := false }], rest := ["gone.json", "lint.json"] }
  let r : Report :=
    { checker := "lint"
      diagnostics :=
        [{ checker := "lint", level := some .error }, { checker := "lint", level := some .warning }] }
  have hrun : Invokes sampleSurroundings (.command .report) sampleArguments false {} a :=
    .alone (by decide +kernel)
  have hsettings : InEffect sampleSurroundings {} a { terminal := false } :=
    ⟨by rintro p ⟨⟩, {}, by decide +kernel, by decide +kernel⟩
  obtain ⟨l, hload, hreports, hcode⟩ : ∃ l, Loading.run sampleSurroundings.files
      sampleSurroundings.directory (framesOf a) sampleSurroundings.input (inputsOf a) = .ok l
      ∧ l.reports = [r] ∧ l.code = some .noInput := Loading.result_eq_ok_iff.mp (by decide +kernel)
  obtain ⟨hstdout, -, ⟨os, c, -, -, hfault, hending, hnumber⟩, -⟩ := run_report hrun hsettings hload
  use a, { terminal := false }, l, hrun, hsettings, hload
  constructor
  · rw [hstdout, printedTexts, hreports]
    decide +kernel
  · rw [hcode] at hfault
    obtain ⟨f, hfirst, hf⟩ := Option.map_eq_some_iff.mp hfault.symm
    calc (run sampleSurroundings (.command .report) sampleArguments).code
      _ = c.number := by rw [Outcome.code, hending]
      _ = f.exitNumber := by rw [hnumber, exitNumber, hfirst]
      _ = 66 := by rw [← f.number_code, hf, ExitCode.number]

/-- A directory with a document whose warning has a lone half of a surrogate pair for its message. -/
def tornSurroundings : Surroundings where
  files := .ofEntries
    [(["work", "lint.json"], .file "[\x7b\"level\": 0, \"message\": \"\\ud83d\"\x7d]".toUTF8.toList)]
  directory := ["work"]

/-- The report on the document is loaded and wanted, but it is lost, and the command succeeds. -/
theorem run_report_torn :
  ∃ a l, Invokes tornSurroundings (.command .report) ["lint.json"] false {} a
    ∧ InEffect tornSurroundings {} a {}
    ∧ Loading.run tornSurroundings.files tornSurroundings.directory (framesOf a) tornSurroundings.input
      (inputsOf a) = .ok l
    ∧ l.reports.length = 1
    ∧ (run tornSurroundings (.command .report) ["lint.json"]).stdout = ""
    ∧ (run tornSurroundings (.command .report) ["lint.json"]).ending = .exit .success
  := by
  let a : Arguments := { uses := [], rest := ["lint.json"] }
  let r : Report :=
    { checker := "lint"
      diagnostics := [{ checker := "lint", message := some ⟨[0xd83d]⟩, level := some .warning }] }
  have hrun : Invokes tornSurroundings (.command .report) ["lint.json"] false {} a := .alone (by decide +kernel)
  have hsettings : InEffect tornSurroundings {} a {} :=
    ⟨by rintro p ⟨⟩, {}, by decide +kernel, by decide +kernel⟩
  obtain ⟨l, hload, hreports, -⟩ : ∃ l, Loading.run tornSurroundings.files tornSurroundings.directory
      (framesOf a) tornSurroundings.input (inputsOf a) = .ok l
      ∧ l.reports = [r] ∧ l.code = none := Loading.result_eq_ok_iff.mp (by decide +kernel)
  refine ⟨a, l, hrun, hsettings, hload, by simp [hreports], ?_, ?_⟩
  · decide +kernel
  · decide +kernel

end Program

end CommandLine

end Diagnostics
