import Diagnostics.CommandLine.Fault
import Diagnostics.Input.Loading
import Diagnostics.Json.Printer
import Diagnostics.Reporting.Deferred
import Diagnostics.Settings.Starter

/-!
# Running the program

`Program.run` is what a run of the program writes and how it ends, given what it finds
around it: files, environment, standard input. Nothing here has an effect of its own.
-/

namespace Diagnostics.CommandLine

open Text

/-- What a run finds around it. -/
structure Surroundings where
  files : FileTree
  /-- The current directory. -/
  directory : FilePlace
  environment : Environment := { entries := [] }
  /-- What standard input holds. -/
  input : List UInt8 := []
  /-- Standard output is a terminal. -/
  outputTerminal : Bool := false
  /-- The error stream is a terminal. -/
  errorTerminal : Bool := false
  /-- How consoles strip styling. -/
  remover : Ansi.Remover := .scan

/-- A piece of output. -/
inductive Output
  | out (s : String)
  | err (s : String)
deriving DecidableEq, Repr

/-- How a run ends. -/
inductive Ending
  | exit (c : ExitCode)
  | crash (c : Crash)
deriving DecidableEq, Repr

/-- What a run writes and how it ends. -/
structure Outcome where
  outputs : List Output := []
  ending : Ending := .exit .success
deriving DecidableEq, Repr

namespace Outcome

/-- What is written to standard output. -/
def stdout (o : Outcome) : String :=
  joinTexts "" (o.outputs.map fun x => match x with | .out s => s | .err _ => "")

/-- What is written to the error stream. -/
def stderr (o : Outcome) : String :=
  joinTexts "" (o.outputs.map fun x => match x with | .out _ => "" | .err s => s)

/-- The exit code as a number. -/
def code (o : Outcome) : Nat :=
  match o.ending with
  | .exit c => c.number
  | .crash _ => ExitCode.failure.number

/-- The outcome with more output in front. -/
def after (outputs : List Output) (o : Outcome) : Outcome :=
  { o with outputs := outputs ++ o.outputs }

end Outcome

/-! ### Reading the arguments of a command -/

/-- The first thing wrong with the arguments of a command, or a request for help. -/
inductive Stop
  | help
  | complaint (c : Complaint)
  | crash (c : Crash)
deriving DecidableEq, Repr

/-- What is wrong with values of a choice. -/
def choiceStop? {α : Type} (c : Choice α) (name : String) (values : List String) : Option Stop :=
  (values.find? fun v => (c.find? v).isNone).map fun v => .complaint (.badValue name (c.message v))

/-- What is wrong with the path of a configuration file. -/
def configStop? (w : Surroundings) (value : String) : Option Stop :=
  let p := Path.ofText value
  if FileTree.hasNull p then some (.crash (.read .nullCharacter))
  else if value = "" then none
  else
    match w.files.find w.directory p with
    | .ok (.directory _) =>
      some (.complaint (.badValue "--config" ("File " ++ quoted value ++ " is a directory.")))
    | .ok (.barred .denied) =>
      some (.complaint (.badValue "--config" ("File " ++ quoted value ++ " is not readable.")))
    | _ => none

/-- What is wrong with an indentation. -/
def indentStop? (value : String) : Option Stop :=
  match integer? value with
  | none => some (.complaint (.badValue "--indent" (quoted value ++ " is not a valid integer range.")))
  | some i =>
    if i < 0 then some (.complaint (.badValue "--indent" (toString i ++ " is not in the range x>=0.")))
    else none

/-- The value that counts when a switch is used several times. -/
def lastValue? (a : Arguments) (key : Key) : Option String :=
  (a.last? key).map Use.value

/-- What is wrong with the values of a switch; of a switch that is not repeatable, only the last
value counts. -/
def stopAt? (w : Surroundings) (a : Arguments) : Key → Option Stop
  | .level => choiceStop? levelChoice "--level" (a.values .level)
  | .color => choiceStop? colorChoice "--color" (lastValue? a .color).toList
  | .format => choiceStop? formatChoice "--format" (lastValue? a .format).toList
  | .config => (lastValue? a .config).bind (configStop? w)
  | .indent => (lastValue? a .indent).bind indentStop?
  | _ => none

/-- Reads the arguments of a command. Help is given before values are looked at, and values are
looked at before arguments that are too many. -/
def readArguments (w : Surroundings) (c : Command) (args : List String) : Except Stop Arguments :=
  match Arguments.parse c.switches c.anywhere args with
  | .error f => .error (.complaint (.argument f))
  | .ok a =>
    if a.has .help then .error .help
    else
      match a.keys.findSome? (stopAt? w a) with
      | some stop => .error stop
      | none =>
        if c.takesRest || a.rest.isEmpty then .ok a else .error (.complaint (.unexpected a.rest))

/-! ### The state of a run -/

/-- What commands know of the program that they are part of. -/
structure State where
  verbosity : Int := 0
  /-- The colour mode that the command line asks for. -/
  wanted : Option ColorMode := none
  /-- The console, when one is set up. -/
  console : Option Console := none
  /-- Where notices go. -/
  sink : Log.Sink := { threshold := Log.warning, layout := .bare, colored := false }

namespace State

/-- The console that is set up, or one with colours. -/
def consoleOrDefault (s : State) : Console :=
  s.console.getD { colored := true }

/-- A notice that is written. -/
def logged (s : State) (n : Log.Notice) : Output :=
  .err (s.sink.write { notice := n, path := "checkrelay", function := "main" })

/-- A text on the error stream that does not come from the console: it is not stripped when the
console has colours, or when nothing is known and the stream is a terminal. -/
def plainError (w : Surroundings) (s : State) (text : String) : Output :=
  .err (if (s.console.map Console.colored).getD w.errorTerminal then text else w.remover.strip text)

/-- The end of a run by a complaint about a command or a request for help. -/
def stopped (w : Surroundings) (s : State) (path : String) (c : Command) : Stop → Outcome
  | .help => { outputs := [.out (Help.render path c)] }
  | .complaint complaint =>
    { outputs := [s.plainError w (complaint.text path c)], ending := .exit .badCommandLine }
  | .crash crash => { ending := .crash crash }

/-- The end of a run by an error, which is told without styling. -/
def failed (w : Surroundings) (s : State) (e : ProgramError) : Outcome :=
  { outputs := [s.plainError w ("Error: " ++ e.message ++ "\n")], ending := .exit e.kind.code }

end State

/-! ### Settings -/

variable [Toml.Library]

/-- What the switches of a command say about the settings. -/
def sourceOf (s : State) (a : Arguments) : Source :=
  let levels := (a.values .level).filterMap levelChoice.find?
  { levels := if levels.isEmpty then none else some levels
    color := s.wanted
    terminal := (a.last? .terminal).map Use.on
    overlay := (a.last? .overlay).map Use.on }

/-- Where the switches of a command say that settings are loaded from. -/
def originOf (w : Surroundings) (a : Arguments) : Settings.Origin :=
  match lastValue? a .config with
  | some value => .file (.ofText value)
  | none => .nearest (.ofRoot w.directory)

/-- Goes on with the settings in effect and a console that follows them; `format` is the format of
what will be printed. -/
def withSettings (w : Surroundings) (s : State) (format : Option String) (a : Arguments)
    (next : Settings → State → Outcome) : Outcome :=
  let origin := originOf w a
  let load : Outcome :=
    .after ((Settings.loadNotices w.files w.directory origin).map s.logged) <|
      match Settings.load w.files w.directory origin with
      | .error f => { ending := .crash (.settings f) }
      | .ok loaded =>
        let settings := loaded.apply (sourceOf s a)
        let colored := ColorMode.isColored (some settings.color) format w.environment w.outputTerminal
        next settings { s with console := some { colored, remover := w.remover } }
  match origin with
  | .nearest _ => load
  | .file p =>
    match w.files.isFile w.directory p with
    | .error f => { ending := .crash (.read (.os f)) }
    | .ok true => load
    | .ok false => s.failed w { kind := .config, message := "Config file not found: " ++ p.text }

/-! ### The commands -/

/-- The names of the inputs of a command, standard input when there are none. -/
def inputsOf (a : Arguments) : List String :=
  if a.rest.isEmpty then ["-"] else a.rest

/-- Frames are built unless they are switched off. -/
def framesOf (a : Arguments) : Bool :=
  ((a.last? .frames).map Use.on).getD true

/-- What is written while inputs are loaded. -/
def loadOutput (s : State) : LoadEvent → Output
  | .notice n => s.logged n
  | .problem text => .err (s.consoleOrDefault.errorLine text)

/-- Goes on with the reports of the inputs of a command. -/
def withReports (w : Surroundings) (s : State) (a : Arguments) (next : Loading → Outcome) : Outcome :=
  match Loading.run w.files w.directory (framesOf a) w.input (inputsOf a) with
  | .error b => { outputs := b.events.map (loadOutput s), ending := .crash (.load b.fault) }
  | .ok loading => .after (loading.events.map (loadOutput s)) (next loading)

/-- The text that the terminal shows for a report. -/
def reportText (settings : Settings) (r : Report) : RawText :=
  if settings.terminal then r.render settings.levels else r.summary settings.levels

/-- A selected diagnostic of the report is an error. -/
def hasErrors (settings : Settings) (r : Report) : Bool :=
  0 < (r.stats settings.levels).errors

/-- The task that prints a text, named by what it writes. It writes nothing of a text that is torn, and
fails. -/
def printTask (c : Console) (text : RawText) : Task :=
  match c.rawLine text with
  | .ok line => .leaf line
  | .error tear => .mk "" [] (some tear.message)

/-- What is written when a task that prints runs or fails; of a failure the log knows only the notice. -/
def State.taskOutput (s : State) : Deferred.Event → Output
  | .ran line => .out line
  | .failed text => s.logged (Deferred.failureNotice text)

/-- Prints the reports and sums up whether there are errors. -/
def printReports (settings : Settings) (s : State) (l : Loading) : Outcome :=
  let texts := if s.verbosity < 0 then [] else l.reports.map (reportText settings)
  { outputs :=
      (Deferred.run (texts.map fun text => .task (printTask s.consoleOrDefault text))).map s.taskOutput
    ending := .exit (l.code.getD (if l.reports.any (hasErrors settings) then .failure else .success)) }

/-- Renders diagnostics for the terminal. -/
def runReport (w : Surroundings) (s : State) (a : Arguments) : Outcome :=
  withSettings w s none a fun settings s => withReports w s a (printReports settings s)

/-- The layout that the switches of a command ask for. -/
def layoutOf (a : Arguments) : Json.Layout :=
  match (lastValue? a .indent).bind integer? with
  | some i => .indented i.toNat
  | none => .compact

/-- Prints the payloads of the reports. -/
def printPayloads (settings : Settings) (s : State) (layout : Json.Layout) (l : Loading) : Outcome :=
  { outputs := l.reports.map fun r =>
      .out (s.consoleOrDefault.line (Payload.serialize layout (r.payload settings.levels)))
    ending := .exit (l.code.getD .success) }

/-- Emits payloads for clients. -/
def runPayload (w : Surroundings) (s : State) (a : Arguments) : Outcome :=
  withSettings w s (some "json") a fun settings s =>
    if settings.overlay then withReports w s a (printPayloads settings s (layoutOf a))
    else { outputs := [s.logged ⟨Log.info, "Overlay disabled; no payloads emitted"⟩] }

/-- The version of the program. -/
def versionText : String := "0.1.0"

/-- Shows the version. -/
def runVersion (s : State) (a : Arguments) : Outcome :=
  let c := s.consoleOrDefault
  let number := c.styled { bold := true } versionText
  match (lastValue? a .format).bind formatChoice.find? with
  | some .json =>
    { outputs := [.out (c.line (Json.print .compact (.object [("version", .text versionText)])))] }
  | _ =>
    if 0 < s.verbosity then
      { outputs :=
          [.out (c.line (c.styled { bold := true, underline := true } "CheckRelay version:")),
           .out (c.line ("    " ++ number))] }
    else { outputs := [.out (c.line number)] }

/-- Shows a starter configuration. -/
def runInit (s : State) (a : Arguments) : Outcome :=
  match Toml.Library.writeDocument (Settings.starter (a.has .pyproject) ({} : Settings).table) with
  | .error f => { ending := .crash (.write f) }
  | .ok text => { outputs := [.out (s.consoleOrDefault.display text)] }

/-- The remark that says which files the settings come from. -/
def filesRemark (settings : Settings) : String :=
  "# Config files: " ++
    if settings.files.isEmpty then "(defaults only)" else joinTexts ", " (settings.files.map Path.text)

/-- Shows the settings in effect. -/
def runDump (w : Surroundings) (s : State) (a : Arguments) : Outcome :=
  withSettings w s none a fun settings s =>
    let c := s.consoleOrDefault
    .after (if 0 < s.verbosity then [.out (c.line (c.styled { dim := true } (filesRemark settings)))] else []) <|
      match Toml.Library.write (.object settings.table) with
      | .error f => { ending := .crash (.write f) }
      | .ok text => { outputs := [.out (c.display text)] }

/-- The commands on configuration. -/
inductive ConfigCommand
  | init
  | dump
deriving DecidableEq, Repr

/-- Runs a command on configuration. -/
def runConfigCommand (w : Surroundings) (s : State) (path : String) (c : ConfigCommand) (args : List String) :
    Outcome :=
  let described : Command := match c with | .init => .init | .dump => .dump
  match readArguments w described args with
  | .error stop => s.stopped w path described stop
  | .ok a =>
    match c with
    | .init => runInit s a
    | .dump => runDump w s a

/-- The name is written like a switch. -/
def looksLikeSwitch (name : String) : Bool :=
  match name.toList with
  | '-' :: _ :: _ => true
  | _ => false

/-- The end of a run by a name that is no command. A name like a switch is first read as one. -/
def unknownCommand (w : Surroundings) (s : State) (path : String) (c : Command) (name : String)
    (args : List String) : Outcome :=
  let unknown := s.stopped w path c (.complaint (.unknownCommand name))
  if looksLikeSwitch name then
    match readArguments w c (name :: args) with
    | .error stop => s.stopped w path c stop
    | .ok _ => unknown
  else unknown

/-- Runs the command that holds those on configuration. Without arguments it explains itself. -/
def runConfig (w : Surroundings) (s : State) (path : String) (args : List String) : Outcome :=
  if args.isEmpty then
    { outputs := [s.plainError w (Help.render path .config)], ending := .exit .badCommandLine }
  else
    match readArguments w .config args with
    | .error stop => s.stopped w path .config stop
    | .ok a =>
      match a.rest with
      | [] => s.stopped w path .config (.complaint .noCommand)
      | "init" :: rest => runConfigCommand w s (path ++ " init") .init rest
      | "dump" :: rest => runConfigCommand w s (path ++ " dump") .dump rest
      | name :: rest => unknownCommand w s path .config name rest

/-- The commands of the program. -/
inductive MainCommand
  | report
  | payload
  | config
  | version
deriving DecidableEq, Repr

namespace MainCommand

/-- The name of a command. -/
def name : MainCommand → String
  | report => "report"
  | payload => "payload"
  | config => "config"
  | version => "version"

/-- The command with a name. -/
def ofName? (s : String) : Option MainCommand :=
  [report, payload, config, version].find? fun c => c.name = s

/-- Runs a command whose arguments are described. -/
def runDescribed (w : Surroundings) (s : State) (path : String) (c : Command) (args : List String)
    (run : Arguments → Outcome) : Outcome :=
  match readArguments w c args with
  | .error stop => s.stopped w path c stop
  | .ok a => run a

/-- Runs a command. -/
def run (w : Surroundings) (s : State) (path : String) (args : List String) : MainCommand → Outcome
  | report => runDescribed w s path .report args (runReport w s)
  | payload => runDescribed w s path .payload args (runPayload w s)
  | config => runConfig w s path args
  | version => runDescribed w s path .version args (runVersion s)

end MainCommand

/-! ### The program -/

namespace Program

/-- The colour mode that the switches of the program ask for. -/
def wantedBy (a : Arguments) : Option ColorMode :=
  if a.has .noColor then some .never else (lastValue? a .color).bind colorChoice.find?

/-- The state with which commands start. The environment wins over the switches when it names a
threshold for the log. -/
def start (w : Surroundings) (a : Arguments) : Except Outcome State :=
  match verbosity (a.count .verbose) (a.count .quiet) with
  | .error e => .error (({} : State).failed w e)
  | .ok verbosity =>
    match Log.fromEnvironment w.environment with
    | .error e => .error { ending := .crash (.threshold e) }
    | .ok asked =>
      let threshold := match asked with
        | some t => some t
        | none => thresholdFor verbosity
      match Log.setup threshold w.environment w.errorTerminal with
      | .error e => .error { ending := .crash (.threshold e) }
      | .ok sink =>
        let colored := ColorMode.isColored (wantedBy a) none w.environment w.outputTerminal
        .ok { verbosity, wanted := wantedBy a, console := some { colored, remover := w.remover }, sink }

/-- What is printed when no command is given. -/
def hint : String := "Hint: use 'checkrelay report FILE...' to render diagnostics."

/-- Runs the program as a whole. -/
def runWhole (w : Surroundings) (path : String) (args : List String) : Outcome :=
  let before : State := {}
  match readArguments w .program args with
  | .error stop => before.stopped w path .program stop
  | .ok a =>
    match a.rest with
    | [] =>
      match start w a with
      | .error o => o
      | .ok s => { outputs := [.out (s.consoleOrDefault.line hint)] }
    | name :: rest =>
      match MainCommand.ofName? name with
      | none => unknownCommand w before path .program name rest
      | some c =>
        match start w a with
        | .error o => o
        | .ok s => c.run w s (path ++ " " ++ name) rest

/-- What a run starts with: the program as a whole, or one of its commands alone. -/
inductive Entry
  | whole
  | command (c : MainCommand)
deriving DecidableEq, Repr

/-- Runs the program. -/
def run (w : Surroundings) (e : Entry) (args : List String) : Outcome :=
  match e with
  | .whole => runWhole w "checkrelay" args
  | .command c => c.run w {} c.name args

end Program

end Diagnostics.CommandLine
