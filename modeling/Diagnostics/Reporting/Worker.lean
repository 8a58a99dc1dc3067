import Diagnostics.Reporting.Deferred

/-!
# The worker beside a script

Outside of an event loop deferred tasks go to a worker that runs beside the script which
defers them. The queue between the two is first in, first out; a script that waits puts a
barrier into the queue, and goes on when the worker has come to it. `Background` is the state
of the script and its worker, `Background.Step` is one step of either of them.
-/

namespace Diagnostics

/-- What a script with a worker beside it does. -/
inductive Instruction
  /-- Does something at once. -/
  | now (name : String)
  | defer (t : Task)
  /-- Goes on when everything that was deferred before has run. -/
  | wait

/-- What waits for the worker. -/
inductive Item
  | task (t : Task)
  /-- The script waits for the worker to come to this. -/
  | barrier

/-- What happens in a script and its worker. -/
inductive Happening
  /-- The script does something at once. -/
  | did (name : String)
  /-- The script, or the task that runs, defers a task. -/
  | deferred (name : String)
  /-- The worker starts a task. -/
  | ran (name : String)
  /-- The task that runs fails in the end. -/
  | failed (text : String)
deriving DecidableEq, Repr

/-- The name of the task that was started. -/
def Happening.ran? : Happening → Option String
  | ran name => some name
  | _ => none

/-- A script and its worker at one moment. -/
structure Background where
  /-- What the script has still to do. -/
  script : List Instruction
  /-- The script waits for its barrier. -/
  blocked : Bool := false
  queue : List Item := []
  /-- The task that the worker runs, with those that it has still to schedule. -/
  running : Option Task := none
  /-- What has happened so far. -/
  history : List Happening := []

namespace Background

/-- One step of the script or of the worker. -/
inductive Step (b : Background) : Background → Prop
  | now {name : String} {rest : List Instruction} (next : b.script = .now name :: rest)
      (free : b.blocked = false) :
      Step b { b with script := rest, history := b.history ++ [.did name] }
  | defer {t : Task} {rest : List Instruction} (next : b.script = .defer t :: rest)
      (free : b.blocked = false) :
      Step b
        { b with script := rest, queue := b.queue ++ [.task t], history := b.history ++ [.deferred t.name] }
  | wait {rest : List Instruction} (next : b.script = .wait :: rest) (free : b.blocked = false) :
      Step b { b with script := rest, blocked := true, queue := b.queue ++ [.barrier] }
  | start {t : Task} {later : List Item} (idle : b.running = none) (first : b.queue = .task t :: later) :
      Step b { b with queue := later, running := some t, history := b.history ++ [.ran t.name] }
  | release {later : List Item} (idle : b.running = none) (first : b.queue = .barrier :: later) :
      Step b { b with queue := later, blocked := false }
  | schedule {name : String} {t : Task} {ts : List Task} {failure : Option String}
      (runs : b.running = some (.mk name (t :: ts) failure)) :
      Step b
        { b with
          queue := b.queue ++ [.task t]
          running := some (.mk name ts failure)
          history := b.history ++ [.deferred t.name] }
  | finish {name : String} {failure : Option String} (runs : b.running = some (.mk name [] failure)) :
      Step b { b with running := none, history := b.history ++ (failure.map .failed).toList }

/-- The names of the tasks that the worker has started, in the order in which it did. -/
def ranNames (b : Background) : List String :=
  b.history.filterMap Happening.ran?

/-- The script has come to its end, and waits for nothing. -/
def isPast (b : Background) : Bool :=
  b.script.isEmpty && !b.blocked

/-- The script that defers each task and waits. -/
def printing (tasks : List Task) : Background :=
  { script := tasks.map .defer ++ [.wait] }

end Background

end Diagnostics
