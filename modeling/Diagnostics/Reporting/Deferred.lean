import Diagnostics.Log.Notice

/-!
# Deferred tasks

A deferred task runs once the current work is done. Tasks wait in a queue: the one
scheduled first runs first, and what a task schedules while it runs goes to the end.
`Deferred.run` runs a queue until it is empty.
-/

namespace Diagnostics

/-- A deferred task. When it runs, it does what its name says, schedules further tasks, and perhaps
fails. -/
inductive Task
  | mk (name : String) (nested : List Task) (failure : Option String)

namespace Task

/-- The name of a task. -/
def name : Task → String
  | mk name _ _ => name

/-- The tasks that a task schedules. -/
def nested : Task → List Task
  | mk _ nested _ => nested

/-- The text of the failure with which a task ends. -/
def failure : Task → Option String
  | mk _ _ failure => failure

/-- A task that only does what its name says. -/
def leaf (name : String) : Task :=
  mk name [] none

mutual

/-- The number of tasks that a task brings about, itself included. -/
def size : Task → Nat
  | mk _ nested _ => 1 + sizeList nested

/-- The number of tasks that several tasks bring about. -/
def sizeList : List Task → Nat
  | [] => 0
  | t :: ts => size t + sizeList ts

end

theorem size_eq (t : Task) :
  t.size = 1 + sizeList t.nested
  := by
  cases t
  rfl

end Task

namespace Deferred

/-- What happens while tasks run. -/
inductive Event
  | ran (name : String)
  | failed (text : String)
deriving DecidableEq, Repr

/-- What happens while one task runs. -/
def eventsOf (t : Task) : List Event :=
  .ran t.name :: (t.failure.map Event.failed).toList

/-- A step of a script. -/
inductive Step
  /-- Does something at once. -/
  | now (name : String)
  | defer (t : Task)
  /-- Lets the tasks that wait run first. -/
  | pause

/-- What waits in the queue: a task, or the rest of a script that paused. -/
inductive Job
  | task (t : Task)
  | script (steps : List Step)

/-- What a script does up to its next pause. -/
def eventsUntilPause : List Step → List Event
  | [] => []
  | .now name :: steps => .ran name :: eventsUntilPause steps
  | .defer _ :: steps => eventsUntilPause steps
  | .pause :: _ => []

/-- What a script puts into the queue up to its next pause, the rest of it included. -/
def jobsUntilPause : List Step → List Job
  | [] => []
  | .now _ :: steps => jobsUntilPause steps
  | .defer t :: steps => .task t :: jobsUntilPause steps
  | .pause :: steps => [.script steps]

/-- The tasks that steps bring about and the pauses among them. -/
def stepsSize : List Step → Nat
  | [] => 0
  | .now _ :: steps => stepsSize steps
  | .defer t :: steps => t.size + stepsSize steps
  | .pause :: steps => 1 + stepsSize steps

/-- The work that a job brings about. -/
def Job.size : Job → Nat
  | .task t => t.size
  | .script steps => 1 + stepsSize steps

/-- The work that waits in a queue. -/
def workOf : List Job → Nat
  | [] => 0
  | job :: queue => job.size + workOf queue

theorem workOf_append (q r : List Job) :
  workOf (q ++ r) = workOf q + workOf r
  := by
  induction q with
  | nil => simp [workOf]
  | cons job q ih => simp [workOf, ih, Nat.add_assoc]

theorem workOf_tasks (ts : List Task) :
  workOf (ts.map Job.task) = Task.sizeList ts
  := by
  induction ts with
  | nil => rfl
  | cons t ts ih => simpa [workOf, Job.size, Task.sizeList] using ih

theorem workOf_jobsUntilPause (steps : List Step) :
  workOf (jobsUntilPause steps) = stepsSize steps
  := by
  induction steps with
  | nil => rfl
  | cons s steps ih =>
    cases s with
    | now _ => simpa [jobsUntilPause, stepsSize] using ih
    | defer t => simpa [jobsUntilPause, stepsSize, workOf, Job.size] using ih
    | pause => simp [jobsUntilPause, stepsSize, workOf, Job.size]

/-- Runs the jobs of a queue in their order until none waits. -/
def run : List Job → List Event
  | [] => []
  | .task t :: queue => eventsOf t ++ run (queue ++ t.nested.map .task)
  | .script steps :: queue => eventsUntilPause steps ++ run (queue ++ jobsUntilPause steps)
termination_by queue => workOf queue
decreasing_by
  · rw [workOf_append, workOf_tasks]
    simp only [workOf, Job.size, Task.size_eq]
    omega
  · rw [workOf_append, workOf_jobsUntilPause]
    simp only [workOf, Job.size]
    omega

/-- The step lets the tasks that wait run. -/
def Step.isPause : Step → Bool
  | .pause => true
  | .now _ | .defer _ => false

/-- Runs a script to its end and then what it deferred; pauses let nothing run. -/
def runBehind (steps : List Step) : List Event :=
  let unpaused := steps.filter fun s => !s.isPause
  eventsUntilPause unpaused ++ run (jobsUntilPause unpaused)

/-- Runs a script within the queue; at each pause what waits runs first. -/
def runWithin (steps : List Step) : List Event :=
  run [.script steps]

/-- The names of the tasks that ran, in the order in which they did. -/
def ranNames (events : List Event) : List String :=
  events.filterMap fun e =>
    match e with
    | .ran name => some name
    | .failed _ => none

/-- The notice on a failure. -/
def failureNotice (text : String) : Log.Notice :=
  ⟨Log.error, "Deferred callback failed: " ++ text⟩

/-- The notices on the failures among events. -/
def failureNotices (events : List Event) : List Log.Notice :=
  events.filterMap fun e =>
    match e with
    | .ran _ => none
    | .failed text => some (failureNotice text)

end Deferred

end Diagnostics
