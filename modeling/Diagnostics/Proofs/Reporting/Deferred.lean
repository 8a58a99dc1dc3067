import Diagnostics.Proofs.Reporting.Worker

/-!
# Deferred tasks run once and in their order

Where the tasks of a script and its worker are is `Background.Tasks`; each step of either of
them moves one task at most (`Background.Step.moves`). So whatever the order of their steps,
the tasks that were started are those that were deferred first, and where neither can go on
all that the script brings about have run, each once (`Background.RunsInOrder`).

A loop takes one turn after the other (`Deferred.turns`): a script up to its next pause, or a
task to its end. There too the tasks run in the order in which they were deferred, and none in
the turn that defers it (`Deferred.RunsInOrder`). A script without pauses gives the same order
on both ways when the worker starts behind it (`Deferred.SameOrder`).
-/

namespace Diagnostics

/-! ### Tasks and what they bring about -/

namespace Task

mutual

/-- The names of a task and of all tasks that it brings about. -/
def names : Task → List String
  | mk name nested _ => name :: namesList nested

/-- The names of several tasks and of all tasks that they bring about. -/
def namesList : List Task → List String
  | [] => []
  | t :: ts => names t ++ namesList ts

end

theorem namesList_eq (ts : List Task) :
  namesList ts = ts.flatMap names
  := by
  induction ts with
  | nil => rfl
  | cons t ts ih => rw [namesList, ih, List.flatMap_cons]

theorem names_eq (t : Task) :
  t.names = t.name :: t.nested.flatMap names
  := by
  cases t
  rw [names, namesList_eq]
  rfl

end Task

/-- The task that an instruction defers. -/
def Instruction.task? : Instruction → Option Task
  | defer t => some t
  | _ => none

/-- The task that waits. -/
def Item.task? : Item → Option Task
  | task t => some t
  | barrier => none

/-- The name of the task that was deferred. -/
def Happening.deferred? : Happening → Option String
  | deferred name => some name
  | _ => none

/-! ### Where the tasks are -/

namespace Background

/-- Where the tasks of a script and its worker are. -/
structure Tasks where
  /-- The names of those that were deferred, in the order in which they were. -/
  deferred : List String
  /-- The names of those that were started, in the order in which they were. -/
  ran : List String
  /-- Those that the one that runs has still to defer. -/
  unscheduled : List Task
  /-- Those that wait for the worker. -/
  waiting : List Task
  /-- Those that the script has still to defer. -/
  coming : List Task

/-- Where the tasks are at one moment. -/
def tasks (b : Background) : Tasks where
  deferred := b.history.filterMap Happening.deferred?
  ran := b.ranNames
  unscheduled := (b.running.map Task.nested).getD []
  waiting := b.queue.filterMap Item.task?
  coming := b.script.filterMap Instruction.task?

/-- The names of the tasks that were deferred, in the order in which they were. -/
def deferredNames (b : Background) : List String :=
  b.tasks.deferred

/-- What a step does to the tasks. -/
inductive Tasks.Moves (s : Tasks) : Tasks → Prop
  | stayed : Moves s s
  | deferred {t : Task} {later : List Task} (next : s.coming = t :: later) :
      Moves s { s with deferred := s.deferred ++ [t.name], waiting := s.waiting ++ [t], coming := later }
  | started {t : Task} {later : List Task} (idle : s.unscheduled = []) (first : s.waiting = t :: later) :
      Moves s { s with ran := s.ran ++ [t.name], unscheduled := t.nested, waiting := later }
  | scheduled {t : Task} {later : List Task} (next : s.unscheduled = t :: later) :
      Moves s { s with deferred := s.deferred ++ [t.name], unscheduled := later, waiting := s.waiting ++ [t] }

/-- Each step of the script or the worker moves one task at most. -/
theorem Step.moves {b b' : Background} (h : Step b b') :
  b.tasks.Moves b'.tasks
  := by
  have hstayed : b.tasks.Moves b.tasks := .stayed
  cases h with
  | now next free =>
    simpa [tasks, ranNames, next, List.filterMap_cons, Happening.ran?, Happening.deferred?,
      Instruction.task?] using hstayed
  | @defer t rest next free =>
    have hnext : b.tasks.coming = t :: rest.filterMap Instruction.task? := by
      simp [tasks, next, Instruction.task?]
    simpa [tasks, ranNames, List.filterMap_cons, Happening.ran?, Happening.deferred?, Item.task?]
      using Tasks.Moves.deferred hnext
  | wait next free =>
    simpa [tasks, ranNames, next, List.filterMap_cons, Instruction.task?, Item.task?] using hstayed
  | @start t later idle first =>
    have hidle : b.tasks.unscheduled = [] := by simp [tasks, idle]
    have hfirst : b.tasks.waiting = t :: later.filterMap Item.task? := by simp [tasks, first, Item.task?]
    simpa [tasks, ranNames, List.filterMap_cons, Happening.ran?, Happening.deferred?]
      using Tasks.Moves.started hidle hfirst
  | release idle first =>
    simpa [tasks, ranNames, first, List.filterMap_cons, Item.task?] using hstayed
  | @schedule name t ts failure runs =>
    have hnext : b.tasks.unscheduled = t :: ts := by simp [tasks, runs, Task.nested]
    simpa [tasks, ranNames, List.filterMap_cons, Happening.ran?, Happening.deferred?, Item.task?,
      Task.nested] using Tasks.Moves.scheduled hnext
  | @finish name failure runs =>
    cases failure with
    | none => simpa [tasks, ranNames, runs, Task.nested] using hstayed
    | some text =>
      simpa [tasks, ranNames, runs, List.filterMap_cons, Happening.ran?, Happening.deferred?, Task.nested]
        using hstayed

/-- Every one of the tasks is accounted for. -/
structure Tasks.Accounted (all : List Task) (s : Tasks) : Prop where
  /-- Those that were started and those that wait are the ones that were deferred, in their order. -/
  order : s.ran ++ s.waiting.map Task.name = s.deferred
  /-- Each of them, and each that they bring about, was started or will be, and that once. -/
  once : (s.ran ++ (s.unscheduled ++ s.waiting ++ s.coming).flatMap Task.names).Perm (all.flatMap Task.names)
  /-- As long as none was started, all wait or are still to come. -/
  unstarted : s.ran = [] → s.unscheduled = [] ∧ s.waiting ++ s.coming = all

/-- A move keeps the tasks accounted for. -/
theorem Tasks.Accounted.move {all : List Task} {s s' : Tasks} (h : s.Accounted all) (hmove : s.Moves s') :
  s'.Accounted all
  := by
  obtain ⟨horder, honce, hunstarted⟩ := h
  cases hmove with
  | stayed => exact ⟨horder, honce, hunstarted⟩
  | deferred next =>
    constructor
    · simp [← horder]
    · simpa [next] using honce
    · simpa [next] using hunstarted
  | @started t later idle first =>
    constructor
    · simpa [first] using horder
    · simp only [idle, first, List.perm_iff_count] at honce ⊢
      simpa [Task.names_eq t] using honce
    · simp
  | @scheduled t later next =>
    constructor
    · simp [← horder]
    · simp only [next, List.perm_iff_count] at honce ⊢
      intro name
      have hname := honce name
      simp only [List.count_append, List.flatMap_append, List.flatMap_cons, List.flatMap_nil,
        List.append_nil] at hname ⊢
      omega
    · intro hran
      obtain ⟨hidle, -⟩ := hunstarted hran
      simp [hidle] at next

/-! ### Where a run stops -/

/-- A script that waits has its barrier in the queue. -/
def HasBarrier (b : Background) : Prop :=
  b.blocked = true → .barrier ∈ b.queue

/-- A step keeps the barrier of a script that waits. -/
theorem HasBarrier.step {b b' : Background} (h : b.HasBarrier) (hstep : Step b b') :
  b'.HasBarrier
  := by
  unfold HasBarrier at h ⊢
  cases hstep with
  | now next free => apply h
  | defer next free => simp [free]
  | wait next free => simp
  | start idle first => simpa [first] using h
  | release idle first => simp
  | schedule runs => simpa using h
  | finish runs => apply h

/-- Where neither the script nor the worker can go on, both have come to their end. -/
theorem HasBarrier.eq_of_stuck {b : Background} (h : b.HasBarrier) (hstuck : ∀ b', ¬ Step b b') :
  b.script = [] ∧ b.blocked = false ∧ b.queue = [] ∧ b.running = none
  := by
  have hrunning : b.running = none := by
    cases hruns : b.running with
    | none => rfl
    | some t =>
      obtain ⟨name, nested, failure⟩ := t
      cases nested with
      | nil => apply absurd (Step.finish hruns) (hstuck _)
      | cons t ts => apply absurd (Step.schedule hruns) (hstuck _)
  have hqueue : b.queue = [] := by
    cases hfirst : b.queue with
    | nil => rfl
    | cons item later =>
      cases item with
      | task t => apply absurd (Step.start hrunning hfirst) (hstuck _)
      | barrier => apply absurd (Step.release hrunning hfirst) (hstuck _)
  have hfree : b.blocked = false := by simpa [HasBarrier, hqueue] using h
  have hscript : b.script = [] := by
    cases hnext : b.script with
    | nil => rfl
    | cons i rest =>
      cases i with
      | now name => apply absurd (Step.now hnext hfree) (hstuck _)
      | defer t => apply absurd (Step.defer hnext hfree) (hstuck _)
      | wait => apply absurd (Step.wait hnext hfree) (hstuck _)
  exact ⟨hscript, hfree, hqueue, hrunning⟩

/-! ### Runs -/

/-- The beginning of a script. -/
def start (script : List Instruction) : Background :=
  { script }

variable {script : List Instruction} {b : Background}

/-- After any run the tasks are accounted for. -/
theorem accounted_of_reaches (h : Relation.ReflTransGen Step (start script) b) :
  b.tasks.Accounted (script.filterMap Instruction.task?)
  := by
  induction h with
  | refl =>
    constructor
    · rfl
    · apply List.Perm.refl
    · exact fun _ => ⟨rfl, rfl⟩
  | tail _ hstep ih => apply ih.move hstep.moves

/-- After any run a script that waits has its barrier in the queue. -/
theorem hasBarrier_of_reaches (h : Relation.ReflTransGen Step (start script) b) :
  b.HasBarrier
  := by
  induction h with
  | refl => simp [HasBarrier, start]
  | tail _ hstep ih => apply ih.step hstep

/-- Whatever the order in which a script and its worker take their steps, the worker runs the tasks in
the order in which they were deferred. Every run stops, and then the script has come to its end, and every
task that it brings about has run once, whether tasks failed or not. -/
structure RunsInOrder (script : List Instruction) : Prop where
  order : ∀ b, Relation.ReflTransGen Step (start script) b → b.ranNames <+: b.deferredNames
  stops : WellFounded fun b' b : Background => Step b b'
  stopped : ∀ b, Relation.ReflTransGen Step (start script) b → (∀ b', ¬ Step b b') →
    b.isPast = true ∧ b.ranNames = b.deferredNames
      ∧ b.ranNames.Perm ((script.filterMap Instruction.task?).flatMap Task.names)

/-- Every script runs its tasks in order. -/
theorem runsInOrder (script : List Instruction) :
  RunsInOrder script
  where
  order := by
    intro b hb
    rw [deferredNames, ← (accounted_of_reaches hb).order]
    apply List.prefix_append
  stops := wellFounded_step
  stopped := by
    intro b hb hstuck
    obtain ⟨hscript, hfree, hqueue, hrunning⟩ := (hasBarrier_of_reaches hb).eq_of_stuck hstuck
    obtain ⟨horder, honce, -⟩ := accounted_of_reaches hb
    and_intros
    · simp [isPast, hscript, hfree]
    · simpa [tasks, hqueue, deferredNames] using horder
    · simpa [tasks, hscript, hqueue, hrunning] using honce

end Background

/-! ### Turns of a loop -/

namespace Deferred

/-- What happens in a script up to its next pause. -/
def happeningsUntilPause : List Step → List Happening
  | [] => []
  | .now name :: steps => .did name :: happeningsUntilPause steps
  | .defer t :: steps => .deferred t.name :: happeningsUntilPause steps
  | .pause :: _ => []

namespace Job

/-- What happens in the turn of a job: a task runs to its end, or a script up to its next pause. -/
def turn : Job → List Happening
  | task t => .ran t.name :: t.nested.map (fun u => .deferred u.name) ++ (t.failure.map .failed).toList
  | script steps => happeningsUntilPause steps

/-- What the turn of a job puts into the queue. -/
def next : Job → List Job
  | task t => t.nested.map task
  | script steps => jobsUntilPause steps

theorem workOf_next_lt (job : Job) :
  workOf job.next < job.size
  := by
  cases job with
  | task t =>
    rw [next, workOf_tasks, size, Task.size_eq]
    omega
  | script steps =>
    rw [next, workOf_jobsUntilPause, size]
    omega

end Job

/-- The turns of a loop until nothing waits. What has waited longest has the next turn. -/
def turns : List Job → List (List Happening)
  | [] => []
  | job :: queue => job.turn :: turns (queue ++ job.next)
termination_by queue => workOf queue
decreasing_by
  have hnext := job.workOf_next_lt
  rw [workOf_append, workOf]
  omega

/-- The event that a happening is. -/
def eventOf? : Happening → Option Event
  | .did name | .ran name => some (.ran name)
  | .deferred _ => none
  | .failed text => some (.failed text)

theorem filterMap_happeningsUntilPause (steps : List Step) :
  (happeningsUntilPause steps).filterMap eventOf? = eventsUntilPause steps
  := by
  induction steps with
  | nil => rfl
  | cons s steps ih =>
    cases s with
    | now name => simpa [happeningsUntilPause, eventsUntilPause, eventOf?] using ih
    | defer t => simpa [happeningsUntilPause, eventsUntilPause, List.filterMap_cons, eventOf?] using ih
    | pause => rfl

/-- Running a queue is taking its turns. -/
theorem run_eq_turns (queue : List Job) :
  run queue = (turns queue).flatten.filterMap eventOf?
  := by
  fun_induction run queue with
  | case1 => simp [turns]
  | case2 t queue ih =>
    rw [turns, ih]
    cases hfailure : t.failure <;>
      simp [Job.turn, Job.next, eventsOf, eventOf?, hfailure, List.filterMap_map, Function.comp_def]
  | case3 steps queue ih =>
    rw [turns, ih]
    simp [Job.turn, Job.next, filterMap_happeningsUntilPause]

/-! ### Order within turns -/

/-- The names of the tasks that were started. -/
def ranIn (hs : List Happening) : List String :=
  hs.filterMap Happening.ran?

/-- The names of the tasks that were deferred. -/
def deferredIn (hs : List Happening) : List String :=
  hs.filterMap Happening.deferred?

/-- The task that a job is. -/
def Job.task? : Job → Option Task
  | task t => some t
  | script _ => none

/-- The names of the tasks that wait in a queue. -/
def waitingNames (queue : List Job) : List String :=
  (queue.filterMap Job.task?).map Task.name

@[simp] theorem ranIn_append (hs hs' : List Happening) :
  ranIn (hs ++ hs') = ranIn hs ++ ranIn hs'
  := by
  apply List.filterMap_append

@[simp] theorem deferredIn_append (hs hs' : List Happening) :
  deferredIn (hs ++ hs') = deferredIn hs ++ deferredIn hs'
  := by
  apply List.filterMap_append

@[simp] theorem waitingNames_append (queue queue' : List Job) :
  waitingNames (queue ++ queue') = waitingNames queue ++ waitingNames queue'
  := by
  simp [waitingNames]

/-- Up to its next pause a script starts no task, and what it defers waits then. -/
theorem ranIn_happeningsUntilPause (steps : List Step) :
  ranIn (happeningsUntilPause steps) = []
    ∧ deferredIn (happeningsUntilPause steps) = waitingNames (jobsUntilPause steps)
  := by
  induction steps with
  | nil => exact ⟨rfl, rfl⟩
  | cons s steps ih =>
    obtain ⟨hran, hdeferred⟩ := ih
    cases s with
    | now name => exact ⟨hran, hdeferred⟩
    | defer t => exact ⟨hran, congrArg (t.name :: ·) hdeferred⟩
    | pause => exact ⟨rfl, rfl⟩

/-- A turn starts the task whose turn it is. -/
theorem Job.ranIn_turn (job : Job) :
  ranIn job.turn = waitingNames [job]
  := by
  cases job with
  | task t =>
    cases hfailure : t.failure <;>
      simp [turn, ranIn, waitingNames, Happening.ran?, task?, hfailure, List.filterMap_map, Function.comp_def]
  | script steps => apply (ranIn_happeningsUntilPause steps).1

/-- What a turn defers waits when the turn is over. -/
theorem Job.deferredIn_turn (job : Job) :
  deferredIn job.turn = waitingNames job.next
  := by
  cases job with
  | task t =>
    cases hfailure : t.failure <;>
      simp [turn, next, deferredIn, waitingNames, List.filterMap_cons, Happening.deferred?, task?, hfailure,
        List.filterMap_map, Function.comp_def]
  | script steps => apply (ranIn_happeningsUntilPause steps).2

/-- The tasks that wait run first, and then those that are deferred, in their order. -/
theorem ranIn_turns (queue : List Job) :
  ranIn (turns queue).flatten = waitingNames queue ++ deferredIn (turns queue).flatten
  := by
  fun_induction turns queue with
  | case1 => rfl
  | case2 job queue ih =>
    have hcons : waitingNames (job :: queue) = waitingNames [job] ++ waitingNames queue :=
      waitingNames_append [job] queue
    simp [hcons, ih, job.ranIn_turn, job.deferredIn_turn]

/-- What was started before the end of a turn waited at first or was deferred in the turns before it. -/
theorem ranIn_take_turns_prefix (queue : List Job) (n : Nat) :
  ranIn ((turns queue).take (n + 1)).flatten
    <+: waitingNames queue ++ deferredIn ((turns queue).take n).flatten
  := by
  induction n generalizing queue with
  | zero =>
    cases queue with
    | nil => simp [turns, ranIn]
    | cons job queue =>
      have hcons : waitingNames (job :: queue) = waitingNames [job] ++ waitingNames queue :=
        waitingNames_append [job] queue
      simp [turns, job.ranIn_turn, hcons]
  | succ n ih =>
    cases queue with
    | nil => simp [turns, ranIn]
    | cons job queue =>
      have hcons : waitingNames (job :: queue) = waitingNames [job] ++ waitingNames queue :=
        waitingNames_append [job] queue
      rw [turns, List.take_succ_cons, List.take_succ_cons, List.flatten_cons, List.flatten_cons,
        ranIn_append, deferredIn_append, job.ranIn_turn, job.deferredIn_turn, hcons, List.append_assoc,
        List.prefix_append_right_inj]
      simpa using ih (queue ++ job.next)

/-! ### Every task once -/

/-- The task that a step of a script defers. -/
def Step.task? : Step → Option Task
  | defer t => some t
  | _ => none

/-- The tasks that a job is or defers. -/
def Job.tasks : Job → List Task
  | task t => [t]
  | script steps => steps.filterMap Step.task?

/-- A pause takes nothing away from what a script defers. -/
theorem flatMap_tasks_jobsUntilPause (steps : List Step) :
  (jobsUntilPause steps).flatMap Job.tasks = steps.filterMap Step.task?
  := by
  induction steps with
  | nil => rfl
  | cons s steps ih =>
    cases s with
    | now name => apply ih
    | defer t => exact congrArg (t :: ·) ih
    | pause => simp [jobsUntilPause, List.filterMap_cons, Step.task?, Job.tasks]

/-- The tasks that a job brings about are the one whose turn it is and those that it leaves behind. -/
theorem Job.flatMap_names_tasks (job : Job) :
  job.tasks.flatMap Task.names = waitingNames [job] ++ (job.next.flatMap tasks).flatMap Task.names
  := by
  cases job with
  | task t => simp [tasks, next, waitingNames, task?, Task.names_eq t, List.flatMap_map]
  | script steps => simp [tasks, next, waitingNames, task?, flatMap_tasks_jobsUntilPause]

/-- Every task that a queue brings about runs once. -/
theorem ranIn_turns_perm (queue : List Job) :
  (ranIn (turns queue).flatten).Perm ((queue.flatMap Job.tasks).flatMap Task.names)
  := by
  fun_induction turns queue with
  | case1 => apply List.Perm.refl
  | case2 job queue ih =>
    calc ranIn (job.turn :: turns (queue ++ job.next)).flatten
      _ = waitingNames [job] ++ ranIn (turns (queue ++ job.next)).flatten := by simp [job.ranIn_turn]
      List.Perm _ (waitingNames [job] ++ ((queue ++ job.next).flatMap Job.tasks).flatMap Task.names) :=
        ih.append_left _
      List.Perm _ (waitingNames [job] ++ ((job.next ++ queue).flatMap Job.tasks).flatMap Task.names) := by
        apply List.Perm.append_left
        apply List.Perm.flatMap_right
        apply List.Perm.flatMap_right
        apply List.perm_append_comm
      _ = ((job :: queue).flatMap Job.tasks).flatMap Task.names := by
        simp [job.flatMap_names_tasks]

/-- In a loop, wherever a script pauses, tasks run in the order in which they were deferred, and every
task that the script brings about runs once, whether tasks fail or not. No task starts in the turn that
defers it: what has started when a turn is over was deferred in the turns before. -/
structure RunsInOrder (steps : List Step) : Prop where
  turns : runWithin steps = (turns [.script steps]).flatten.filterMap eventOf?
  order : ranIn (Deferred.turns [.script steps]).flatten = deferredIn (Deferred.turns [.script steps]).flatten
  once : (ranIn (Deferred.turns [.script steps]).flatten).Perm
    ((steps.filterMap Step.task?).flatMap Task.names)
  later : ∀ n, ranIn ((Deferred.turns [.script steps]).take (n + 1)).flatten
    <+: deferredIn ((Deferred.turns [.script steps]).take n).flatten

/-- Every script runs its tasks in order in a loop. -/
theorem runsInOrder (steps : List Step) :
  RunsInOrder steps
  where
  turns := run_eq_turns _
  order := ranIn_turns _
  once := by simpa [Job.tasks] using ranIn_turns_perm [.script steps]
  later := ranIn_take_turns_prefix _

/-- A task that fails has deferred another one before, which runs behind what waits. -/
example :
  ranNames (runWithin [.defer (.mk "first" [.leaf "third"] (some "broken")), .defer (.leaf "second"), .pause])
    = ["first", "second", "third"]
  := by
  cbv

end Deferred

/-! ### The worker behind its script -/

namespace Background

/-- The names of the tasks in the order in which a loop runs those that wait for the worker and then those
that the one that runs has still to defer. -/
def Tasks.loopNames (s : Tasks) : List String :=
  Deferred.ranIn (Deferred.turns ((s.waiting ++ s.unscheduled).map .task)).flatten

/-- When the script defers nothing more, a move keeps to the order of the loop. -/
theorem Tasks.Moves.loopNames_eq {s s' : Tasks} (h : s.Moves s') (hcoming : s.coming = []) :
  s'.coming = [] ∧ s'.ran ++ s'.loopNames = s.ran ++ s.loopNames
  := by
  cases h with
  | stayed => exact ⟨hcoming, rfl⟩
  | deferred next => simp [hcoming] at next
  | @started t later idle first =>
    use hcoming
    -- The turn of the first task starts it, and puts those that it defers behind the others.
    simp [loopNames, idle, first, Deferred.turns, Deferred.Job.ranIn_turn, Deferred.waitingNames,
      Deferred.Job.task?, Deferred.Job.next]
  | scheduled next =>
    use hcoming
    simp [loopNames, next]

/-- A worker that goes on alone keeps to the order of the loop. -/
theorem loopNames_eq_of_reaches {b b' : Background} (h : Relation.ReflTransGen Step b b')
    (hcoming : b.tasks.coming = []) :
  b'.tasks.coming = [] ∧ b'.ranNames ++ b'.tasks.loopNames = b.ranNames ++ b.tasks.loopNames
  := by
  induction h with
  | refl => exact ⟨hcoming, rfl⟩
  | tail _ hstep ih =>
    obtain ⟨hcoming', hnames⟩ := ih
    obtain ⟨hcoming'', hmove⟩ := hstep.moves.loopNames_eq hcoming'
    exact ⟨hcoming'', hmove.trans hnames⟩

end Background

namespace Deferred

/-- The instruction that a step of a script is where there is no loop. -/
def Step.instruction? : Step → Option Instruction
  | now name => some (.now name)
  | defer t => some (.defer t)
  | pause => none

theorem filterMap_instruction? (steps : List Step) :
  (steps.filterMap Step.instruction?).filterMap Instruction.task? = steps.filterMap Step.task?
  := by
  have htask : (fun s => (Step.instruction? s).bind Instruction.task?) = Step.task? := by
    funext s
    cases s <;> rfl
  rw [List.filterMap_filterMap, htask]

/-- Without a pause a script puts what it defers into the queue, and nothing else. -/
theorem jobsUntilPause_of_notMem {steps : List Step} (h : .pause ∉ steps) :
  jobsUntilPause steps = (steps.filterMap Step.task?).map .task
  := by
  induction steps with
  | nil => rfl
  | cons s steps ih =>
    have hsteps := ih (fun hmem => h (List.mem_cons_of_mem _ hmem))
    cases s with
    | now name => exact hsteps
    | defer t => exact congrArg (.task t :: ·) hsteps
    | pause => simp at h

/-- In a loop tasks run in the order in which they do behind the script, which is that of any run of the
script and its worker in which the worker starts when the script is at its end. -/
structure SameOrder (steps : List Step) : Prop where
  behind : runBehind steps = runWithin steps
  worker : ∀ b b', Relation.ReflTransGen Background.Step (.start (steps.filterMap Step.instruction?)) b →
    b.script = [] → b.ranNames = [] → Relation.ReflTransGen Background.Step b b' →
    (∀ b'', ¬ Background.Step b' b'') → b'.ranNames = ranIn (turns [.script steps]).flatten

/-- A script without pauses gives the same order on both ways. -/
theorem sameOrder {steps : List Step} (h : .pause ∉ steps) :
  SameOrder steps
  where
  behind := by
    have hunpaused : steps.filter (fun s => !s.isPause) = steps := by
      apply List.filter_eq_self.mpr
      rintro (_ | _ | _) hs
      · rfl
      · rfl
      · contradiction
    rw [runBehind, runWithin, hunpaused, run, List.nil_append]
  worker := by
    intro b b' hb hscript hran hb' hstuck
    obtain ⟨-, -, hunstarted⟩ := Background.accounted_of_reaches hb
    obtain ⟨hunscheduled, hwaiting⟩ := hunstarted hran
    have hcoming : b.tasks.coming = [] := by simp [Background.tasks, hscript]
    have hbarrier := Background.hasBarrier_of_reaches (hb.trans hb')
    obtain ⟨-, -, hqueue, hrunning⟩ := hbarrier.eq_of_stuck hstuck
    obtain ⟨-, hnames⟩ := Background.loopNames_eq_of_reaches hb' hcoming
    have hrest : b'.tasks.loopNames = [] := by
      simp [Background.Tasks.loopNames, Background.tasks, hqueue, hrunning, turns, ranIn]
    rw [hcoming, List.append_nil, filterMap_instruction?] at hwaiting
    rw [hrest, hran, List.append_nil, List.nil_append, Background.Tasks.loopNames, hunscheduled, hwaiting,
      List.append_nil, ← jobsUntilPause_of_notMem h] at hnames
    rw [hnames, turns, List.flatten_cons, ranIn_append, Job.ranIn_turn]
    rfl

/-- Deferred tasks run once and in the order in which they were deferred: by a worker beside the script
that defers them, and in a loop. Where the script does not pause, the two orders are one when the worker
starts behind the script. -/
theorem tasks_run_in_order (script : List Instruction) (steps : List Step) :
  Background.RunsInOrder script ∧ RunsInOrder steps ∧ (.pause ∉ steps → SameOrder steps)
  := by
  use Background.runsInOrder script, runsInOrder steps
  apply sameOrder

end Deferred

end Diagnostics
