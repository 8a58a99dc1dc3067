import Diagnostics.Reporting.Worker
import Mathlib.Algebra.GroupWithZero.Nat
import Mathlib.Logic.Relation
import Mathlib.Tactic.Common

/-!
# What a worker prints

Each step of a script and its worker leaves less to do, so every run comes to an end
(`Background.wellFounded_step`). While a script defers tasks that schedule nothing and waits
for them, those that were started, those that wait for the worker and those that are still to
be deferred are together the tasks of the script, in their order (`Background.Printing`).
So whatever the order in which the two take their steps, all tasks have run when the script
has come to its end, whether some failed or not (`Background.printing_reaches`).
-/

namespace Diagnostics

/-! ### Work -/

/-- The number of steps that an instruction brings about. -/
def Instruction.work : Instruction → Nat
  | now _ => 1
  | defer t => 3 * t.size
  | wait => 2

/-- The number of steps that running an item brings about. -/
def Item.work : Item → Nat
  | task t => 3 * Task.sizeList t.nested + 2
  | barrier => 1

namespace Background

/-- The number of steps that are left. -/
def work (b : Background) : Nat :=
  (b.script.map Instruction.work).sum + (b.queue.map Item.work).sum
    + (b.running.map fun t => 3 * Task.sizeList t.nested + 1).getD 0

/-- Each step leaves less to do. -/
theorem Step.work_lt {b b' : Background} (h : Step b b') :
  b'.work < b.work
  := by
  cases h with
  | now next free => simp [work, next, Instruction.work]
  | defer next free =>
    simp [work, next, Instruction.work, Item.work, Task.size_eq]
    omega
  | wait next free =>
    simp [work, next, Instruction.work, Item.work]
    omega
  | start idle first =>
    simp [work, idle, first, Item.work]
    omega
  | release idle first => simp [work, idle, first, Item.work]
  | schedule runs =>
    simp [work, runs, Item.work, Task.nested, Task.sizeList, Task.size_eq]
    omega
  | finish runs => simp [work, runs]

/-- No run goes on for ever. -/
theorem wellFounded_step :
  WellFounded fun b' b : Background => Step b b'
  := by
  apply Subrelation.wf (r := fun b' b : Background => b'.work < b.work)
  · intro b' b h
    apply h.work_lt
  · apply (measure work).wf

/-! ### Printing -/

/-- The tasks schedule nothing when they run. -/
def IsFlat (tasks : List Task) : Prop :=
  ∀ t ∈ tasks, t.nested = []

/-- The moments of a script that defers tasks and waits. -/
inductive Printing (tasks : List Task) : Background → Prop
  /-- Some tasks wait for the worker, and others are still to be deferred. -/
  | deferring (started : List Task) {queued later : List Task} {running : Option Task} {history : List Happening}
      (order : started ++ queued ++ later = tasks)
      (ran : history.filterMap Happening.ran? = started.map Task.name)
      (flat : ∀ t ∈ running, t.nested = []) :
      Printing tasks
        { script := later.map .defer ++ [.wait]
          queue := queued.map .task
          running
          history }
  /-- The script waits for the worker to run the tasks in the queue. -/
  | waiting (started : List Task) {queued : List Task} {running : Option Task} {history : List Happening}
      (order : started ++ queued = tasks)
      (ran : history.filterMap Happening.ran? = started.map Task.name)
      (flat : ∀ t ∈ running, t.nested = []) :
      Printing tasks
        { script := []
          blocked := true
          queue := queued.map .task ++ [.barrier]
          running
          history }
  /-- All tasks have run. -/
  | past {history : List Happening} (ran : history.filterMap Happening.ran? = tasks.map Task.name) :
      Printing tasks { script := [], history }

/-- The beginning of the script. -/
theorem printing_printing (tasks : List Task) :
  Printing tasks (printing tasks)
  := by
  have hqueue : ([] : List Item) = ([] : List Task).map .task := rfl
  rw [printing, hqueue]
  apply Printing.deferring []
  · rfl
  · rfl
  · simp

/-- A step while the script defers. -/
theorem printing_of_step_deferring {tasks started queued later : List Task} {running : Option Task}
    {history : List Happening} {b : Background} (htasks : IsFlat tasks)
    (order : started ++ queued ++ later = tasks)
    (ran : history.filterMap Happening.ran? = started.map Task.name) (flat : ∀ t ∈ running, t.nested = [])
    (hstep : Step
      { script := later.map .defer ++ [.wait], queue := queued.map .task, running, history } b) :
  Printing tasks b
  := by
  cases hstep with
  | now next free => cases later <;> simp at next
  | defer next free =>
    cases later with
    | nil => simp at next
    | cons t later =>
      simp only [List.map_cons, List.cons_append, List.cons.injEq, Instruction.defer.injEq] at next
      obtain ⟨rfl, rfl⟩ := next
      have hqueue : queued.map Item.task ++ [.task t] = (queued ++ [t]).map .task := by simp
      simp only [hqueue]
      apply Printing.deferring started _ _ flat
      · simpa using order
      · simpa [List.filterMap_cons, Happening.ran?] using ran
  | wait next free =>
    cases later with
    | cons t later => simp at next
    | nil =>
      obtain ⟨-, rfl⟩ := List.cons.inj next
      apply Printing.waiting started _ ran flat
      simpa using order
  | @start t rest idle first =>
    cases queued with
    | nil => simp at first
    | cons _ queued =>
      obtain ⟨⟨⟩, rfl⟩ := List.cons.inj first
      apply Printing.deferring (started ++ [t])
      · simpa using order
      · simp [ran, Happening.ran?]
      · rintro _ ⟨⟩
        apply htasks
        simp [← order]
  | release idle first => cases queued <;> simp at first
  | schedule runs => simpa [Task.nested] using flat _ runs
  | @finish name failure runs =>
    apply Printing.deferring started order
    · cases failure <;> simp [ran, Happening.ran?]
    · simp

/-- A step while the script waits. -/
theorem printing_of_step_waiting {tasks started queued : List Task} {running : Option Task}
    {history : List Happening} {b : Background} (htasks : IsFlat tasks) (order : started ++ queued = tasks)
    (ran : history.filterMap Happening.ran? = started.map Task.name) (flat : ∀ t ∈ running, t.nested = [])
    (hstep : Step
      { script := [], blocked := true, queue := queued.map .task ++ [.barrier], running, history } b) :
  Printing tasks b
  := by
  cases hstep with
  | now next free => simp at next
  | defer next free => simp at next
  | wait next free => simp at next
  | @start t rest idle first =>
    cases queued with
    | nil => simp at first
    | cons _ queued =>
      obtain ⟨⟨⟩, rfl⟩ := List.cons.inj first
      apply Printing.waiting (started ++ [t])
      · simpa using order
      · simp [ran, Happening.ran?]
      · rintro _ ⟨⟩
        apply htasks
        simp [← order]
  | release idle first =>
    cases queued with
    | cons t queued => simp at first
    | nil =>
      obtain ⟨-, rfl⟩ := List.cons.inj first
      obtain rfl : running = none := idle
      obtain rfl : started = tasks := by simpa using order
      apply Printing.past ran
  | schedule runs => simpa [Task.nested] using flat _ runs
  | @finish name failure runs =>
    apply Printing.waiting started order
    · cases failure <;> simp [ran, Happening.ran?]
    · simp

/-- Each step of the script or the worker leads to the next moment. -/
theorem Printing.step {tasks : List Task} {b b' : Background} (h : Printing tasks b) (htasks : IsFlat tasks)
    (hstep : Step b b') :
  Printing tasks b'
  := by
  -- The worker takes the same steps while the script defers and while it waits; only the release of the
  -- barrier leads from there to the end, where nothing is left to do.
  cases h with
  | deferring started order ran flat => apply printing_of_step_deferring htasks order ran flat hstep
  | waiting started order ran flat => apply printing_of_step_waiting htasks order ran flat hstep
  | past ran =>
    cases hstep with
    | now next free => simp at next
    | defer next free => simp at next
    | wait next free => simp at next
    | start idle first => simp at first
    | release idle first => simp at first
    | schedule runs => simp at runs
    | finish runs => simp at runs

/-- A run of the script stays among these moments. -/
theorem printing_of_reaches {tasks : List Task} {b : Background} (htasks : IsFlat tasks)
    (h : Relation.ReflTransGen Step (printing tasks) b) :
  Printing tasks b
  := by
  induction h with
  | refl => apply printing_printing
  | tail _ hstep ih => apply ih.step htasks hstep

/-- When neither the script nor the worker can go on, the script has come to its end. -/
theorem Printing.isPast_of_stuck {tasks : List Task} {b : Background} (h : Printing tasks b)
    (hstuck : ∀ b', ¬ Step b b') :
  b.isPast = true
  := by
  cases h with
  | @deferring started queued later running history order ran flat =>
    cases later with
    | nil => apply absurd (Step.wait rfl rfl) (hstuck _)
    | cons t later => apply absurd (Step.defer rfl rfl) (hstuck _)
  | @waiting started queued running history order ran flat =>
    cases running with
    | some t =>
      obtain ⟨name, nested, failure⟩ := t
      obtain rfl : nested = [] := flat _ rfl
      apply absurd (Step.finish rfl) (hstuck _)
    | none =>
      cases queued with
      | nil => apply absurd (Step.release rfl rfl) (hstuck _)
      | cons t queued => apply absurd (Step.start rfl rfl) (hstuck _)
  | past ran => rfl

/-- A script that defers tasks which schedule nothing and waits runs them in their order, whatever the
order in which it and its worker take their steps: all of them have run when it has come to its end, which
is where every run stops. -/
theorem printing_reaches {tasks : List Task} {b : Background} (htasks : IsFlat tasks)
    (h : Relation.ReflTransGen Step (printing tasks) b) :
  b.ranNames <+: tasks.map Task.name
    ∧ (b.isPast = true → b.ranNames = tasks.map Task.name)
    ∧ ((∀ b', ¬ Step b b') → b.isPast = true)
  := by
  have hprinting := printing_of_reaches htasks h
  refine ⟨?_, ?_, hprinting.isPast_of_stuck⟩
  · cases hprinting with
    | deferring started order ran flat =>
      rw [← order, List.append_assoc, List.map_append, ranNames, ran]
      apply List.prefix_append
    | waiting started order ran flat =>
      rw [← order, List.map_append, ranNames, ran]
      apply List.prefix_append
    | past ran =>
      use []
      rw [ranNames, ran, List.append_nil]
  · intro hpast
    cases hprinting with
    | deferring started order ran flat => simp [isPast] at hpast
    | waiting started order ran flat => simp [isPast] at hpast
    | past ran => apply ran

end Background

/-! ### Running the queue afterwards -/

/-- Tasks that schedule nothing run in their order. -/
theorem Deferred.run_flat {tasks : List Task} (h : Background.IsFlat tasks) :
  run (tasks.map .task) = tasks.flatMap eventsOf
  := by
  induction tasks with
  | nil => simp [run]
  | cons t tasks ih =>
    obtain ⟨ht, htasks⟩ := List.forall_mem_cons.mp h
    rw [List.map_cons, run, ht, List.map_nil, List.append_nil, ih htasks, List.flatMap_cons]

end Diagnostics
