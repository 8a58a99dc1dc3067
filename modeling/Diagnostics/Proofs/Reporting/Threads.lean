import Diagnostics.Reporting.Threads
import Mathlib.Data.List.Forall2
import Mathlib.Data.List.Induction
import Mathlib.Tactic.Common

/-!
# Threads do not see each other's reporters

What a thread has is its reporter and the number of those that it has made for itself. A call
of another thread leaves that alone (`Threads.agrees_step_of_ne`), and a call of the thread
itself depends on nothing else (`Threads.Agrees.step`). So the calls of a thread come to the
reporters to which they would come without the other threads (`Threads.usedIn_filter`). A call
that makes use of a reporter it is offered leaves alone what any thread has
(`Threads.agrees_step_of_isDirected`). Until something is installed on a thread its reporter stays the same (`Threads.current_run`), and
each text that is logged reaches one reporter (`Threads.reporters_isolated`).
-/

namespace Diagnostics

/-- A thread is given the channel exactly when it is not the main one and there is a channel. -/
theorem Reporter.select_eq_channel_iff {thread : Thread} {hasChannel : Bool} {c : ConsoleName} :
  select thread hasChannel c = .channel ↔ thread ≠ .main ∧ hasChannel = true
  := by
  cases thread with
  | main => simp [select]
  | worker n => cases hasChannel <;> simp [select]

/-- The reporters that threads make for themselves write to the standard console. -/
theorem Handle.reporter_own (thread : Thread) (earlier : Nat) :
  (own thread earlier).reporter = .console .standard
  := by
  cases thread <;> rfl

namespace Threads

/-! ### Kinds of calls -/

namespace Call

/-- What the call installs on a thread, where taking a reporter away installs none. -/
def installedOn? (thread : Thread) (c : Call) : Option (Option Handle) :=
  match c.act with
  | .install h => if c.thread = thread then some h else none
  | _ => none

/-- The call needs the reporter of its thread. -/
def asks (c : Call) : Bool :=
  match c.act with
  | .install _ => false
  | .get => true
  | .log offer _ => (Offer.heeded? offer).isNone

/-- The call logs a text to a reporter that it is offered. -/
def isDirected (c : Call) : Bool :=
  match c.act with
  | .log offer _ => (Offer.heeded? offer).isSome
  | _ => false

/-- The call logs a text. -/
def isLog (c : Call) : Bool :=
  match c.act with
  | .log _ _ => true
  | _ => false

end Call

/-- The reporter that calls have installed last on a thread; none when there is no such call, or when the
last one takes the reporter away. -/
def lastInstalled (thread : Thread) (calls : List Call) : Option Handle :=
  (calls.filterMap (Call.installedOn? thread)).getLast?.join

/-- A call that logs a text, and the reporter that it comes to takes the text. -/
inductive Delivers : Call × Option Handle → Handle × String → Prop
  | log {thread : Thread} {offer : Option (Offer Handle)} {h : Handle} {text : String} :
      Delivers (⟨thread, .log offer text⟩, some h) (h, text)

/-- What reaches the channel when a reporter takes a text. -/
def posted (x : Handle × String) : List (Value String) :=
  if x.1.reporter = .channel then [Message.ofText x.2] else []

variable {s s' : Threads} {thread : Thread} {c : Call} {calls : List Call}

/-- A call that needs the reporter of its thread comes to it. -/
theorem uses_of_asks (h : c.asks = true) :
  s.uses c = some (s.current c.thread)
  := by
  obtain ⟨thread, act⟩ := c
  cases act with
  | install given => contradiction
  | get => rfl
  | log offer text =>
    have hnone : Offer.heeded? offer = none := by simpa [Call.asks] using h
    simp [uses, hnone]

/-- Such a call installs nothing. -/
theorem installedOn?_of_asks (h : c.asks = true) (thread : Thread) :
  c.installedOn? thread = none
  := by
  obtain ⟨other, act⟩ := c
  cases act with
  | install given => contradiction
  | get => rfl
  | log offer text => rfl

/-! ### Offers -/

section Offer

variable {offer : Option (Offer Handle)} {h : Handle} {text : String}

/-- A call that is offered a reporter which counts as true comes to that one. -/
theorem uses_of_heeded (hoffer : Offer.heeded? offer = some h) :
  s.uses ⟨thread, .log offer text⟩ = some h
  := by
  simp [uses, hoffer]

theorem step_of_heeded (hoffer : Offer.heeded? offer = some h) :
  s.step ⟨thread, .log offer text⟩ = s.report h text
  := by
  simp [step, hoffer]

/-- Without an offer to make use of, the text goes to the reporter of the thread. -/
theorem step_of_unheeded (hoffer : Offer.heeded? offer = none) :
  s.step ⟨thread, .log offer text⟩ = (s.settle thread).report (s.current thread) text
  := by
  simp [step, hoffer]

end Offer

/-! ### What a thread has -/

/-- The thread has the same in both states. -/
structure Agrees (thread : Thread) (s s' : Threads) : Prop where
  installed : s'.installed thread = s.installed thread
  made : s'.made thread = s.made thread

namespace Agrees

theorem refl (thread : Thread) (s : Threads) :
  Agrees thread s s
  := ⟨rfl, rfl⟩

theorem symm (h : Agrees thread s s') :
  Agrees thread s' s
  := ⟨h.installed.symm, h.made.symm⟩

theorem trans {s'' : Threads} (h : Agrees thread s s') (h' : Agrees thread s' s'') :
  Agrees thread s s''
  := ⟨h'.installed.trans h.installed, h'.made.trans h.made⟩

theorem current_eq (h : Agrees thread s s') :
  s'.current thread = s.current thread
  := by
  rw [current, current, h.installed, h.made]

/-- A call of the thread comes to the same reporter. -/
theorem uses_eq (h : Agrees c.thread s s') :
  s'.uses c = s.uses c
  := by
  rw [uses, uses, h.current_eq]

theorem install (h : Agrees thread s s') (given : Option Handle) :
  Agrees thread (s.install thread given) (s'.install thread given)
  where
  installed := by simp [Threads.install]
  made := h.made

theorem settle (h : Agrees thread s s') :
  Agrees thread (s.settle thread) (s'.settle thread)
  := by
  unfold Threads.settle
  rw [h.installed]
  cases s.installed thread with
  | some given => apply h
  | none =>
    constructor
    · simp [Threads.install, h.current_eq]
    · simp [h.made]

/-- A call of the thread does the same to what the thread has. -/
theorem step (h : Agrees c.thread s s') :
  Agrees c.thread (s.step c) (s'.step c)
  := by
  obtain ⟨thread, act⟩ := c
  cases act with
  | install given => apply h.install given
  | get => apply h.settle
  | log offer text =>
    cases hoffer : Offer.heeded? offer with
    | some given =>
      rw [step_of_heeded hoffer, step_of_heeded hoffer]
      exact ⟨h.installed, h.made⟩
    | none =>
      rw [step_of_unheeded hoffer, step_of_unheeded hoffer]
      exact ⟨h.settle.installed, h.settle.made⟩

end Agrees

/-- What other threads get for themselves leaves a thread alone. -/
theorem agrees_settle_of_ne {other : Thread} (h : other ≠ thread) (s : Threads) :
  Agrees thread s (s.settle other)
  := by
  unfold settle
  split
  · apply Agrees.refl
  · constructor
    · simp [install, h.symm]
    · simp [h.symm]

/-- A call of another thread leaves a thread alone. -/
theorem agrees_step_of_ne (h : c.thread ≠ thread) (s : Threads) :
  Agrees thread s (s.step c)
  := by
  obtain ⟨other, act⟩ := c
  have hsettle := agrees_settle_of_ne h s
  cases act with
  | install given =>
    constructor
    · simp [step, install, Ne.symm h]
    · rfl
  | get => apply hsettle
  | log offer text =>
    cases hoffer : Offer.heeded? offer with
    | some given =>
      rw [step_of_heeded hoffer]
      exact ⟨rfl, rfl⟩
    | none =>
      rw [step_of_unheeded hoffer]
      exact ⟨hsettle.installed, hsettle.made⟩

/-- The calls of a thread come to the reporters to which they come when no other thread makes a call. -/
theorem usedIn_filter (h : Agrees thread s s') (calls : List Call) :
  (usedIn s calls).filter (fun x => x.1.thread = thread)
    = usedIn s' (calls.filter fun c => c.thread = thread)
  := by
  induction calls generalizing s s' with
  | nil => rfl
  | cons c calls ih =>
    by_cases hc : c.thread = thread
    · subst hc
      simp [usedIn, h.uses_eq, ih h.step]
    · have hother := agrees_step_of_ne hc s
      simp [usedIn, hc, ih (hother.symm.trans h)]

/-! ### Calls that are offered a reporter -/

theorem run_cons (s : Threads) (c : Call) (calls : List Call) :
  s.run (c :: calls) = (s.step c).run calls
  := rfl

/-- A call that makes use of the reporter that it is offered leaves every thread alone. -/
theorem agrees_step_of_isDirected (h : c.isDirected = true) (s : Threads) (thread : Thread) :
  Agrees thread s (s.step c)
  := by
  obtain ⟨other, act⟩ := c
  cases act with
  | install given => contradiction
  | get => contradiction
  | log offer text =>
    obtain ⟨given, hgiven⟩ : ∃ given, Offer.heeded? offer = some given := Option.isSome_iff_exists.mp h
    rw [step_of_heeded hgiven]
    exact ⟨rfl, rfl⟩

/-- States in which all threads have the same are so after a call, too. -/
theorem agrees_step (h : ∀ thread, Agrees thread s s') (c : Call) (thread : Thread) :
  Agrees thread (s.step c) (s'.step c)
  := by
  by_cases hc : c.thread = thread
  · subst hc
    apply (h c.thread).step
  · have hs := agrees_step_of_ne hc s
    have hs' := agrees_step_of_ne hc s'
    apply (hs.symm.trans (h thread)).trans hs'

/-- All other calls come to the reporters to which they come when no call makes use of a reporter that it
is offered, and in the end the threads have the same. -/
theorem usedIn_undirected (h : ∀ thread, Agrees thread s s') (calls : List Call) :
  (usedIn s calls).filter (fun u => !u.1.isDirected) = usedIn s' (calls.filter fun c => !c.isDirected)
    ∧ ∀ thread, Agrees thread (s.run calls) (s'.run (calls.filter fun c => !c.isDirected))
  := by
  induction calls generalizing s s' with
  | nil => exact ⟨rfl, h⟩
  | cons c calls ih =>
    cases hc : c.isDirected with
    | true =>
      have hstep : ∀ thread, Agrees thread (s.step c) s' := fun thread =>
        (agrees_step_of_isDirected hc s thread).symm.trans (h thread)
      simpa [usedIn, run_cons, hc] using ih hstep
    | false =>
      obtain ⟨hused, hrun⟩ := ih (agrees_step h c)
      constructor
      · simp [usedIn, hc, (h c.thread).uses_eq, hused]
      · simpa [run_cons, hc] using hrun

/-! ### The reporter of a thread -/

theorem run_append (s : Threads) (calls calls' : List Call) :
  s.run (calls ++ calls') = (s.run calls).run calls'
  := List.foldl_append

/-- Settling what reporter a thread has does not change it. -/
theorem current_settle (s : Threads) (thread : Thread) :
  (s.settle thread).current thread = s.current thread
  := by
  unfold settle
  split
  · rfl
  · simp [current, install]

/-- A call that installs a reporter on a thread gives it to the thread, and one that takes it away leaves
the next that the thread makes for itself. -/
theorem current_step_of_installedOn? {given : Option Handle} (h : c.installedOn? thread = some given)
    (s : Threads) :
  (s.step c).current thread = given.getD (.own thread (s.made thread))
  := by
  obtain ⟨other, act⟩ := c
  cases act with
  | install installed =>
    obtain ⟨rfl, rfl⟩ : other = thread ∧ installed = given := by simpa [Call.installedOn?] using h
    simp [step, current, install]
  | get => contradiction
  | log offer text => contradiction

/-- A call that installs nothing on a thread leaves the thread its reporter. -/
theorem current_step (h : c.installedOn? thread = none) (s : Threads) :
  (s.step c).current thread = s.current thread
  := by
  by_cases hc : c.thread = thread
  · subst hc
    obtain ⟨thread, act⟩ := c
    cases act with
    | install given => simp [Call.installedOn?] at h
    | get => apply current_settle
    | log offer text =>
      cases hoffer : Offer.heeded? offer with
      | some given =>
        rw [step_of_heeded hoffer]
        rfl
      | none =>
        rw [step_of_unheeded hoffer]
        apply current_settle
  · apply (agrees_step_of_ne hc s).current_eq

/-- Until something is installed on a thread, the thread keeps its reporter. -/
theorem current_run (h : ∀ c ∈ calls, c.installedOn? thread = none) (s : Threads) :
  (s.run calls).current thread = s.current thread
  := by
  induction calls generalizing s with
  | nil => rfl
  | cons c calls ih =>
    obtain ⟨hc, hcalls⟩ := List.forall_mem_cons.mp h
    calc (s.run (c :: calls)).current thread
      _ = ((s.step c).run calls).current thread := by rw [run_cons]
      _ = (s.step c).current thread := ih hcalls _
      _ = s.current thread := current_step hc s

/-- The reporter of a thread is the one that was installed last, or one that the thread makes for itself
when there is none. -/
inductive Has (thread : Thread) (calls : List Call) : Handle → Prop
  | installed {h : Handle} (last : lastInstalled thread calls = some h) : Has thread calls h
  | own (none : lastInstalled thread calls = none) (earlier : Nat) : Has thread calls (.own thread earlier)

namespace Has

variable {h h' : Handle}

theorem eq_of_last (hhas : Has thread calls h) (hlast : lastInstalled thread calls = some h') :
  h = h'
  := by
  cases hhas with
  | installed last => apply Option.some.inj (last.symm.trans hlast)
  | own none earlier =>
    rw [none] at hlast
    contradiction

theorem reporter_eq (hhas : Has thread calls h) (hnone : lastInstalled thread calls = none) :
  h.reporter = .console .standard
  := by
  cases hhas with
  | installed last =>
    rw [last] at hnone
    contradiction
  | own none earlier => apply Handle.reporter_own

/-- A further call that installs nothing on the thread leaves the thread what it has. -/
theorem concat (hhas : Has thread calls h) (hc : c.installedOn? thread = none) :
  Has thread (calls ++ [c]) h
  := by
  have hlast : lastInstalled thread (calls ++ [c]) = lastInstalled thread calls := by
    simp [lastInstalled, hc]
  cases hhas with
  | installed last => exact .installed (hlast.trans last)
  | own none earlier => exact .own (hlast.trans none) earlier

end Has

/-- A thread has the reporter that was installed last, or one that it has made for itself. -/
theorem has_current_run (thread : Thread) (calls : List Call) :
  Has thread calls ((({} : Threads).run calls).current thread)
  := by
  induction calls using List.reverseRecOn with
  | nil => apply Has.own rfl
  | append_singleton calls c ih =>
    rw [run_append]
    change Has thread (calls ++ [c]) (((({} : Threads).run calls).step c).current thread)
    cases hc : c.installedOn? thread with
    | none =>
      rw [current_step hc]
      apply ih.concat hc
    | some given =>
      have hlast : lastInstalled thread (calls ++ [c]) = given := by simp [lastInstalled, hc]
      rw [current_step_of_installedOn? hc]
      cases given with
      | some h => exact .installed hlast
      | none => exact .own hlast _

/-! ### Deliveries -/

/-- Seeing to it that a thread has a reporter delivers nothing. -/
theorem taken_settle (s : Threads) (thread : Thread) :
  (s.settle thread).taken = s.taken ∧ (s.settle thread).channel = s.channel
  := by
  unfold settle
  split <;> exact ⟨rfl, rfl⟩

/-- A call that logs a text delivers it to one reporter. -/
theorem exists_delivers_step (h : c.isLog = true) (s : Threads) :
  ∃ x, Delivers (c, s.uses c) x ∧ (s.step c).taken = s.taken ++ [x]
    ∧ (s.step c).channel = s.channel ++ posted x
  := by
  obtain ⟨thread, act⟩ := c
  cases act with
  | install given => contradiction
  | get => contradiction
  | log offer text =>
    cases hoffer : Offer.heeded? offer with
    | some h =>
      rw [uses_of_heeded hoffer, step_of_heeded hoffer]
      exact ⟨_, .log, rfl, rfl⟩
    | none =>
      obtain ⟨htaken, hchannel⟩ := s.taken_settle thread
      rw [step_of_unheeded hoffer]
      use (s.current thread, text)
      simp [uses, hoffer, Delivers.log, report, posted, htaken, hchannel]

/-- Any other call delivers nothing. -/
theorem taken_step (h : c.isLog = false) (s : Threads) :
  (s.step c).taken = s.taken ∧ (s.step c).channel = s.channel
  := by
  obtain ⟨thread, act⟩ := c
  cases act with
  | install given => exact ⟨rfl, rfl⟩
  | get => apply taken_settle
  | log offer text => contradiction

/-- The texts that calls log are delivered one by one, in the order of the calls. -/
theorem exists_delivers_run (s : Threads) (calls : List Call) :
  ∃ xs, List.Forall₂ Delivers ((usedIn s calls).filter fun u => u.1.isLog) xs
    ∧ (s.run calls).taken = s.taken ++ xs ∧ (s.run calls).channel = s.channel ++ xs.flatMap posted
  := by
  induction calls generalizing s with
  | nil => exact ⟨[], .nil, by simp [run]⟩
  | cons c calls ih =>
    obtain ⟨xs, hxs, htaken, hchannel⟩ := ih (s.step c)
    rw [← run_cons] at htaken hchannel
    cases hc : c.isLog with
    | true =>
      obtain ⟨x, hx, hstep, hposted⟩ := s.exists_delivers_step hc
      use x :: xs
      and_intros
      · simpa [usedIn, hc] using ⟨hx, hxs⟩
      · simp [htaken, hstep]
      · simp [hchannel, hposted]
    | false =>
      obtain ⟨hstep, hposted⟩ := s.taken_step hc
      use xs
      and_intros
      · simpa [usedIn, hc] using hxs
      · rw [htaken, hstep]
      · rw [hchannel, hposted]

/-! ### Kinds of reporters -/

theorem forget_install (s : Threads) (thread : Thread) (given : Option Handle) :
  (s.install thread given).forget = s.forget.install thread (given.map Handle.reporter)
  := by
  simp only [forget, install, Reporting.install, Reporting.mk.injEq, and_true]
  funext other
  split <;> rfl

theorem reporter_current (s : Threads) (thread : Thread) :
  (s.current thread).reporter = s.forget.current thread
  := by
  unfold current Reporting.current forget
  cases h : s.installed thread with
  | none => simp [h, Handle.reporter]
  | some given => simp [h]

theorem forget_settle (s : Threads) (thread : Thread) :
  (s.settle thread).forget = s.forget.get thread
  := by
  rw [Reporting.get, ← reporter_current]
  unfold settle
  split
  · next given hgiven =>
    -- The reporter that is installed anew is the one that is there.
    simp only [forget, Reporting.install, Reporting.mk.injEq, and_true]
    funext other
    split
    · next hother => simp [current, hother, hgiven]
    · rfl
  · apply forget_install

theorem forget_report (s : Threads) (h : Handle) (text : String) :
  (s.report h text).forget = s.forget.report h.reporter text
  := by
  cases hkind : h.reporter <;> simp [report, forget, Reporting.report, Reporting.put, hkind]

/-- Whether an offer is made use of does not depend on what kind of reporter it is. -/
theorem heeded?_map_kind (offer : Option (Offer Handle)) :
  Offer.heeded? (offer.map Offer.kind) = (Offer.heeded? offer).map Handle.reporter
  := by
  rcases offer with _ | ⟨given, isTrue⟩
  · rfl
  · cases isTrue <;> rfl

/-- A call does to reporters what it does to their kinds. -/
theorem forget_step (s : Threads) (c : Call) :
  (s.step c).forget = s.forget.call c
  := by
  obtain ⟨thread, act⟩ := c
  cases act with
  | install given => apply forget_install
  | get => apply forget_settle
  | log offer text =>
    cases hoffer : Offer.heeded? offer with
    | some h =>
      simp only [step_of_heeded hoffer, Reporting.call, Reporting.log, heeded?_map_kind, hoffer]
      apply forget_report
    | none =>
      simp only [step_of_unheeded hoffer, Reporting.call, Reporting.log, heeded?_map_kind, hoffer]
      calc ((s.settle thread).report (s.current thread) text).forget
        _ = (s.settle thread).forget.report (s.current thread).reporter text := by rw [forget_report]
        _ = (s.forget.get thread).report (s.forget.current thread) text := by
          rw [forget_settle, reporter_current]

/-- So do several calls. -/
theorem forget_run (s : Threads) (calls : List Call) :
  (s.run calls).forget = calls.foldl Reporting.call s.forget
  := by
  induction calls generalizing s with
  | nil => rfl
  | cons c calls ih =>
    rw [List.foldl_cons, ← forget_step, ← ih, run_cons]

/-! ### Runs -/

/-- However the calls of any number of threads are put in order, the calls of one thread come to the same
reporters as without the calls of the others. A call that needs the reporter of its thread comes to the
one that was installed last on the thread, or else to a console reporter, and further such calls come to
the same until something is installed there. A call that is offered a reporter comes to that one when the
reporter counts as true, and does what it does without an offer when it counts as false. All other calls
come to the same reporters as without the calls of the first kind, and in the end the same reporters are
installed. Each text that is logged is delivered once, to the reporter that its call comes to, in the order of
the calls. As far as kinds of reporters go, the calls do what `Reporting.call` does. A reporter that is
selected for a thread posts to the channel exactly when the thread is not the main one and there is a
channel. -/
theorem reporters_isolated (calls : List Call) :
  (∀ thread, (usedIn {} calls).filter (fun u => u.1.thread = thread)
      = usedIn {} (calls.filter fun c => c.thread = thread))
    ∧ (∀ before c after, calls = before ++ c :: after → c.asks = true →
      ∃ h, (({} : Threads).run before).uses c = some h
        ∧ (∀ h', lastInstalled c.thread before = some h' → h = h')
        ∧ (lastInstalled c.thread before = none → h.reporter = .console .standard)
        ∧ ∀ between c' after', after = between ++ c' :: after' → c'.asks = true → c'.thread = c.thread →
          (∀ d ∈ between, d.installedOn? c.thread = none) →
          (({} : Threads).run (before ++ c :: between)).uses c' = some h)
    ∧ (∀ (s : Threads) thread h text, s.uses ⟨thread, .log (some ⟨h, true⟩) text⟩ = some h
      ∧ s.uses ⟨thread, .log (some ⟨h, false⟩) text⟩ = s.uses ⟨thread, .log none text⟩
      ∧ s.step ⟨thread, .log (some ⟨h, false⟩) text⟩ = s.step ⟨thread, .log none text⟩)
    ∧ ((usedIn {} calls).filter (fun u => !u.1.isDirected) = usedIn {} (calls.filter fun c => !c.isDirected)
      ∧ (({} : Threads).run calls).installed
        = (({} : Threads).run (calls.filter fun c => !c.isDirected)).installed)
    ∧ (List.Forall₂ Delivers ((usedIn {} calls).filter fun u => u.1.isLog) (({} : Threads).run calls).taken
      ∧ (({} : Threads).run calls).channel = (({} : Threads).run calls).taken.flatMap posted)
    ∧ (({} : Threads).run calls).forget = calls.foldl Reporting.call {}
    ∧ ∀ thread hasChannel c,
      Reporter.select thread hasChannel c = .channel ↔ thread ≠ .main ∧ hasChannel = true
  := by
  obtain ⟨xs, hxs, htaken, hchannel⟩ := exists_delivers_run {} calls
  rw [List.nil_append] at htaken hchannel
  obtain ⟨hused, hrun⟩ := usedIn_undirected (fun thread => .refl thread {}) calls
  and_intros
  · intro thread
    apply usedIn_filter (.refl thread _)
  · rintro before c after - hasks
    use (({} : Threads).run before).current c.thread, uses_of_asks hasks
    have hhas := has_current_run c.thread before
    use fun h' hlast => hhas.eq_of_last hlast, hhas.reporter_eq
    · rintro between c' after' - hasks' hthread hbetween
      rw [uses_of_asks hasks', hthread, run_append]
      congr 1
      apply current_run
      rw [List.forall_mem_cons]
      use installedOn?_of_asks hasks c.thread
  · intro s thread h text
    exact ⟨uses_of_heeded rfl, rfl, rfl⟩
  · apply hused
  · funext thread
    exact (hrun thread).installed.symm
  · rw [htaken]
    apply hxs
  · rw [htaken, hchannel]
  · apply forget_run
  · intro thread hasChannel c
    apply Reporter.select_eq_channel_iff

example :
  (usedIn {} [⟨.main, .get⟩, ⟨.worker 0, .install none⟩, ⟨.main, .get⟩, ⟨.main, .install none⟩, ⟨.main, .get⟩]).map
      Prod.snd
    = [some (.own .main 0), none, some (.own .main 0), none, some (.own .main 1)]
  := by decide

end Threads

end Diagnostics
