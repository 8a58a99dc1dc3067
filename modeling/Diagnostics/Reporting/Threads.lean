import Diagnostics.Reporting.Reporter

/-!
# The reporters of several threads

Threads install reporters, ask for the one that they have and log texts, each in its own
time. A thread that has none makes a console reporter for itself and keeps it. `Threads`
is the state of all threads, in which two reporters of one kind are told apart, and
`Threads.step` is one call of one thread; `Threads.forget` is the state as far as kinds
of reporters go.
-/

namespace Diagnostics

/-- A reporter as one among others of its kind. -/
inductive Handle
  /-- A reporter that threads are given; the number tells it from others. -/
  | given (r : Reporter) (number : Nat)
  /-- The console reporter that a thread made for itself after `earlier` others. -/
  | own (thread : Thread) (earlier : Nat)
deriving DecidableEq, Repr

/-- What kind of reporter it is. -/
def Handle.reporter : Handle → Reporter
  | given r _ => r
  | own thread _ => .select thread false .standard

/-- The threads with their reporters. -/
structure Threads where
  installed : Thread → Option Handle := fun _ => none
  /-- The number of reporters that a thread has made for itself. -/
  made : Thread → Nat := fun _ => 0
  /-- The messages in the channel that all threads share. -/
  channel : List (Value String) := []
  /-- The texts that were reported, each with the reporter that took it. -/
  taken : List (Handle × String) := []

namespace Threads

/-- What a thread does. -/
inductive Act
  /-- Installs a reporter, or takes away the one that is installed. -/
  | install (h : Option Handle)
  /-- Asks for its reporter. -/
  | get
  /-- Logs a text, to a reporter that is offered or to its own. -/
  | log (offer : Option (Offer Handle)) (text : String)
deriving DecidableEq, Repr

/-- A call of a thread. -/
structure Call where
  thread : Thread
  act : Act
deriving DecidableEq, Repr

/-- The reporter of a thread; where none is installed, the next one that the thread makes for itself. -/
def current (s : Threads) (thread : Thread) : Handle :=
  (s.installed thread).getD (.own thread (s.made thread))

/-- Installs a reporter on a thread, or takes it away. -/
def install (s : Threads) (thread : Thread) (h : Option Handle) : Threads :=
  { s with installed := fun other => if other = thread then h else s.installed other }

/-- Sees to it that a thread has a reporter. -/
def settle (s : Threads) (thread : Thread) : Threads :=
  match s.installed thread with
  | some _ => s
  | none =>
    { s.install thread (some (s.current thread)) with
      made := fun other => if other = thread then s.made thread + 1 else s.made other }

/-- A reporter takes a text; one for the channel posts it. -/
def report (s : Threads) (h : Handle) (text : String) : Threads :=
  { s with
    channel := s.channel ++ if h.reporter = .channel then [Message.ofText text] else []
    taken := s.taken ++ [(h, text)] }

/-- The reporter that a call comes to: the one that is asked for, or the one that takes the text. -/
def uses (s : Threads) (c : Call) : Option Handle :=
  match c.act with
  | .install _ => none
  | .get => some (s.current c.thread)
  | .log offer _ => some ((Offer.heeded? offer).getD (s.current c.thread))

/-- Carries out a call. -/
def step (s : Threads) (c : Call) : Threads :=
  match c.act with
  | .install h => s.install c.thread h
  | .get => s.settle c.thread
  | .log offer text =>
    match Offer.heeded? offer with
    | some h => s.report h text
    | none => (s.settle c.thread).report (s.current c.thread) text

/-- Carries out the calls of all threads in the order in which they are made. -/
def run (s : Threads) (calls : List Call) : Threads :=
  calls.foldl step s

/-- The calls, each with the reporter that it comes to. -/
def usedIn (s : Threads) : List Call → List (Call × Option Handle)
  | [] => []
  | c :: calls => (c, s.uses c) :: usedIn (s.step c) calls

/-- The state without telling apart reporters of one kind. -/
def forget (s : Threads) : Reporting where
  installed thread := (s.installed thread).map Handle.reporter
  channel := s.channel

end Threads

/-- The offer of a reporter of the same kind. -/
def Offer.kind (offer : Offer Handle) : Offer Reporter :=
  ⟨offer.given.reporter, offer.isTrue⟩

/-- Carries out a call, with the kinds of its reporters. -/
def Reporting.call (s : Reporting) (c : Threads.Call) : Reporting :=
  match c.act with
  | .install h => s.install c.thread (h.map Handle.reporter)
  | .get => s.get c.thread
  | .log offer text => s.log c.thread (offer.map Offer.kind) text

end Diagnostics
