import Diagnostics.Log.Notice
import Diagnostics.Value

/-!
# Reporters

A reporter takes lines of text. On the main thread it writes them to a console; a
worker thread that has a channel to its owner posts them there, and the owner drains
the channel. `Reporting` is the state of both: the reporter installed on each thread,
and the messages waiting in the channel.
-/

namespace Diagnostics

/-- The threads of a program. -/
inductive Thread
  | main
  | worker (n : Nat)
deriving DecidableEq, Repr

/-- The consoles that reporters write to. -/
inductive ConsoleName
  /-- The console that a reporter makes for itself. -/
  | standard
  /-- The console that several reporters share. -/
  | shared
deriving DecidableEq, Repr

/-- Where lines of text go. -/
inductive Reporter
  | console (c : ConsoleName)
  /-- The channel to the owner. -/
  | channel
  /-- A collection with a name. -/
  | collection (name : String)
deriving DecidableEq, Repr

/-- The reporter for a thread: off the main thread the channel, if there is one, and otherwise a
console. -/
def Reporter.select (thread : Thread) (hasChannel : Bool) (c : ConsoleName) : Reporter :=
  match thread with
  | .main => .console c
  | .worker _ => if hasChannel then .channel else .console c

/-- Something that a call is given, and whether it counts as true at that moment; an empty collection, say,
does not. -/
structure Offer (α : Type) where
  given : α
  isTrue : Bool := true
deriving DecidableEq, Repr

/-- What a call makes use of: what it is given, unless that counts as false. -/
def Offer.heeded? {α : Type} (offer : Option (Offer α)) : Option α :=
  (offer.filter isTrue).map given

/-- A line of text that has reached its end. -/
inductive Delivery
  | printed (c : ConsoleName) (text : String)
  | collected (name text : String)
deriving DecidableEq, Repr

namespace Message

/-- The message that asks the owner of a channel to print a text. -/
def ofText (text : String) : Value String :=
  .object [("type", .text "console"), ("payload", .text text)]

/-- The text of a message that asks for printing: its payload as plain text, empty when there is
none. -/
def textOf : Members String → Option String
  | ms =>
    match Members.get? "type" ms with
    | some (.text "console") => some (((Members.get? "payload" ms).map Value.plain).getD "")
    | _ => none

/-- The text that a message asks to print, when it is such a message. -/
def text? : Value String → Option String
  | .object ms => textOf ms
  | _ => none

/-- The notice on a message that asks for nothing known. -/
def skipped (v : Value String) : Log.Notice :=
  ⟨Log.warning, "Skipping unexpected channel message: " ++ v.literal⟩

end Message

/-- The reporters installed on the threads and the messages in the channel. -/
structure Reporting where
  installed : Thread → Option Reporter := fun _ => none
  channel : List (Value String) := []

namespace Reporting

/-- Installs a reporter on a thread, or takes it away. -/
def install (s : Reporting) (thread : Thread) (r : Option Reporter) : Reporting :=
  { s with installed := fun other => if other = thread then r else s.installed other }

/-- The reporter of a thread. Where none is installed it is a console. -/
def current (s : Reporting) (thread : Thread) : Reporter :=
  (s.installed thread).getD (.select thread false .standard)

/-- Asks for the reporter of a thread, which stays installed from then on. -/
def get (s : Reporting) (thread : Thread) : Reporting :=
  s.install thread (some (s.current thread))

/-- Puts a message into the channel. -/
def put (s : Reporting) (v : Value String) : Reporting :=
  { s with channel := s.channel ++ [v] }

/-- What a reporter delivers for a text; what goes into the channel is not delivered yet. -/
def deliveries (r : Reporter) (text : String) : List Delivery :=
  match r with
  | .console c => [.printed c text]
  | .collection name => [.collected name text]
  | .channel => []

/-- Reports a text through a reporter. -/
def report (s : Reporting) (r : Reporter) (text : String) : Reporting :=
  match r with
  | .channel => s.put (Message.ofText text)
  | .console _ | .collection _ => s

/-- The reporter that a text logged on a thread goes to, one that is offered or that of the thread. -/
def target (s : Reporting) (thread : Thread) (offer : Option (Offer Reporter)) : Reporter :=
  (Offer.heeded? offer).getD (s.current thread)

/-- Logs a text on a thread. -/
def log (s : Reporting) (thread : Thread) (offer : Option (Offer Reporter)) (text : String) : Reporting :=
  match Offer.heeded? offer with
  | some r => s.report r text
  | none => (s.get thread).report (s.current thread) text

/-- The first message of the channel, and the state without it. -/
def take? (s : Reporting) : Option (Value String × Reporting) :=
  match s.channel with
  | [] => none
  | v :: vs => some (v, { s with channel := vs })

/-- The texts that the messages in the channel ask to print, in their order. -/
def waiting (s : Reporting) : List String :=
  s.channel.filterMap Message.text?

/-- Takes all messages out of the channel and reports their texts. -/
def drain (s : Reporting) (r : Reporter) : Reporting :=
  s.waiting.foldl (fun s text => s.report r text) { s with channel := [] }

/-- The notices on messages in the channel that ask for nothing known. -/
def drainNotices (s : Reporting) : List Log.Notice :=
  (s.channel.filter fun v => (Message.text? v).isNone).map Message.skipped

end Reporting

end Diagnostics
