import Diagnostics.Reporting.Reporter

/-!
# Exchanges over the channel

Workers put messages into the channel while its owner drains it. A drain takes one message
at a time and reports its text before it takes the next, so other messages may come in
between. `Exchange` is the channel with the drains of its owner and everything that was put
into it, and `Exchange.Step` is one step of a worker or of the owner.
-/

namespace Diagnostics

/-- A drain of the channel. -/
structure Drain where
  /-- The reporter that texts go to. -/
  reporter : Reporter
  /-- The reporter does not put what it takes into the channel that is drained. -/
  away : reporter ≠ .channel
  /-- The text of a message that was taken and is not reported yet. -/
  inHand : Option String := none
  /-- The number that the drain returns in the end. -/
  count : Nat := 0
  /-- The texts that it has reported. -/
  texts : List String := []
  /-- The notices on messages that it has skipped. -/
  notices : List Log.Notice := []
deriving DecidableEq, Repr

/-- The channel between workers and their owner, with what happened to it. -/
structure Exchange where
  reporting : Reporting
  /-- The messages that were put into the channel, those that have been taken included. -/
  posted : List (Value String)
  /-- The drains that have returned. -/
  returned : List Drain := []
  /-- The drain that the owner is carrying out. -/
  current : Option Drain := none

namespace Exchange

/-- The start of an exchange with the messages that wait in the channel. -/
def ofReporting (s : Reporting) : Exchange :=
  { reporting := s, posted := s.channel }

/-- A worker reports a text through the channel. -/
def post (e : Exchange) (text : String) : Exchange :=
  { e with reporting := e.reporting.report .channel text, posted := e.posted ++ [Message.ofText text] }

/-- Somebody puts a message of any kind into the channel. -/
def put (e : Exchange) (v : Value String) : Exchange :=
  { e with reporting := e.reporting.put v, posted := e.posted ++ [v] }

/-- The owner starts a drain. -/
def call (e : Exchange) (r : Reporter) (h : r ≠ .channel) : Exchange :=
  { e with current := some { reporter := r, away := h } }

/-- The owner's next step in a drain: it reports the text in hand, or takes a message, or returns when
there is none. -/
def advance (e : Exchange) : Exchange :=
  match e.current with
  | none => e
  | some d =>
    match d.inHand with
    | some text =>
      { e with
        reporting := e.reporting.report d.reporter text
        current := some { d with inHand := none, count := d.count + 1, texts := d.texts ++ [text] } }
    | none =>
      match e.reporting.take? with
      | none => { e with current := none, returned := e.returned ++ [d] }
      | some (v, rest) =>
        match Message.text? v with
        | some text => { e with reporting := rest, current := some { d with inHand := some text } }
        | none =>
          { e with
            reporting := rest
            current := some { d with notices := d.notices ++ [Message.skipped v] } }

/-- One step of a worker or of the owner. -/
inductive Step (e : Exchange) : Exchange → Prop
  | post (text : String) : Step e (e.post text)
  | put (v : Value String) : Step e (e.put v)
  | call (r : Reporter) (away : r ≠ .channel) (idle : e.current = none) : Step e (e.call r away)
  | advance (draining : e.current ≠ none) : Step e e.advance

/-- The text that the owner has in hand. -/
def inHand (e : Exchange) : Option String :=
  e.current.bind Drain.inHand

/-- The texts that all drains have reported, in the order in which they did. -/
def reported (e : Exchange) : List String :=
  (e.returned ++ e.current.toList).flatMap Drain.texts

/-! ### Drains that nobody interrupts -/

/-- The number of steps that the drain under way takes when nothing is put into the channel. -/
def work (e : Exchange) : Nat :=
  match e.current with
  | none => 0
  | some d => 2 * e.reporting.channel.length + (if d.inHand.isSome then 1 else 0) + 1

/-- A reporter other than the channel leaves the state alone. -/
theorem report_eq_self {r : Reporter} (h : r ≠ .channel) (s : Reporting) (text : String) :
  s.report r text = s
  := by
  cases r with
  | channel => contradiction
  | console c => rfl
  | collection name => rfl

/-- Each step of a drain leaves less to do. -/
theorem work_advance_lt {e : Exchange} {d : Drain} (h : e.current = some d) :
  e.advance.work < e.work
  := by
  obtain ⟨⟨installed, channel⟩, posted, returned, current⟩ := e
  obtain rfl : current = some d := h
  unfold advance
  cases hhand : d.inHand with
  | some text => simp [work, hhand, report_eq_self d.away]
  | none =>
    cases channel with
    | nil => simp [work, hhand, Reporting.take?]
    | cons v vs =>
      cases htext : Message.text? v with
      | none => simp [work, hhand, Reporting.take?, htext]
      | some text =>
        simp [work, hhand, Reporting.take?, htext]
        omega

/-- Goes on with the drain under way until it returns. -/
def finish (e : Exchange) : Exchange :=
  match h : e.current with
  | none => e
  | some _ =>
    have := work_advance_lt h
    e.advance.finish
termination_by e.work

end Exchange

end Diagnostics
