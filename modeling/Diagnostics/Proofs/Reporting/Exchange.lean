import Diagnostics.Reporting.Exchange
import Mathlib.Logic.Relation
import Mathlib.Tactic.Common

/-!
# Nothing is lost in an exchange

What the drains have reported, what the owner has in hand and what waits in the channel are
together the texts that were put into the channel, in their order (`Exchange.Accounted`). Each
step of workers and owner keeps this up (`Exchange.Accounted.step`), and so it holds after any
run (`Exchange.texts_accounted`). A drain that nobody interrupts does what `Reporting.drain`
does (`Exchange.finish_call`).
-/

namespace Diagnostics

/-! ### Messages -/

namespace Message

/-- The value is a message that asks to print the text: an object of the type `console` whose payload,
as plain text, is the text, which is empty when there is no payload. -/
def Asks (v : Value String) (text : String) : Prop :=
  ∃ ms : Members String, v = .object ms ∧ ms.get? "type" = some (.text "console")
    ∧ text = ((ms.get? "payload").map Value.plain).getD ""

/-- The text of a message is the one that it asks to print. -/
theorem text?_eq_some_iff {v : Value String} {text : String} :
  text? v = some text ↔ Asks v text
  := by
  unfold Asks
  cases v with
  | object ms =>
    simp only [text?, textOf, Value.object.injEq, ↓existsAndEq, true_and]
    split
    · next htype => simp [htype, eq_comm]
    · next htype =>
      constructor
      · intro h
        contradiction
      · rintro ⟨h, -⟩
        exact absurd h htype
  | _ => simp [text?]

/-- The message of a worker asks to print the worker's text. -/
theorem text?_ofText (text : String) :
  text? (ofText text) = some text
  := by
  apply text?_eq_some_iff.mpr
  exact ⟨_, rfl, rfl, rfl⟩

end Message

/-! ### The channel -/

namespace Reporting

/-- What is put into the channel waits behind the rest. -/
theorem waiting_put (s : Reporting) (v : Value String) :
  (s.put v).waiting = s.waiting ++ (Message.text? v).toList
  := by
  simp only [waiting, put, List.filterMap_append]
  cases h : Message.text? v <;> simp [h]

/-- The message that is taken was the first. -/
theorem waiting_of_take? {s rest : Reporting} {v : Value String} (h : s.take? = some (v, rest)) :
  s.waiting = (Message.text? v).toList ++ rest.waiting
  := by
  obtain ⟨installed, channel⟩ := s
  cases channel with
  | nil => contradiction
  | cons first channel =>
    cases h
    cases h : Message.text? v <;> simp [waiting, h]

/-- When no message can be taken the channel is empty. -/
theorem channel_of_take? {s : Reporting} (h : s.take? = none) :
  s.channel = []
  := by
  obtain ⟨installed, channel⟩ := s
  cases channel with
  | nil => rfl
  | cons v channel => contradiction

/-- Draining the channel through another reporter only empties it. -/
theorem drain_eq {r : Reporter} (h : r ≠ .channel) (s : Reporting) :
  s.drain r = { s with channel := [] }
  := by
  unfold drain
  induction s.waiting with
  | nil => rfl
  | cons text texts ih => rw [List.foldl_cons, Exchange.report_eq_self h, ih]

end Reporting

namespace Exchange

/-! ### Steps -/

/-- What the next step of a drain is. -/
inductive Advanced (e : Exchange) (d : Drain) : Exchange → Prop
  /-- The text in hand is reported. -/
  | reported {text : String} (hand : d.inHand = some text) :
      Advanced e d
        { e with current := some { d with inHand := none, count := d.count + 1, texts := d.texts ++ [text] } }
  /-- The channel is empty, and the drain returns. -/
  | returned (hand : d.inHand = none) (empty : e.reporting.channel = []) :
      Advanced e d { e with current := none, returned := e.returned ++ [d] }
  /-- A message that asks for printing is taken. -/
  | taken {v : Value String} {rest : Reporting} {text : String} (hand : d.inHand = none)
      (first : e.reporting.take? = some (v, rest)) (asks : Message.text? v = some text) :
      Advanced e d { e with reporting := rest, current := some { d with inHand := some text } }
  /-- Any other message is skipped. -/
  | skipped {v : Value String} {rest : Reporting} (hand : d.inHand = none)
      (first : e.reporting.take? = some (v, rest)) (other : Message.text? v = none) :
      Advanced e d
        { e with
          reporting := rest
          current := some { d with notices := d.notices ++ [Message.skipped v] } }

/-- The next step of a drain is one of these. -/
theorem advanced {e : Exchange} {d : Drain} (h : e.current = some d) :
  Advanced e d e.advance
  := by
  unfold advance
  simp only [h]
  split
  · next hhand =>
    rw [report_eq_self d.away]
    apply Advanced.reported hhand
  · next hhand =>
    split
    · next hfirst => apply Advanced.returned hhand (Reporting.channel_of_take? hfirst)
    · next hfirst =>
      split
      · next hasks => apply Advanced.taken hhand hfirst hasks
      · next hother => apply Advanced.skipped hhand hfirst hother

/-- Everything that was put into the channel is accounted for. -/
structure Accounted (e : Exchange) : Prop where
  /-- The texts reported, in hand and waiting are those put into the channel, in their order. -/
  texts : e.reported ++ e.inHand.toList ++ e.reporting.waiting = e.posted.filterMap Message.text?
  /-- Each drain has counted the texts that it has reported. -/
  count : ∀ d ∈ e.returned ++ e.current.toList, d.count = d.texts.length

/-- At the start everything waits. -/
theorem accounted_ofReporting (s : Reporting) :
  Accounted (ofReporting s)
  where
  texts := rfl
  count := by simp [ofReporting]

namespace Accounted

variable {e : Exchange}

/-- A message that is put into the channel waits. -/
theorem put (h : Accounted e) (v : Value String) :
  Accounted (e.put v)
  where
  texts := by
    have htexts := h.texts
    simp only [Exchange.put, reported, inHand, Reporting.waiting_put, List.filterMap_append] at htexts ⊢
    rw [← List.append_assoc, htexts]
    cases hv : Message.text? v <;> simp [hv]
  count := h.count

/-- A drain that starts has reported nothing. -/
theorem call (h : Accounted e) (idle : e.current = none) {r : Reporter} (away : r ≠ .channel) :
  Accounted (e.call r away)
  where
  texts := by simpa [Exchange.call, reported, inHand, idle] using h.texts
  count := by simpa [Exchange.call, idle, or_imp, forall_and] using h.count

/-- A step of a drain moves a text on, or skips what is none. -/
theorem advance (h : Accounted e) {d : Drain} (hcurrent : e.current = some d) {e' : Exchange}
    (hstep : Advanced e d e') :
  Accounted e'
  := by
  obtain ⟨htexts, hcount⟩ := h
  simp only [reported, inHand, hcurrent, Option.toList_some, List.flatMap_append, List.flatMap_singleton,
    Option.bind_some, List.append_assoc] at htexts
  simp only [hcurrent, Option.toList_some, List.forall_mem_append, List.forall_mem_singleton] at hcount
  obtain ⟨hreturned, hd⟩ := hcount
  cases hstep with
  | reported hand =>
    constructor
    · simpa [reported, inHand, hand] using htexts
    · simpa [or_imp, forall_and, hd] using hreturned
  | returned hand empty =>
    constructor
    · simpa [reported, inHand, hand] using htexts
    · simpa [or_imp, forall_and, hd] using hreturned
  | taken hand first asks =>
    constructor
    · rw [Reporting.waiting_of_take? first] at htexts
      simpa [reported, inHand, hand, asks] using htexts
    · simpa [or_imp, forall_and, hd] using hreturned
  | skipped hand first other =>
    constructor
    · rw [Reporting.waiting_of_take? first] at htexts
      simpa [reported, inHand, hand, other] using htexts
    · simpa [or_imp, forall_and, hd] using hreturned

/-- Each step of workers and owner keeps everything accounted for. -/
theorem step (h : Accounted e) {e' : Exchange} (hstep : Step e e') :
  Accounted e'
  := by
  cases hstep with
  | post text => apply h.put (Message.ofText text)
  | put v => apply h.put v
  | call r away idle => apply h.call idle away
  | advance draining =>
    obtain ⟨d, hd⟩ := Option.ne_none_iff_exists'.mp draining
    apply h.advance hd (advanced hd)

end Accounted

end Exchange

/-! ### Drains that nobody interrupts -/

namespace Reporting

/-- Taking a message leaves the reporters alone, and the notices on the rest follow its own. -/
theorem eq_of_take? {s rest : Reporting} {v : Value String} (h : s.take? = some (v, rest)) :
  { rest with channel := [] } = { s with channel := [] }
    ∧ s.drainNotices = (if (Message.text? v).isNone then [Message.skipped v] else []) ++ rest.drainNotices
  := by
  obtain ⟨installed, channel⟩ := s
  cases channel with
  | nil => contradiction
  | cons first channel =>
    cases h
    use rfl
    cases h : Message.text? v <;> simp [drainNotices, h]

end Reporting

namespace Drain

/-- The drain when it has gone on to its end with what waits in the channel. -/
def completed (d : Drain) (s : Reporting) : Drain :=
  { d with
    inHand := none
    count := d.count + (d.inHand.toList ++ s.waiting).length
    texts := d.texts ++ (d.inHand.toList ++ s.waiting)
    notices := d.notices ++ s.drainNotices }

variable {d : Drain} {s : Reporting}

/-- With nothing in hand and an empty channel a drain is at its end. -/
theorem completed_of_empty (hand : d.inHand = none) (empty : s.channel = []) :
  d.completed s = d
  := by
  obtain ⟨reporter, away, inHand, count, texts, notices⟩ := d
  obtain rfl : inHand = none := hand
  simp [completed, Reporting.waiting, Reporting.drainNotices, empty]

end Drain

namespace Exchange

/-- A step of a drain that does not return brings it nearer to the same end. -/
theorem Advanced.completed_eq {e e' : Exchange} {d d' : Drain} (h : Advanced e d e')
    (hcurrent : e'.current = some d') :
  d'.completed e'.reporting = d.completed e.reporting
    ∧ { e'.reporting with channel := [] } = { e.reporting with channel := [] }
    ∧ e'.posted = e.posted ∧ e'.returned = e.returned
  := by
  cases h with
  | reported hand =>
    cases hcurrent
    simp [Drain.completed, hand, Nat.add_assoc, Nat.add_comm]
  | returned hand empty => contradiction
  | taken hand first asks =>
    cases hcurrent
    obtain ⟨hrest, hnotices⟩ := Reporting.eq_of_take? first
    simp [Drain.completed, hand, Reporting.waiting_of_take? first, hrest, hnotices, asks]
  | skipped hand first other =>
    cases hcurrent
    obtain ⟨hrest, hnotices⟩ := Reporting.eq_of_take? first
    simp [Drain.completed, hand, Reporting.waiting_of_take? first, hrest, hnotices, other]

/-- When a drain returns, it has nothing in hand and the channel is empty. -/
theorem Advanced.eq_of_none {e e' : Exchange} {d : Drain} (h : Advanced e d e') (hcurrent : e'.current = none) :
  d.inHand = none ∧ e.reporting.channel = []
    ∧ e' = { e with current := none, returned := e.returned ++ [d] }
  := by
  cases h with
  | returned hand empty => use hand, empty
  | reported => contradiction
  | taken => contradiction
  | skipped => contradiction

/-- A drain that goes on alone empties the channel and comes to its end. -/
theorem finish_eq {e : Exchange} {d : Drain} (h : e.current = some d) :
  e.finish =
    { e with
      reporting := { e.reporting with channel := [] }
      returned := e.returned ++ [d.completed e.reporting]
      current := none }
  := by
  fun_induction finish e generalizing d with
  | case1 e hnone => simp [hnone] at h
  | case2 e _ _ _ ih =>
    have hstep := advanced h
    cases hcurrent : e.advance.current with
    | some d' =>
      obtain ⟨hcompleted, hreporting, hposted, hreturned⟩ := hstep.completed_eq hcurrent
      rw [ih hcurrent, hcompleted, hreporting, hposted, hreturned]
    | none =>
      obtain ⟨hhand, hempty, hreturned⟩ := hstep.eq_of_none hcurrent
      rw [hreturned, finish, Drain.completed_of_empty hhand hempty, ← hempty]

/-- A drain of an idle exchange that nobody interrupts does to the reporters and the channel what
`Reporting.drain` does, reports what waits, in order, and returns the number of these texts. -/
theorem finish_call {e : Exchange} (idle : e.current = none) {r : Reporter} (away : r ≠ .channel) :
  (e.call r away).finish =
    { e with
      reporting := e.reporting.drain r
      returned := e.returned ++
        [{ reporter := r
           away
           count := e.reporting.waiting.length
           texts := e.reporting.waiting
           notices := e.reporting.drainNotices }] }
  := by
  rw [finish_eq rfl, Reporting.drain_eq away]
  simp [call, idle, Drain.completed]

/-- A drain of an empty channel returns zero. -/
theorem returned_finish_call {e : Exchange} (idle : e.current = none) (empty : e.reporting.channel = [])
    {r : Reporter} (away : r ≠ .channel) :
  (e.call r away).finish.returned = e.returned ++ [{ reporter := r, away, count := 0 }]
  := by
  rw [finish_call idle away]
  simp [Reporting.waiting, Reporting.drainNotices, empty]

/-- A drain that is under way can go on to its end by steps of the owner alone. -/
theorem steps_finish (e : Exchange) :
  Relation.ReflTransGen Step e e.finish
  := by
  fun_induction finish e with
  | case1 e hnone => apply Relation.ReflTransGen.refl
  | case2 e d hd _ ih =>
    apply Relation.ReflTransGen.head _ ih
    apply Step.advance
    simp [hd]

/-! ### Runs -/

/-- After any run of workers and owner, the texts that the drains have reported, then the text in hand,
then the texts that wait are the texts of the messages put into the channel that ask for printing, in
their order; no other message plays a part, and a worker's message asks for the worker's text. A drain
returns the number of texts that it has reported. A drain that is under way comes to its end when nothing
more is put into the channel, which is empty then, so that another drain returns zero; one that nobody
interrupts at all is `Reporting.drain`. -/
theorem texts_accounted {s : Reporting} {e : Exchange}
    (h : Relation.ReflTransGen Step (ofReporting s) e) :
  e.reported ++ e.inHand.toList ++ e.reporting.waiting = e.posted.filterMap Message.text?
    ∧ (∀ v text, Message.text? v = some text ↔ Message.Asks v text)
    ∧ (∀ text, Message.text? (Message.ofText text) = some text)
    ∧ (∀ d ∈ e.returned, d.count = d.texts.length)
    ∧ (∀ d, e.current = some d →
        Relation.ReflTransGen Step e e.finish
        ∧ e.finish.current = none ∧ e.finish.reporting.channel = []
        ∧ e.finish.returned = e.returned ++ [d.completed e.reporting]
        ∧ ∀ r (away : r ≠ .channel), (e.finish.call r away).finish.returned
            = e.finish.returned ++ [{ reporter := r, away, count := 0 }])
    ∧ ∀ r (away : r ≠ .channel), e.current = none → (e.call r away).finish =
        { e with
          reporting := e.reporting.drain r
          returned := e.returned ++
            [{ reporter := r
               away
               count := e.reporting.waiting.length
               texts := e.reporting.waiting
               notices := e.reporting.drainNotices }] }
  := by
  have haccounted : Accounted e := by
    induction h with
    | refl => apply accounted_ofReporting
    | tail _ hstep ih => apply ih.step hstep
  use haccounted.texts, fun v text => Message.text?_eq_some_iff, Message.text?_ofText
  and_intros
  · intro d hd
    apply haccounted.count d
    apply List.mem_append_left _ hd
  · intro d hd
    have hfinish := finish_eq hd
    have hidle : e.finish.current = none := by rw [hfinish]
    have hempty : e.finish.reporting.channel = [] := by rw [hfinish]
    use e.steps_finish, hidle, hempty
    constructor
    · rw [hfinish]
    · intro r away
      apply returned_finish_call hidle hempty away
  · intro r away idle
    apply finish_call idle away

/-- The owner has taken a first text; before it is reported, a number and a second text come in. -/
def interrupted : Exchange :=
  (((((ofReporting {}).post "first").call (.collection "owner") (by decide)).advance).put (.int 1)).post
    "second"

/-- The first text is in hand and the second waits, and the number does not block them. -/
theorem texts_accounted_interrupted :
  Relation.ReflTransGen Step (ofReporting {}) interrupted
    ∧ interrupted.inHand = some "first" ∧ interrupted.reporting.waiting = ["second"]
    ∧ interrupted.reported ++ interrupted.inHand.toList ++ interrupted.reporting.waiting
        = ["first", "second"]
    ∧ interrupted.finish.returned.map Drain.texts = [["first", "second"]]
    ∧ interrupted.finish.returned.map Drain.count = [2]
  := by
  have hrun : Relation.ReflTransGen Step (ofReporting {}) interrupted := by
    apply Relation.ReflTransGen.tail _ (.post "second")
    apply Relation.ReflTransGen.tail _ (.put (.int 1))
    apply Relation.ReflTransGen.tail _ (.advance (by simp [call]))
    apply Relation.ReflTransGen.tail _ (.call (.collection "owner") (by decide) rfl)
    apply Relation.ReflTransGen.single (.post "first")
  obtain ⟨htexts, -, -, -, hdrain, -⟩ := texts_accounted hrun
  obtain ⟨-, -, -, hreturned, -⟩ := hdrain _ rfl
  use hrun, rfl, rfl, htexts
  rw [hreturned]
  constructor <;> rfl

end Exchange

end Diagnostics
