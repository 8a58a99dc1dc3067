import Diagnostics.Proofs.Log.Threshold

/-!
# Setting up the root logger

However the root logger was set up before, it has one handler afterwards and is the same as any other that
is set up with the threshold (`Log.RootLogger.serve_eq`). Asked to look for a threshold in the environment, it
is set up with the one that it finds there, except for zero, which it takes for none
(`Log.RootLogger.setUp_from_environment`).
-/

namespace Diagnostics

open Decimal Text

/-! ### Zero -/

namespace Text

theorem ofDigits_eq_zero_iff {ds : List Nat} :
  Nat.ofDigits 10 ds = 0 ↔ ∀ d ∈ ds, d = 0
  := by
  induction ds with
  | nil => simp
  | cons d ds ih => simp [Nat.ofDigits_cons, ih]

/-- The characters that denote zero are noughts. -/
theorem denotes_zero_iff {cs : List Char} :
  Denotes cs 0 ↔ ∀ c ∈ cs, decimal? c = some 0
  := by
  constructor
  · rintro ⟨ds, hds, hzero⟩ c hc
    have hmem : decimal? c ∈ ds.map some := by
      rw [← hds]
      exact List.mem_map_of_mem hc
    obtain ⟨d, hd, hdecimal⟩ := List.mem_map.mp hmem
    rw [← hdecimal, ofDigits_eq_zero_iff.mp hzero.symm d (List.mem_reverse.mpr hd)]
  · intro h
    use List.replicate cs.length 0
    rw [List.map_eq_replicate_iff.mpr h, List.map_replicate, List.reverse_replicate,
      Nat.ofDigits_replicate_zero]
    exact ⟨rfl, rfl⟩

end Text

namespace Log

variable {s : String} {i j : Int}

/-- A text asks for one threshold at most. -/
theorem Asks.unique (hi : Asks s i) (hj : Asks s j) :
  i = j
  := by
  have h := threshold?_eq_some_iff.mpr hi
  rw [threshold?_eq_some_iff.mpr hj] at h
  cases h
  rfl

/-- The text without the blanks around it is made of noughts, of any script, and not of too many. -/
structure IsNought (s : String) : Prop where
  nonempty : upper (trim s) ≠ ""
  short : (upper (trim s)).toList.length ≤ maxDigits
  noughts : ∀ c ∈ (upper (trim s)).toList, decimal? c = some 0

/-- Noughts ask for zero, and so does one of the names. -/
theorem asks_zero_iff :
  Asks s 0 ↔ IsSpelling "NOTSET" s ∨ IsNought s
  := by
  have hnames : ∀ p ∈ thresholdNames, p.2 = 0 → p.1 = "NOTSET" := by decide
  constructor
  · intro h
    generalize hi : (0 : Int) = i at h
    cases h with
    | numeral h =>
      obtain rfl : _ = 0 := (Int.natCast_eq_zero.mp hi.symm)
      exact .inr ⟨h.nonempty, h.short, denotes_zero_iff.mp h.denotes⟩
    | name mem spelling =>
      obtain rfl := hnames _ mem hi.symm
      exact .inl spelling
  · rintro (hspelling | h)
    · exact .name (by decide) hspelling
    · exact .numeral ⟨h.nonempty, h.short, denotes_zero_iff.mpr h.noughts⟩

variable {e : Environment}

/-- What the variable asks for is what the environment asks for. -/
theorem fromEnvironment_of_asks (hset : e.get? thresholdVariable = some s) (h : Asks s i) :
  fromEnvironment e = .ok (some i)
  := by
  rw [fromEnvironment, hset]
  exact threshold?_eq_some_iff.mpr h

/-! ### The root logger -/

namespace RootLogger

variable {r : RootLogger} {terminal : Bool}

/-- Taking the handlers of a logger away one by one leaves none. -/
theorem foldl_remove {hs : List Handler} (h : r.handlers = hs) :
  hs.foldl remove r = { r with handlers := [] }
  := by
  induction hs generalizing r with
  | nil => rw [List.foldl_nil, ← h]
  | cons first hs ih =>
    have hrest : (r.remove first).handlers = hs := by rw [remove, h, List.erase_cons_head]
    rw [List.foldl_cons, ih hrest]
    rfl

/-- What the logger was before does not matter. -/
theorem serve_eq (r : RootLogger) (s : Sink) :
  r.serve s
    = { threshold := s.threshold, handlers := [.errorStream s.layout s.colored], propagates := false }
  := by
  have hbare : r.handlers.foldl remove { r with threshold := s.threshold }
      = { r with threshold := s.threshold, handlers := [] } := foldl_remove rfl
  rw [serve, hbare]
  rfl

/-- The logger that serves a sink writes what the sink writes. -/
theorem write_serve (r : RootLogger) (s : Sink) (record : Record) :
  (r.serve s).write record = s.write record
  := by
  rw [serve_eq, write]
  exact String.ofList_toList

theorem setUp_some (r : RootLogger) (i : Int) (e : Environment) (terminal : Bool) :
  r.setUp (some i) e terminal
    = .ok
      { threshold := i
        handlers := [.errorStream (if info ≤ i then .brief else .detailed) terminal]
        propagates := false }
  := by
  rw [setUp, setup, Except.map, serve_eq]
  rfl

/-- Without a threshold the environment is asked, and zero counts as nothing. -/
theorem setUp_none (r : RootLogger) (e : Environment) (terminal : Bool) :
  r.setUp none e terminal
    = (fromEnvironment e).map fun asked =>
      r.serve (sink (if asked.getD critical = 0 then critical else asked.getD critical) terminal)
  := by
  rw [setUp, setup]
  cases fromEnvironment e <;> rfl

theorem setUp_none_of_zero (h : fromEnvironment e = .ok (some 0)) :
  r.setUp none e terminal = r.setUp (some critical) e terminal
  := by
  rw [setUp_none, h]
  rfl

theorem setUp_none_of_none (h : fromEnvironment e = .ok none) :
  r.setUp none e terminal = r.setUp (some critical) e terminal
  := by
  rw [setUp_none, h]
  rfl

/-- A threshold in the environment is taken as one that is given, unless it is zero. -/
theorem setUp_none_eq_iff (h : fromEnvironment e = .ok (some i)) :
  r.setUp none e terminal = r.setUp (some i) e terminal ↔ i ≠ 0
  := by
  constructor
  · rintro heq rfl
    rw [setUp_none_of_zero h, setUp_some, setUp_some, Except.ok.injEq, RootLogger.mk.injEq] at heq
    exact absurd heq.1 (by decide)
  · intro hne
    rw [setUp_none, h, Except.map, Option.getD_some, if_neg hne]
    rfl

/-- Set up with a threshold, the root logger has this threshold and one handler, whatever it was before.
Asked to look in the environment, it is set up with the threshold that it finds there just as if it was given
this threshold, and as the program sets it up when it starts, unless the threshold is zero. Zero, which one
name and noughts ask for, leaves only what stops the program, and so does an environment that asks for
nothing. Where reading the threshold fails, the logger is not set up. -/
theorem setUp_from_environment (r : RootLogger) (w : CommandLine.Surroundings) :
  let own := r.setUp none w.environment w.errorTerminal
  let given := fun n => r.setUp (some n) w.environment w.errorTerminal
  (∀ n, given n = .ok
      { threshold := n
        handlers := [.errorStream (if info ≤ n then .brief else .detailed) w.errorTerminal]
        propagates := false })
    ∧ (∀ s n, w.environment.get? thresholdVariable = some s → Asks s n →
      (own = given n ↔ n ≠ 0)
        ∧ (n = 0 ↔ IsSpelling "NOTSET" s ∨ IsNought s)
        ∧ (n = 0 → own = given critical)
        ∧ ∀ (a : CommandLine.Arguments) (v : Int),
          CommandLine.verbosity (a.count .verbose) (a.count .quiet) = .ok v →
          ∃ state, CommandLine.Program.start w a = .ok state ∧ given n = .ok (r.serve state.sink)
            ∧ ∀ record, (r.serve state.sink).write record = state.sink.write record)
    ∧ (fromEnvironment w.environment = .ok none → own = given critical)
    ∧ ∀ e, fromEnvironment w.environment = .error e → own = .error e
  := by
  intro own given
  and_intros
  · intro n
    exact setUp_some r n w.environment w.errorTerminal
  · intro s n hset hasks
    have hasked : fromEnvironment w.environment = .ok (some n) := fromEnvironment_of_asks hset hasks
    and_intros
    · exact setUp_none_eq_iff hasked
    · rw [← asks_zero_iff]
      constructor
      · rintro rfl
        exact hasks
      · intro hzero
        exact hasks.unique hzero
    · rintro rfl
      exact setUp_none_of_zero hasked
    · intro a v hv
      exact ⟨_, CommandLine.Program.start_eq hv hasked, rfl, write_serve r _⟩
  · exact setUp_none_of_none
  · intro e herror
    simp only [own, setUp_none, herror]
    rfl

/-- A logger with two handlers, in an environment that names a threshold in mixed case and between blanks. -/
theorem setUp_from_environment_named :
  let e : Environment := ⟨[(thresholdVariable, " Warn ")]⟩
  let r : RootLogger := { handlers := [.foreign 1, .errorStream .bare true] }
  Asks " Warn " warning
    ∧ r.setUp none e false = r.setUp (some warning) e false
    ∧ r.setUp (some warning) e false
      = .ok { threshold := 30, handlers := [.errorStream .brief false], propagates := false }
  := by
  intro e r
  have hasks : Asks " Warn " warning := threshold?_eq_some_iff.mp (by decide)
  obtain ⟨hgiven, hasked, -⟩ :=
    setUp_from_environment r { files := .ofEntries [], directory := [], environment := e }
  obtain ⟨hown, -⟩ := hasked " Warn " warning rfl hasks
  exact ⟨hasks, hown.mpr (by decide), hgiven warning⟩

/-- The numeral for zero asks for the threshold zero. Given it, the root logger has it, but asked to look in the
environment it has the one that leaves only what stops the program. -/
theorem setUp_from_environment_zero :
  let e : Environment := ⟨[(thresholdVariable, "0")]⟩
  fromEnvironment e = .ok (some 0)
    ∧ ({} : RootLogger).setUp none e false
      = .ok { threshold := 50, handlers := [.errorStream .brief false], propagates := false }
    ∧ ({} : RootLogger).setUp (some 0) e false
      = .ok { threshold := 0, handlers := [.errorStream .detailed false], propagates := false }
  := by
  decide

end RootLogger

end Log

end Diagnostics
