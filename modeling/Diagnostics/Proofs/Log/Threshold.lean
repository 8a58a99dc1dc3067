import Diagnostics.CommandLine.Run
import Diagnostics.Proofs.Except
import Diagnostics.Proofs.Pairs
import Diagnostics.Proofs.Text.Keyword
import Diagnostics.Toml.Standard
import Mathlib.Data.Nat.Digits.Defs
import Mathlib.Tactic.Ring

/-!
# The threshold in the environment

A text asks for a threshold when it spells a name or is a numeral that is not too long (`Log.Asks`). Any
other text asks for none, unless it is made of digits: then it is taken for a numeral that it is not, and
reading it fails (`Log.Fails`). The program starts with a text that asks for none as without one, and with
one that fails not at all (`CommandLine.Program.start_threshold`).
-/

namespace Diagnostics

open Decimal Text

/-! ### Numerals -/

namespace Text

variable {cs : List Char} {n : Nat}

/-- The characters are decimal digits, of any script, and denote the number. -/
def Denotes (cs : List Char) (n : Nat) : Prop :=
  ∃ ds : List Nat, cs.map decimal? = ds.map some ∧ n = Nat.ofDigits 10 ds.reverse

/-- Read on from a number, decimal digits denote it with as many noughts behind, and their own number. -/
theorem naturalFrom_eq_some_iff {before : Nat} :
  naturalFrom before cs = some n
    ↔ ∃ ds : List Nat, cs.map decimal? = ds.map some
      ∧ n = before * 10 ^ ds.length + Nat.ofDigits 10 ds.reverse
  := by
  induction cs generalizing before with
  | nil =>
    rw [naturalFrom, Option.some.injEq]
    constructor
    · rintro rfl
      exact ⟨[], rfl, by simp⟩
    · rintro ⟨ds, hds, rfl⟩
      obtain rfl := List.map_eq_nil_iff.mp hds.symm
      simp
  | cons c cs ih =>
    rw [naturalFrom, Option.bind_eq_some_iff]
    have hstep : ∀ d (ds : List Nat), (10 * before + d) * 10 ^ ds.length + Nat.ofDigits 10 ds.reverse
        = before * 10 ^ (d :: ds).length + Nat.ofDigits 10 (d :: ds).reverse := by
      intro d ds
      rw [List.reverse_cons, Nat.ofDigits_append, Nat.ofDigits_singleton, List.length_reverse,
        List.length_cons]
      ring
    constructor
    · rintro ⟨d, hd, hrest⟩
      obtain ⟨ds, hds, rfl⟩ := ih.mp hrest
      use d :: ds, by rw [List.map_cons, List.map_cons, hd, hds]
      exact hstep d ds
    · rintro ⟨_ | ⟨d, ds⟩, hds, rfl⟩
      · simp at hds
      · rw [List.map_cons, List.map_cons, List.cons.injEq] at hds
        use d, hds.1
        exact ih.mpr ⟨ds, hds.2, (hstep d ds).symm⟩

/-- The number of a numeral is the one that its digits denote, of which there is one at least. -/
theorem natural?_eq_some_iff :
  natural? cs = some n ↔ cs ≠ [] ∧ Denotes cs n
  := by
  rw [natural?]
  split
  · next h => simp_all
  · next h => simp_all [naturalFrom_eq_some_iff, Denotes]

/-- What denotes a number is made of decimal digits. -/
theorem Denotes.isSome_decimal? (h : Denotes cs n) :
  ∀ c ∈ cs, (decimal? c).isSome = true
  := by
  obtain ⟨ds, hds, -⟩ := h
  intro c hc
  have hmem : decimal? c ∈ ds.map some := by
    rw [← hds]
    exact List.mem_map_of_mem hc
  obtain ⟨d, -, hd⟩ := List.mem_map.mp hmem
  rw [← hd]
  rfl

/-- Decimal digits denote a number. -/
theorem exists_denotes (h : ∀ c ∈ cs, (decimal? c).isSome = true) :
  ∃ n, Denotes cs n
  := by
  have hds : ∃ ds : List Nat, cs.map decimal? = ds.map some := by
    induction cs with
    | nil => exact ⟨[], rfl⟩
    | cons c cs ih =>
      obtain ⟨hc, hcs⟩ := List.forall_mem_cons.mp h
      obtain ⟨d, hd⟩ := Option.isSome_iff_exists.mp hc
      obtain ⟨ds, hds⟩ := ih hcs
      use d :: ds
      rw [List.map_cons, List.map_cons, hd, hds]
  obtain ⟨ds, hds⟩ := hds
  exact ⟨_, ds, hds, rfl⟩

end Text

namespace Log

variable {s key : String} {i : Int} {e : ThresholdError}

/-! ### Texts as thresholds -/

/-- The decimal digits that a text starts with. -/
def leadingDecimals (s : String) : List Char :=
  s.toList.takeWhile fun c => (decimal? c).isSome

/-- The text without the blanks around it is made of digits of any kind, at least one. -/
def IsDigits (s : String) : Prop :=
  upper (trim s) ≠ "" ∧ ∀ c ∈ (upper (trim s)).toList, isDigit c = true

/-- The text without the blanks around it is a numeral of the number, and one that is not too long. -/
structure IsNumeral (s : String) (n : Nat) : Prop where
  nonempty : upper (trim s) ≠ ""
  short : (upper (trim s)).toList.length ≤ maxDigits
  denotes : Denotes (upper (trim s)).toList n

/-- The text asks for a threshold: it is a numeral, or it spells the name of one. -/
inductive Asks (s : String) : Int → Prop
  | numeral {n : Nat} (h : IsNumeral s n) : Asks s n
  | name {name : String} {i : Int} (mem : (name, i) ∈ thresholdNames) (spelling : IsSpelling name s) :
      Asks s i

/-- The text fails as a threshold. It is made of digits, and those that it starts with are decimal ones
beyond the limit, or not all of them are decimal. -/
inductive Fails (s : String) : ThresholdError → Prop
  | tooLong (digits : IsDigits s) (long : maxDigits < (leadingDecimals (upper (trim s))).length) :
      Fails s (.tooLong (leadingDecimals (upper (trim s))).length)
  | notDecimal (digits : IsDigits s) (short : (leadingDecimals (upper (trim s))).length ≤ maxDigits)
      (other : ∃ c ∈ (upper (trim s)).toList, decimal? c = none) :
      Fails s (.notDecimal (upper (trim s)))

/-- A nonempty text of decimal digits is a numeral when it is not too long. -/
theorem number?_eq_ok_iff (hne : key ≠ "") :
  number? key = .ok i
    ↔ key.toList.length ≤ maxDigits ∧ ∃ n : Nat, i = n ∧ Denotes key.toList n
  := by
  have hlist : key.toList ≠ [] := by simpa using hne
  have hcount : ∀ n, Denotes key.toList n → leadingDecimals key = key.toList := by
    intro n hn
    exact List.takeWhile_eq_self_iff.mpr hn.isSome_decimal?
  rw [number?, ← leadingDecimals]
  constructor
  · intro h
    split at h
    · contradiction
    · next hshort =>
      split at h
      · next n hn =>
        cases h
        obtain ⟨-, hdenotes⟩ := natural?_eq_some_iff.mp hn
        rw [hcount n hdenotes] at hshort
        exact ⟨Nat.le_of_not_lt hshort, n, rfl, hdenotes⟩
      · contradiction
  · rintro ⟨hshort, n, rfl, hdenotes⟩
    rw [hcount n hdenotes, if_neg (Nat.not_lt_of_le hshort),
      natural?_eq_some_iff.mpr ⟨hlist, hdenotes⟩]

/-- A text that is not empty is no numeral when it starts with too many decimal digits or has a character
that is none. -/
theorem number?_eq_error_iff (hne : key ≠ "") :
  number? key = .error e
    ↔ maxDigits < (leadingDecimals key).length ∧ e = .tooLong (leadingDecimals key).length
      ∨ (leadingDecimals key).length ≤ maxDigits ∧ (∃ c ∈ key.toList, decimal? c = none)
        ∧ e = .notDecimal key
  := by
  have hlist : key.toList ≠ [] := by simpa using hne
  have hnone : natural? key.toList = none ↔ ∃ c ∈ key.toList, decimal? c = none := by
    constructor
    · intro h
      by_contra hall
      have hsome : ∀ c ∈ key.toList, (decimal? c).isSome = true := by
        simpa [Option.isSome_iff_ne_none] using hall
      obtain ⟨n, hn⟩ := exists_denotes hsome
      rw [natural?_eq_some_iff.mpr ⟨hlist, hn⟩] at h
      contradiction
    · rintro ⟨c, hc, hdecimal⟩
      rw [Option.eq_none_iff_forall_ne_some]
      intro n hn
      have hsome := (natural?_eq_some_iff.mp hn).2.isSome_decimal? c hc
      rw [hdecimal] at hsome
      contradiction
  rw [number?, ← leadingDecimals]
  by_cases hlong : maxDigits < (leadingDecimals key).length
  · simp [hlong, eq_comm, Nat.not_le_of_lt hlong]
  · rw [if_neg hlong, ← hnone]
    cases hnatural : natural? key.toList with
    | some n => simp [hlong]
    | none => simp [hlong, Nat.le_of_not_lt hlong, eq_comm]

/-- The text asks for no threshold: it is not made of digits, and it spells no name. -/
structure AsksNone (s : String) : Prop where
  noDigits : ¬ IsDigits s
  noName : ∀ name i, (name, i) ∈ thresholdNames → ¬ IsSpelling name s

/-- A numeral is made of digits. -/
theorem IsNumeral.isDigits {n : Nat} (h : IsNumeral s n) :
  IsDigits s
  := by
  use h.nonempty
  intro c hc
  rw [isDigit, h.denotes.isSome_decimal? c hc, Bool.true_or]

/-- A text spells a name when its upper case is the name. -/
theorem upper_trim_eq_iff_of_mem {name : String} (h : (name, i) ∈ thresholdNames) :
  upper (trim s) = name ↔ IsSpelling name s
  := by
  have hblank : ∀ p ∈ thresholdNames, p.1.toList.all (fun c => !isBlank c) = true := by decide
  have hne : ∀ p ∈ thresholdNames, p.1 ≠ "" := by decide
  exact upper_trim_eq_iff (hblank _ h) (hne _ h)

/-- What is made of digits spells no name. -/
theorem IsDigits.not_isSpelling (hdigits : IsDigits s) {name : String} (h : (name, i) ∈ thresholdNames) :
  ¬ IsSpelling name s
  := by
  have hnames : ∀ p ∈ thresholdNames, p.1.toList.all isDigit = false := by decide
  intro hspelling
  rw [← upper_trim_eq_iff_of_mem h] at hspelling
  have hname : name.toList.all isDigit = true := by
    rw [← hspelling, List.all_eq_true]
    exact hdigits.2
  exact Bool.false_ne_true ((hnames _ h).symm.trans hname)

/-- The names are found in all their spellings. -/
theorem lookup_thresholdNames_eq_some_iff :
  thresholdNames.lookup (upper (trim s)) = some i ↔ ∃ name, (name, i) ∈ thresholdNames ∧ IsSpelling name s
  := by
  rw [lookup_eq_some_iff_mem (by decide)]
  constructor
  · intro h
    exact ⟨_, h, (upper_trim_eq_iff_of_mem h).mp rfl⟩
  · rintro ⟨name, h, hspelling⟩
    rwa [(upper_trim_eq_iff_of_mem h).mpr hspelling]

/-- What is made of digits is taken for a numeral. -/
theorem threshold?_of_isDigits (h : IsDigits s) :
  threshold? s = (number? (upper (trim s))).map some
  := by
  rw [threshold?]
  exact if_pos (by simpa [IsDigits] using h)

/-- Anything else is taken for a name. -/
theorem threshold?_of_not_isDigits (h : ¬ IsDigits s) :
  threshold? s = .ok (thresholdNames.lookup (upper (trim s)))
  := by
  rw [threshold?]
  exact if_neg (by simpa [IsDigits] using h)

/-- A threshold is what the text asks for. -/
theorem threshold?_eq_some_iff :
  threshold? s = .ok (some i) ↔ Asks s i
  := by
  by_cases hdigits : IsDigits s
  · rw [threshold?_of_isDigits hdigits, Except.map_eq_ok_iff]
    constructor
    · rintro ⟨_, hnumber, ⟨⟩⟩
      obtain ⟨hshort, n, rfl, hdenotes⟩ := (number?_eq_ok_iff hdigits.1).mp hnumber
      exact .numeral ⟨hdigits.1, hshort, hdenotes⟩
    · rintro (h | ⟨mem, spelling⟩)
      · exact ⟨_, (number?_eq_ok_iff h.nonempty).mpr ⟨h.short, _, rfl, h.denotes⟩, rfl⟩
      · exact absurd spelling (hdigits.not_isSpelling mem)
  · rw [threshold?_of_not_isDigits hdigits, Except.ok.injEq, lookup_thresholdNames_eq_some_iff]
    constructor
    · rintro ⟨name, mem, spelling⟩
      exact .name mem spelling
    · rintro (h | ⟨mem, spelling⟩)
      · exact absurd h.isDigits hdigits
      · exact ⟨_, mem, spelling⟩

/-- Reading a threshold fails for these reasons, and for no others. -/
theorem threshold?_eq_error_iff :
  threshold? s = .error e ↔ Fails s e
  := by
  by_cases hdigits : IsDigits s
  · rw [threshold?_of_isDigits hdigits, Except.map_eq_error_iff, number?_eq_error_iff hdigits.1]
    constructor
    · rintro (⟨hlong, rfl⟩ | ⟨hshort, hother, rfl⟩)
      · exact .tooLong hdigits hlong
      · exact .notDecimal hdigits hshort hother
    · rintro (⟨-, long⟩ | ⟨-, short, other⟩)
      · exact .inl ⟨long, rfl⟩
      · exact .inr ⟨short, other, rfl⟩
  · rw [threshold?_of_not_isDigits hdigits]
    constructor
    · intro h
      contradiction
    · rintro (⟨digits, -⟩ | ⟨digits, -⟩) <;> exact absurd digits hdigits

/-- There is no threshold when the text asks for none. -/
theorem threshold?_eq_none_iff :
  threshold? s = .ok none ↔ AsksNone s
  := by
  by_cases hdigits : IsDigits s
  · rw [threshold?_of_isDigits hdigits, Except.map_eq_ok_iff]
    constructor
    · rintro ⟨i, -, ⟨⟩⟩
    · intro h
      exact absurd hdigits h.noDigits
  · rw [threshold?_of_not_isDigits hdigits, Except.ok.injEq, Option.eq_none_iff_forall_ne_some]
    simp only [ne_eq, lookup_thresholdNames_eq_some_iff, not_exists, not_and]
    constructor
    · intro h
      exact ⟨hdigits, fun name i => h i name⟩
    · intro h i name
      exact h.noName name i

end Log

/-! ### The start of the program -/

namespace CommandLine

/-- The surroundings without a threshold in the environment. -/
def Surroundings.withoutThreshold (w : Surroundings) : Surroundings :=
  { w with environment.entries := w.environment.entries.filter fun v => v.1 ≠ Log.thresholdVariable }

/-- Only the threshold is gone from the environment. -/
theorem Surroundings.get?_withoutThreshold (w : Surroundings) (name : String) :
  w.withoutThreshold.environment.get? name
    = if name ≠ Log.thresholdVariable then w.environment.get? name else none
  := by
  have h := lookup_filter_key (fun key => decide (key ≠ Log.thresholdVariable)) name w.environment.entries
  simp only [decide_eq_true_eq] at h
  exact h

/-- Whether output is coloured does not depend on the threshold. -/
theorem Surroundings.isColored_withoutThreshold (w : Surroundings) (wanted : Option ColorMode)
    (format : Option String) (terminal : Bool) :
  ColorMode.isColored wanted format w.withoutThreshold.environment terminal
    = ColorMode.isColored wanted format w.environment terminal
  := by
  have hforce : "FORCE_COLOR" ≠ Log.thresholdVariable := by decide
  have hno : "NO_COLOR" ≠ Log.thresholdVariable := by decide
  have hasked : ColorMode.fromEnvironment? w.withoutThreshold.environment
      = ColorMode.fromEnvironment? w.environment := by
    rw [ColorMode.fromEnvironment?, ColorMode.fromEnvironment?, get?_withoutThreshold, if_pos hforce,
      get?_withoutThreshold, if_pos hno]
  unfold ColorMode.isColored
  rw [hasked]

namespace Program

variable {w : Surroundings} {a : Arguments}

/-- The program starts with the threshold that the environment asks for, else with the one of its verbosity,
else with that which leaves only what stops the program. -/
theorem start_eq {v : Int} {asked : Option Int}
    (hv : verbosity (a.count .verbose) (a.count .quiet) = .ok v)
    (hasked : Log.fromEnvironment w.environment = .ok asked) :
  start w a
    = .ok
      { verbosity := v
        wanted := wantedBy a
        console := some
          { colored := ColorMode.isColored (wantedBy a) none w.environment w.outputTerminal
            remover := w.remover }
        sink := Log.sink ((asked.or (thresholdFor v)).getD Log.critical) w.errorTerminal }
  := by
  rw [start, hv, hasked]
  cases asked with
  | some t => rfl
  | none =>
    dsimp only
    cases thresholdFor v with
    | some t => rfl
    | none =>
      rw [Log.setup, hasked]
      rfl

/-- A text that asks for no threshold might as well not be there. -/
theorem start_withoutThreshold (hnone : Log.fromEnvironment w.environment = .ok none) :
  start w a = start w.withoutThreshold a
  := by
  have hnone' : Log.fromEnvironment w.withoutThreshold.environment = .ok none := by
    rw [Log.fromEnvironment, Surroundings.get?_withoutThreshold, if_neg (not_not_intro rfl)]
  cases hv : verbosity (a.count .verbose) (a.count .quiet) with
  | error e =>
    rw [start, start, hv]
    rfl
  | ok v =>
    rw [start_eq hv hnone, start_eq hv hnone', w.isColored_withoutThreshold]
    rfl

/-- A text asks for a threshold, fails as one or asks for none, for the reasons above and no others. The
program starts with a text that asks for none as without it, with the threshold of its verbosity or else the
one that leaves only what stops the program; with a text that fails it does not start. -/
theorem start_threshold (s : String) :
  (∀ i, Log.threshold? s = .ok (some i) ↔ Log.Asks s i)
    ∧ (∀ e, Log.threshold? s = .error e ↔ Log.Fails s e)
    ∧ (Log.threshold? s = .ok none ↔ Log.AsksNone s)
    ∧ ∀ (w : Surroundings) (a : Arguments) (v : Int),
      w.environment.get? Log.thresholdVariable = some s →
      verbosity (a.count .verbose) (a.count .quiet) = .ok v →
      (Log.AsksNone s → start w a = start w.withoutThreshold a
          ∧ ∃ state, start w a = .ok state
            ∧ state.sink = Log.sink ((thresholdFor v).getD Log.critical) w.errorTerminal)
        ∧ ∀ e, Log.Fails s e → start w a = .error { ending := .crash (.threshold e) }
  := by
  refine ⟨fun i => Log.threshold?_eq_some_iff, fun e => Log.threshold?_eq_error_iff,
    Log.threshold?_eq_none_iff, ?_⟩
  intro w a v hset hv
  have hasked : Log.fromEnvironment w.environment = Log.threshold? s := by
    rw [Log.fromEnvironment, hset]
  constructor
  · intro hnone
    rw [Log.threshold?_eq_none_iff.mpr hnone] at hasked
    exact ⟨start_withoutThreshold hasked, _, start_eq hv hasked, rfl⟩
  · intro e hfails
    rw [Log.threshold?_eq_error_iff.mpr hfails] at hasked
    rw [start, hv, hasked]

open Toml.Standard in
/-- The superscript two is a digit but no decimal one, so a threshold of it alone fails, and the program
breaks off where it would show its version. -/
theorem start_superscript :
  Log.threshold? "²" = .error (.notDecimal "²")
    ∧ run
      { files := .ofEntries [], directory := [], environment := ⟨[(Log.thresholdVariable, "²")]⟩ }
      .whole ["version"]
      = { ending := .crash (.threshold (.notDecimal "²")) }
    ∧ run { files := .ofEntries [], directory := [], environment := ⟨[]⟩ } .whole ["version"]
      = { outputs := [.out "0.1.0\n"] }
  := by
  decide

end Program

end CommandLine

end Diagnostics
