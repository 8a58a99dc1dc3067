import Diagnostics.Toml.Reader
import Diagnostics.Toml.Annotated
import Diagnostics.Toml.Writer
import Mathlib.Data.List.Forall2
import Mathlib.Data.List.TakeDrop
import Mathlib.Tactic.Common

/-!
# Reading values that were written

A text spells a value when it is read as the value whatever stands behind it (`Toml.Spells`).
Words, plain texts between quotes and arrays of what spells values do; arrays are described by a
grammar (`Toml.ItemsText`) that has both layouts of lists in it.
-/

namespace Diagnostics.Toml

open Text

/-- A run of characters is taken as a whole when the one behind it does not belong to it. -/
theorem span_append {belongs : Char → Bool} {cs rest : List Char} (hcs : ∀ c ∈ cs, belongs c = true)
    (hrest : ∀ c ∈ rest.head?, belongs c = false) :
  (cs ++ rest).span belongs = (cs, rest)
  := by
  have htake : rest.takeWhile belongs = [] := by
    cases rest with
    | nil => rfl
    | cons c rest => simp [hrest c rfl]
  have hdrop : rest.dropWhile belongs = rest := by
    cases rest with
    | nil => rfl
    | cons c rest => simp [hrest c rfl]
  rw [List.span_eq_takeWhile_dropWhile, List.takeWhile_append_of_pos hcs,
    List.dropWhile_append_of_pos hcs, htake, hdrop, List.append_nil]

/-- The text ends the value before it: it is empty or starts with what ends a token. -/
def EndsValue (rest : List Char) : Prop :=
  ∀ c ∈ rest.head?, endsToken c = true

/-- The characters spell the value: they start with one that ends no token, and are read as the value
whatever stands behind them. None of them changes when the line ends of a file are unified. -/
structure Spells (cs : List Char) (v : Value) : Prop where
  start : ∃ c cs', cs = c :: cs' ∧ endsToken c = false
  noReturn : '\r' ∉ cs
  read : ∀ {fuel : Nat} {rest : List Char}, cs.length ≤ fuel → EndsValue rest →
    readValue fuel (cs ++ rest) = some (v, rest)

section Spells

variable {cs rest : List Char} {v : Value} {fuel : Nat}

/-- What spells a value is not skipped. -/
theorem Spells.skipLines_append (h : Spells cs v) :
  skipLines false (cs ++ rest) = cs ++ rest
  := by
  obtain ⟨c, cs, rfl, hstart⟩ := h.start
  simp only [endsToken, Bool.or_eq_false_iff, beq_eq_false_iff_ne] at hstart
  simp [skipLines, hstart]

/-- Nor is it taken for blanks. -/
theorem Spells.skipInline_append (h : Spells cs v) :
  skipInline (cs ++ rest) = cs ++ rest
  := by
  obtain ⟨c, cs, rfl, hstart⟩ := h.start
  simp only [endsToken, Bool.or_eq_false_iff, beq_eq_false_iff_ne] at hstart
  simp [skipInline, hstart]

/-! ### Words -/

/-- The character starts neither a container nor a string. -/
def startsWord (c : Char) : Bool :=
  c ≠ '[' && c ≠ '{' && c ≠ '"' && c ≠ '\''

/-- A token spells what it is as a word. -/
theorem spells_word {c : Char} (hc : startsWord c = true) (htoken : (c :: cs).all (!endsToken ·) = true)
    (hreturn : '\r' ∉ c :: cs) (hv : word? (c :: cs) = some v) :
  Spells (c :: cs) v
  where
  start := ⟨c, cs, rfl, by simpa using List.all_eq_true.mp htoken c List.mem_cons_self⟩
  noReturn := hreturn
  read := by
    intro fuel rest hfuel hrest
    obtain ⟨fuel, rfl⟩ := Nat.exists_eq_add_of_le' (Nat.le_of_add_left_le hfuel)
    have hspan : (c :: cs ++ rest).span (fun d => !endsToken d) = (c :: cs, rest) := by
      apply span_append (List.all_eq_true.mp htoken)
      simpa [EndsValue] using hrest
    simp only [startsWord, Bool.and_eq_true, decide_eq_true_eq] at hc
    have hword : readValue (fuel + 1) (c :: cs ++ rest) = readWord (c :: cs ++ rest) := by
      rw [List.cons_append, readValue] <;> simp_all
    rw [hword, readWord, hspan]
    simp [hv]

/-- The word of a truth value. -/
def boolWord : Bool → List Char
  | true => ['t', 'r', 'u', 'e']
  | false => ['f', 'a', 'l', 's', 'e']

theorem spells_boolWord (b : Bool) :
  Spells (boolWord b) (.bool b)
  := by
  cases b with
  | false => apply spells_word (by decide) (by decide) (by decide) rfl
  | true => apply spells_word (by decide) (by decide) (by decide) rfl

/-! ### Texts -/

/-- The character stands for itself between double quotes: it shows, and it is no quote and no
backslash. -/
def isPlain (c : Char) : Bool :=
  c ≠ '"' && c ≠ '\\' && isPrintable c

/-- What shows is no control character. -/
theorem isControl_of_isPrintable {c : Char} (h : isPrintable c = true) :
  isControl c = false
  := by
  have hdelete : inRanges unprintableRanges 0x7f = true := by decide
  rw [isControl, Bool.or_eq_false_iff, Bool.and_eq_false_iff]
  rw [isPrintable] at h
  constructor
  · left
    split at h
    · simpa using h
    · simp
      omega
  · rw [decide_eq_false_iff_not]
    intro hc
    rw [if_neg (by omega), hc, hdelete] at h
    contradiction

/-- Plain characters are read up to the closing quote. -/
theorem readBasic_append (hcs : ∀ c ∈ cs, isPlain c = true) :
  readBasic (cs ++ '"' :: rest) = some (cs, rest)
  := by
  induction cs with
  | nil => simp [readBasic]
  | cons c cs ih =>
    obtain ⟨hc, hcs⟩ := List.forall_mem_cons.mp hcs
    simp only [isPlain, Bool.and_eq_true, decide_eq_true_eq] at hc
    obtain ⟨⟨hquote, hbackslash⟩, hprintable⟩ := hc
    rw [List.cons_append, readBasic, ih hcs, isControl_of_isPrintable hprintable] <;> simp_all [consRead]

/-- A plain text between double quotes. -/
def quotedText (cs : List Char) : List Char :=
  '"' :: cs ++ ['"']

theorem spells_quotedText (hcs : ∀ c ∈ cs, isPlain c = true) :
  Spells (quotedText cs) (.text (String.ofList cs))
  where
  start := ⟨'"', cs ++ ['"'], rfl, by decide⟩
  noReturn := by
    have hcs' : '\r' ∉ cs := fun hmem => absurd (hcs '\r' hmem) (by decide)
    simp [quotedText, hcs']
  read := by
    intro fuel rest hfuel hrest
    obtain ⟨fuel, rfl⟩ := Nat.exists_eq_add_of_le' (Nat.le_of_add_left_le hfuel)
    -- An empty text is no opening of a long one, since no quote stands behind it.
    have hbasic : readString ('"' :: (cs ++ '"' :: rest)) = readBasic (cs ++ '"' :: rest) := by
      cases cs with
      | nil =>
        rw [List.nil_append, readString]
        rintro rest' ⟨⟩
        simpa [endsToken, isInline] using hrest '"' rfl
      | cons c cs =>
        rw [List.cons_append, readString]
        intro rest' heq
        obtain ⟨rfl, -⟩ := List.cons_eq_cons.mp heq
        simpa [isPlain] using hcs '"' List.mem_cons_self
    have htext : quotedText cs ++ rest = '"' :: (cs ++ '"' :: rest) := by simp [quotedText]
    rw [htext, readValue, hbasic, readBasic_append hcs]
    rfl

/-! ### Arrays -/

/-- What stands behind the opening bracket of an array, the closing one included. There is a comma
between any two items, and there may be one behind the last. -/
inductive ItemsText : List Char → List Value → Prop
  | close : ItemsText [']'] []
  | blank {cs : List Char} {vs : List Value} (items : ItemsText cs vs) : ItemsText (' ' :: cs) vs
  | last {cs : List Char} {v : Value} (item : Spells cs v) : ItemsText (cs ++ [']']) [v]
  | more {cs cs' : List Char} {v : Value} {vs : List Value} (item : Spells cs v) (items : ItemsText cs' vs) :
      ItemsText (cs ++ ',' :: cs') (v :: vs)

/-- An item does not close its array. -/
theorem Spells.readItems_eq (h : Spells cs v) :
  readItems (fuel + 1) (cs ++ rest)
    = match readValue fuel (cs ++ rest) with
      | none => none
      | some (v, rest) =>
        match skipLines false rest with
        | ',' :: more => (readItems fuel (skipLines false more)).map fun read => (v :: read.1, read.2)
        | ']' :: behind => some ([v], behind)
        | _ => none
  := by
  obtain ⟨c, cs, rfl, hstart⟩ := h.start
  apply readItems.eq_3
  intro rest' heq
  obtain ⟨rfl, -⟩ := List.cons_eq_cons.mp heq
  contradiction

/-- The items of an array are read from their text. -/
theorem ItemsText.read {vs : List Value} (h : ItemsText cs vs) (hfuel : cs.length ≤ fuel) :
  readItems fuel (skipLines false (cs ++ rest)) = some (vs, rest)
  := by
  induction h generalizing fuel with
  | close =>
    obtain ⟨fuel, rfl⟩ := Nat.exists_eq_add_of_le' (Nat.le_of_add_left_le hfuel)
    rfl
  | blank items ih => exact ih (Nat.le_of_succ_le hfuel)
  | @last cs v item =>
    have hpos : 1 ≤ fuel := by
      rw [List.length_append, List.length_cons] at hfuel
      omega
    obtain ⟨fuel, rfl⟩ := Nat.exists_eq_add_of_le' hpos
    have hitem : readValue fuel (cs ++ ']' :: rest) = some (v, ']' :: rest) := by
      apply item.read
      · simpa using hfuel
      · simp [EndsValue, endsToken]
    rw [List.append_assoc, item.skipLines_append, List.singleton_append, item.readItems_eq, hitem]
    rfl
  | @more cs cs' v vs item items ih =>
    have hpos : 1 ≤ fuel := by
      rw [List.length_append, List.length_cons] at hfuel
      omega
    obtain ⟨fuel, rfl⟩ := Nat.exists_eq_add_of_le' hpos
    have hlength : cs.length + cs'.length ≤ fuel := by
      simp only [List.length_append, List.length_cons] at hfuel
      omega
    have hitem : readValue fuel (cs ++ ',' :: (cs' ++ rest)) = some (v, ',' :: (cs' ++ rest)) := by
      apply item.read
      · omega
      · simp [EndsValue, endsToken]
    have hitems : readItems fuel (skipLines false (cs' ++ rest)) = some (vs, rest) := ih (by omega)
    rw [List.append_assoc, item.skipLines_append, List.cons_append, item.readItems_eq, hitem]
    simp [skipLines, isInline, hitems]

/-- They hold no carriage return, since no item does. -/
theorem ItemsText.noReturn {vs : List Value} (h : ItemsText cs vs) :
  '\r' ∉ cs
  := by
  induction h with
  | close => decide
  | blank items ih => simp [ih]
  | last item => simp [item.noReturn]
  | more item items ih => simp [item.noReturn, ih]

/-- Items in brackets spell their list. -/
theorem ItemsText.spells {vs : List Value} (h : ItemsText cs vs) (huniform : isUniform vs = true) :
  Spells ('[' :: cs) (.list vs)
  where
  start := ⟨'[', cs, rfl, by decide⟩
  noReturn := by simp [h.noReturn]
  read := by
    intro fuel rest hfuel hrest
    obtain ⟨fuel, rfl⟩ := Nat.exists_eq_add_of_le' (Nat.le_of_add_left_le hfuel)
    rw [List.cons_append, readValue, h.read (Nat.le_of_succ_le_succ hfuel)]
    simp [huniform]

end Spells

/-- Items that are spread out, with a comma behind each, spell their list. -/
theorem spells_spread {items : List (List Char)} {vs : List Value} (h : List.Forall₂ Spells items vs)
    (huniform : isUniform vs = true) :
  Spells (spread items) (.list vs)
  := by
  apply ItemsText.spells _ huniform
  clear huniform
  induction h with
  | nil => exact .close
  | @cons item v items vs hitem hitems ih =>
    simpa using ItemsText.blank (.more hitem ih)

/-- So do items that are joined by commas. -/
theorem spells_join {items : List (List Char)} {vs : List Value} (h : List.Forall₂ Spells items vs)
    (huniform : isUniform vs = true) :
  Spells ('[' :: join [',', ' '] items ++ [']']) (.list vs)
  := by
  apply ItemsText.spells _ huniform
  clear huniform
  induction h with
  | nil => exact .close
  | @cons item v items vs hitem hitems ih =>
    cases hitems with
    | nil => exact .last hitem
    | cons hnext hrest => simpa [join] using ItemsText.more hitem (.blank ih)

end Diagnostics.Toml
