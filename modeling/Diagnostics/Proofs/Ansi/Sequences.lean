import Diagnostics.Ansi.Removal
import Diagnostics.Proofs.Text.Lines
import Mathlib.Data.List.Basic

/-!
# Functions that remove control sequences

A function that removes control sequences removes the styling of a text whatever stands behind it
(`Ansi.RemovesSequences.applyChars_append`), and it leaves a text without the escape character as it is
(`Ansi.RemovesSequences.eq_of_notMem`). Besides the scan, the removal of the narrower class of sequences that
have digits, `;` and `?` as parameters and end in a letter is such a function
(`Ansi.removesSequences_stripLetterSequences`).
-/

namespace Diagnostics.Ansi

open Text

/-! ### Consequences -/

namespace RemovesSequences

variable {strip : List Char → List Char} (h : RemovesSequences strip)
include h

/-- What has no escape character stays in front. -/
theorem append {cs : List Char} (hcs : esc ∉ cs) (rest : List Char) :
  strip (cs ++ rest) = cs ++ strip rest
  := by
  induction cs with
  | nil => rfl
  | cons c cs ih =>
    rw [List.mem_cons, not_or] at hcs
    obtain ⟨hc, hcs⟩ := hcs
    rw [List.cons_append, h.cons c _ (Ne.symm hc), ih hcs, List.cons_append]

/-- A text without the escape character is left alone. -/
theorem eq_of_notMem {cs : List Char} (hcs : esc ∉ cs) :
  strip cs = cs
  := by
  have happend := h.append hcs []
  rwa [List.append_nil, h.nil, List.append_nil] at happend

/-- Several selections are removed one after the other. -/
theorem flatMap_select (codes : List Nat) (cs : List Char) :
  strip (codes.flatMap Ansi.select ++ cs) = strip cs
  := by
  induction codes with
  | nil => rfl
  | cons code codes ih => rw [List.flatMap_cons, List.append_assoc, h.select, ih]

/-- The styling of a text without the escape character is removed, whatever stands behind it. -/
theorem applyChars_append (s : Style) {cs : List Char} (hcs : esc ∉ cs) (rest : List Char) :
  strip (s.applyChars cs ++ rest) = cs ++ strip rest
  := by
  rw [Style.applyChars, List.append_assoc, List.append_assoc, h.flatMap_select, h.append hcs, h.select]

/-- Joined lines are treated one by one. -/
theorem join_lines (rows : List (List Char)) :
  strip (join ['\n'] rows) = join ['\n'] (rows.map strip)
  := by
  induction rows with
  | nil => apply h.nil
  | cons row rows ih =>
    cases rows with
    | nil => rfl
    | cons next rows =>
      have hrows : next :: rows ≠ [] := List.cons_ne_nil next rows
      have hstripped : (next :: rows).map strip ≠ [] := by simp
      rw [List.map_cons, join_cons hrows, join_cons hstripped, List.append_assoc, List.singleton_append,
        h.lineEnd, ih, List.append_assoc, List.singleton_append]

/-- The lines of what is left are what is left of the lines. -/
theorem splitOn_lines (cs : List Char) :
  splitOn '\n' (strip cs) = (splitOn '\n' cs).map strip
  := by
  have hlines : strip cs = join ['\n'] ((splitOn '\n' cs).map strip) := by
    rw [← h.join_lines, join_splitOn]
  rw [hlines, splitOn_join]
  · simp [splitOn_ne_nil]
  · intro row hrow hmem
    obtain ⟨piece, hpiece, rfl⟩ := List.mem_map.mp hrow
    apply notMem_of_mem_splitOn piece hpiece (h.subset piece hmem)

end RemovesSequences

/-! ### The scan -/

/-! ### Sequences that end in a letter -/

/-- A parameter character of the narrower class of sequences. -/
def isLetterParameter (c : Char) : Bool :=
  c.isDigit || c == ';' || c == '?'

/-- What stands behind a sequence of the narrower class at the start of a text, if there is one. -/
def afterLetterSequence? (cs : List Char) : Option (List Char) :=
  if cs.take 2 = [esc, '['] then
    match (cs.drop 2).dropWhile isLetterParameter with
    | final :: rest => if final.isAlpha then some rest else none
    | [] => none
  else none

/-- Behind a sequence stands a part of the text. -/
theorem sublist_of_afterLetterSequence? {cs rest : List Char} (h : afterLetterSequence? cs = some rest) :
  rest.Sublist cs ∧ rest.length < cs.length
  := by
  unfold afterLetterSequence? at h
  split_ifs at h
  split at h
  · next final behind hdrop =>
    split_ifs at h
    obtain rfl := Option.some.inj h
    have hmore : (final :: behind).Sublist cs := by
      rw [← hdrop]
      exact (List.dropWhile_sublist isLetterParameter).trans (List.drop_sublist 2 cs)
    exact ⟨(List.sublist_cons_self final behind).trans hmore, Nat.lt_of_succ_le hmore.length_le⟩
  · contradiction

/-- The text without the sequences of the narrower class, which are removed from left to right. -/
def stripLetterSequences (cs : List Char) : List Char :=
  match _h : afterLetterSequence? cs with
  | some rest => stripLetterSequences rest
  | none =>
    match cs with
    | [] => []
    | c :: cs => c :: stripLetterSequences cs
termination_by cs.length
decreasing_by
  · apply (sublist_of_afterLetterSequence? (by assumption)).2
  · simp

theorem stripLetterSequences_of_some {cs rest : List Char} (h : afterLetterSequence? cs = some rest) :
  stripLetterSequences cs = stripLetterSequences rest
  := by
  rw [stripLetterSequences]
  split <;> simp_all

theorem stripLetterSequences_of_none {c : Char} {cs : List Char} (h : afterLetterSequence? (c :: cs) = none) :
  stripLetterSequences (c :: cs) = c :: stripLetterSequences cs
  := by
  rw [stripLetterSequences]
  split <;> simp_all

/-- A sequence starts with the escape character. -/
theorem afterLetterSequence?_cons {c : Char} (h : c ≠ esc) (cs : List Char) :
  afterLetterSequence? (c :: cs) = none
  := by
  rw [afterLetterSequence?, if_neg]
  simp [h]

/-- The sequences of styles are of the narrower class. -/
theorem afterLetterSequence?_select (code : Nat) (cs : List Char) :
  afterLetterSequence? (select code ++ cs) = some cs
  := by
  have hparameter : ∀ d ∈ Nat.toDigits 10 code, isLetterParameter d = true := by
    intro d hd
    simp [isLetterParameter, Nat.isDigit_of_mem_toDigits (by decide) (by decide) hd]
  have hdrop : (Nat.toDigits 10 code ++ 'm' :: cs).dropWhile isLetterParameter = 'm' :: cs := by
    rw [List.dropWhile_append_of_pos hparameter]
    rfl
  rw [select_append, afterLetterSequence?, List.drop_succ_cons, List.drop_succ_cons, List.drop_zero, hdrop]
  rfl

/-- A line end breaks off a sequence. -/
theorem afterLetterSequence?_append_lineEnd (cs rest : List Char) :
  afterLetterSequence? (cs ++ '\n' :: rest) = (afterLetterSequence? cs).map (· ++ '\n' :: rest)
  := by
  match cs with
  | [] => rfl
  | [c] => simp [afterLetterSequence?]
  | first :: second :: cs =>
    simp only [afterLetterSequence?, List.cons_append, List.take_succ_cons, List.take_zero,
      List.drop_succ_cons, List.drop_zero, List.dropWhile_append]
    split
    · cases cs.dropWhile isLetterParameter with
      | nil => simp [isLetterParameter]
      | cons final behind =>
        simp only [List.isEmpty_cons, List.cons_append]
        split <;> simp_all
    · rfl

/-- Removing the sequences of the narrower class is removing control sequences. -/
theorem removesSequences_stripLetterSequences :
  RemovesSequences stripLetterSequences
  where
  nil := by
    rw [stripLetterSequences]
    rfl
  cons c cs hc := stripLetterSequences_of_none (afterLetterSequence?_cons hc cs)
  select code cs := stripLetterSequences_of_some (afterLetterSequence?_select code cs)
  lineEnd cs rest := by
    fun_induction stripLetterSequences cs with
    | case1 cs behind h ih =>
      have hmore := afterLetterSequence?_append_lineEnd cs rest
      rw [h] at hmore
      rw [stripLetterSequences_of_some hmore, ih]
    | case2 h =>
      apply stripLetterSequences_of_none
      apply afterLetterSequence?_cons (by decide)
    | case3 c cs h ih =>
      have hmore := afterLetterSequence?_append_lineEnd (c :: cs) rest
      rw [h, Option.map_none, List.cons_append] at hmore
      rw [List.cons_append, stripLetterSequences_of_none hmore, ih, List.cons_append]
  subset cs := by
    fun_induction stripLetterSequences cs with
    | case1 cs behind h ih => apply List.Subset.trans ih (sublist_of_afterLetterSequence? h).1.subset
    | case2 h => apply List.Subset.refl
    | case3 c cs h ih => apply List.cons_subset_cons c ih

/-- The removal of the narrower class of sequences. -/
def Remover.letters : Remover :=
  ⟨stripLetterSequences, removesSequences_stripLetterSequences⟩

end Diagnostics.Ansi
