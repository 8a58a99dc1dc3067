import Diagnostics.Ansi

/-!
# Removing control sequences

`Ansi.RemovesSequences` states what a function that removes control sequences does to styled lines: it
removes the sequences of a style, keeps everything in front of an escape character, and treats the lines
one by one. An `Ansi.Remover` is such a function; the scan of `Ansi.stripChars` is one of them
(`Ansi.Remover.scan`).
-/

namespace Diagnostics.Ansi

/-- The function removes the control sequences of styles from lines. -/
structure RemovesSequences (strip : List Char → List Char) : Prop where
  nil : strip [] = []
  cons : ∀ c cs, c ≠ esc → strip (c :: cs) = c :: strip cs
  select : ∀ code cs, strip (select code ++ cs) = strip cs
  lineEnd : ∀ cs rest, strip (cs ++ '\n' :: rest) = strip cs ++ '\n' :: strip rest
  subset : ∀ cs, strip cs ⊆ cs

/-! ### The scan -/

theorem select_append (code : Nat) (cs : List Char) :
  select code ++ cs = esc :: '[' :: (Nat.toDigits 10 code ++ 'm' :: cs)
  := by
  simp [select]

/-- A character that is not the escape character starts no sequence. -/
theorem stripChars_cons {c : Char} (h : c ≠ esc) (cs : List Char) :
  stripChars (c :: cs) = c :: stripChars cs
  := by
  simp [stripChars, stripFrom, Phase.next?, Phase.completes, h]

/-- A line end releases what is held, and behind it the scan starts afresh. -/
theorem stripFrom_lineEnd (phase : Phase) (held rest : List Char) :
  stripFrom phase held ('\n' :: rest) = held ++ '\n' :: stripChars rest
  := by
  have hnext : phase.next? '\n' = none := by cases phase <;> decide
  have hcompletes : phase.completes '\n' = false := by cases phase <;> decide
  have hesc : '\n' ≠ esc := by decide
  simp [stripFrom, stripChars, hnext, hcompletes, hesc]

/-- What stands behind a line end has no part in what is stripped in front of it. -/
theorem stripFrom_append_lineEnd (phase : Phase) (held cs rest : List Char) :
  stripFrom phase held (cs ++ '\n' :: rest) = stripFrom phase held cs ++ '\n' :: stripChars rest
  := by
  induction cs generalizing phase held with
  | nil => apply stripFrom_lineEnd
  | cons c cs ih =>
    rw [List.cons_append, stripFrom, stripFrom]
    cases phase.next? c with
    | some next => apply ih
    | none =>
      dsimp only
      split
      · apply ih
      · split <;> simp [ih]

/-- Digits are parameters. -/
theorem isParameter_of_isDigit {c : Char} (h : c.isDigit = true) :
  isParameter c = true
  := by
  simp only [Char.isDigit, Bool.and_eq_true, decide_eq_true_eq] at h
  simp only [isParameter, Bool.and_eq_true, decide_eq_true_eq]
  obtain ⟨hlow, hhigh⟩ := h
  constructor
  · exact hlow
  · exact UInt32.le_trans hhigh (by decide)

/-- Digits and the letter behind them complete a sequence. -/
theorem stripFrom_parameters (held : List Char) {ds : List Char} (hds : ∀ d ∈ ds, d.isDigit = true)
    (cs : List Char) :
  stripFrom .parameters held (ds ++ 'm' :: cs) = stripChars cs
  := by
  induction ds generalizing held with
  | nil => rfl
  | cons d ds ih =>
    rw [List.forall_mem_cons] at hds
    obtain ⟨hd, hds⟩ := hds
    have hnext : Phase.next? .parameters d = some .parameters := by
      rw [Phase.next?, if_pos (isParameter_of_isDigit hd)]
    rw [List.cons_append, stripFrom, hnext]
    apply ih _ hds

/-- A scan brings in no characters. -/
theorem stripFrom_subset (phase : Phase) (held cs : List Char) :
  stripFrom phase held cs ⊆ held ++ cs
  := by
  induction cs generalizing phase held with
  | nil =>
    rw [stripFrom, List.append_nil]
    apply List.Subset.refl
  | cons c cs ih =>
    rw [stripFrom]
    cases phase.next? c with
    | some next =>
      have hnext := ih next (held ++ [c])
      rwa [List.append_assoc, List.singleton_append] at hnext
    | none =>
      have hplain : stripFrom .plain [] cs ⊆ cs := ih .plain []
      have hescape : stripFrom .escape [c] cs ⊆ c :: cs := ih .escape [c]
      dsimp only
      split
      · apply List.Subset.trans hplain
        apply List.Subset.trans (List.subset_cons_self c cs)
        apply List.subset_append_right
      · split
        · apply List.append_subset.mpr
          refine ⟨List.subset_append_left held (c :: cs), ?_⟩
          apply List.Subset.trans hescape
          apply List.subset_append_right
        · apply List.append_subset.mpr
          refine ⟨List.subset_append_left held (c :: cs), ?_⟩
          apply List.Subset.trans _ (List.subset_append_right held (c :: cs))
          apply List.cons_subset_cons c hplain

/-- The scan for control sequences removes them. -/
theorem removesSequences_stripChars :
  RemovesSequences stripChars
  where
  nil := rfl
  cons c cs hc := stripChars_cons hc cs
  select code cs := by
    rw [select_append]
    apply stripFrom_parameters
    intro d hd
    apply Nat.isDigit_of_mem_toDigits (by decide) (by decide) hd
  lineEnd cs rest := stripFrom_append_lineEnd .plain [] cs rest
  subset cs := stripFrom_subset .plain [] cs

/-! ### Removers -/

/-- A function that removes control sequences. -/
structure Remover where
  remove : List Char → List Char
  removes : RemovesSequences remove

/-- The scan from the left. -/
def Remover.scan : Remover :=
  ⟨stripChars, removesSequences_stripChars⟩

/-- The text without its control sequences. -/
def Remover.strip (r : Remover) (text : String) : String :=
  String.ofList (r.remove text.toList)

end Diagnostics.Ansi
