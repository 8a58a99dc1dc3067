import Diagnostics.Proofs.Text.Lines

/-!
# The terminators of lines

`splitLines` returns the pieces of a text between the terminators of its lines, and `terminatorsOf` the
terminators themselves, which are found by going through the text once. There is one piece more than there
are terminators (`length_splitLines`); the characters that may end a line are counted once for each
terminator, but those of a CR LF are two (`length_terminatorsOf`); and the pieces with the terminators put
back between them are the text (`flatten_zipWith_splitLines`). Together these say what it is for a text to be
cut into its lines (`IsCut`).
-/

namespace Diagnostics.Text

/-! ### Terminators -/

/-- The terminators, in the order in which they are tried. CR LF stands before CR. -/
def terminators : List (List Char) :=
  [['\r', '\n'], ['\n'], ['\r'], ['\u2028'], ['\u2029']]

/-- The first of the terminators with which a text starts. -/
def terminator? (cs : List Char) : Option (List Char) :=
  terminators.find? (·.isPrefixOf cs)

/-- The terminators of a text from the left to the right, behind `skip` characters that belong to the one
found before. -/
def terminatorsFrom : Nat → List Char → List (List Char)
  | _, [] => []
  | skip + 1, _ :: cs => terminatorsFrom skip cs
  | 0, c :: cs =>
    match terminator? (c :: cs) with
    | some terminator => terminator :: terminatorsFrom (terminator.length - 1) cs
    | none => terminatorsFrom 0 cs

/-- The terminators of a text. -/
def terminatorsOf (cs : List Char) : List (List Char) :=
  terminatorsFrom 0 cs

variable {c : Char} {cs : List Char}

/-- The terminators that are found are among those that are tried. -/
theorem mem_terminators_of_mem_terminatorsFrom {skip : Nat} {terminator : List Char}
    (h : terminator ∈ terminatorsFrom skip cs) :
  terminator ∈ terminators
  := by
  induction cs generalizing skip with
  | nil => simp [terminatorsFrom] at h
  | cons c cs ih =>
    cases skip with
    | succ skip => exact ih h
    | zero =>
      rw [terminatorsFrom] at h
      split at h
      · next found hfound =>
        obtain rfl | hrest := List.mem_cons.mp h
        · exact List.mem_of_find?_eq_some hfound
        · exact ih hrest
      · exact ih h

theorem terminatorsOf_return_feed (cs : List Char) :
  terminatorsOf ('\r' :: '\n' :: cs) = ['\r', '\n'] :: terminatorsOf cs
  := rfl

/-- A character that ends a line is a terminator, unless it is a CR in front of an LF. -/
theorem terminatorsOf_cons_of_isTerminator (hfeed : ∀ rest, c = '\r' → cs = '\n' :: rest → False)
    (h : isTerminator c = true) :
  terminatorsOf (c :: cs) = [c] :: terminatorsOf cs
  := by
  have hfound : terminator? (c :: cs) = some [c] := by
    simp only [isTerminator, Bool.or_eq_true, beq_iff_eq] at h
    obtain ((rfl | rfl) | rfl) | rfl := h
    · rfl
    · cases cs with
      | nil => rfl
      | cons d cs =>
        have hd : d ≠ '\n' := by
          rintro rfl
          exact hfeed cs rfl rfl
        simp [terminator?, terminators, List.isPrefixOf, List.find?, Ne.symm hd]
    · rfl
    · rfl
  rw [terminatorsOf, terminatorsFrom, hfound]
  rfl

theorem terminatorsOf_cons_of_not_isTerminator (h : ¬ isTerminator c = true) :
  terminatorsOf (c :: cs) = terminatorsOf cs
  := by
  have hfound : terminator? (c :: cs) = none := by
    simp only [isTerminator, Bool.or_eq_true, beq_iff_eq, not_or] at h
    obtain ⟨⟨⟨hfeed, hreturn⟩, hline⟩, hparagraph⟩ := h
    simp [terminator?, terminators, Ne.symm hfeed, Ne.symm hreturn, Ne.symm hline, Ne.symm hparagraph]
  rw [terminatorsOf, terminatorsFrom, hfound]
  rfl

/-! ### Pieces and terminators -/

theorem length_consFirst {pieces : List (List Char)} (h : pieces ≠ []) :
  (consFirst c pieces).length = pieces.length
  := by
  obtain ⟨piece, pieces, rfl⟩ := List.exists_cons_of_ne_nil h
  rfl

/-- There is one piece more than there are terminators. -/
theorem length_splitLines (cs : List Char) :
  (splitLines cs).length = (terminatorsOf cs).length + 1
  := by
  induction cs using splitLines.induct with
  | case1 => rfl
  | case2 cs ih => rw [splitLines, terminatorsOf_return_feed, List.length_cons, List.length_cons, ih]
  | case3 c cs hfeed hterminator ih =>
    rw [splitLines_cons_of_isTerminator hfeed hterminator,
      terminatorsOf_cons_of_isTerminator hfeed hterminator,
      List.length_cons, List.length_cons, ih]
  | case4 c cs hfeed hterminator ih =>
    rw [splitLines_cons_of_not_isTerminator hterminator, length_consFirst (splitLines_ne_nil cs),
      terminatorsOf_cons_of_not_isTerminator hterminator, ih]

/-- Extending the first piece by a character puts this in front of the text. -/
theorem flatten_zipWith_consFirst {pieces ends : List (List Char)} (hpieces : pieces ≠ []) (hends : ends ≠ []) :
  (List.zipWith (· ++ ·) (consFirst c pieces) ends).flatten
    = c :: (List.zipWith (· ++ ·) pieces ends).flatten
  := by
  obtain ⟨piece, pieces, rfl⟩ := List.exists_cons_of_ne_nil hpieces
  obtain ⟨first, ends, rfl⟩ := List.exists_cons_of_ne_nil hends
  rfl

/-- The pieces with the terminators behind them, and none behind the last, are the text. -/
theorem flatten_zipWith_splitLines (cs : List Char) :
  (List.zipWith (· ++ ·) (splitLines cs) (terminatorsOf cs ++ [[]])).flatten = cs
  := by
  induction cs using splitLines.induct with
  | case1 => rfl
  | case2 cs ih =>
    rw [splitLines, terminatorsOf_return_feed, List.cons_append, List.zipWith_cons_cons, List.flatten_cons, ih]
    rfl
  | case3 c cs hfeed hterminator ih =>
    rw [splitLines_cons_of_isTerminator hfeed hterminator,
      terminatorsOf_cons_of_isTerminator hfeed hterminator,
      List.cons_append, List.zipWith_cons_cons, List.flatten_cons, ih]
    rfl
  | case4 c cs hfeed hterminator ih =>
    rw [splitLines_cons_of_not_isTerminator hterminator,
      terminatorsOf_cons_of_not_isTerminator hterminator,
      flatten_zipWith_consFirst (splitLines_ne_nil cs) (by simp), ih]

/-! ### The number of terminators -/

/-- The number of places at which a CR has an LF directly behind it. -/
def countReturnFeeds (cs : List Char) : Nat :=
  (cs.zip cs.tail).count ('\r', '\n')

theorem countReturnFeeds_return_feed (cs : List Char) :
  countReturnFeeds ('\r' :: '\n' :: cs) = countReturnFeeds cs + 1
  := by
  cases cs <;> simp [countReturnFeeds]

theorem countReturnFeeds_cons (hfeed : ∀ rest, c = '\r' → cs = '\n' :: rest → False) :
  countReturnFeeds (c :: cs) = countReturnFeeds cs
  := by
  cases cs with
  | nil => rfl
  | cons d cs =>
    have hpair : (c, d) ≠ ('\r', '\n') := by
      rintro ⟨⟩
      exact hfeed cs rfl rfl
    rw [countReturnFeeds, List.tail_cons, List.zip_cons_cons, List.count_cons_of_ne hpair]
    rfl

/-- The characters that may end a line are counted once each, but for an LF directly behind a CR. -/
theorem length_terminatorsOf (cs : List Char) :
  (terminatorsOf cs).length + countReturnFeeds cs = cs.countP isTerminator
  := by
  have hreturn : isTerminator '\r' = true := by decide
  have hfeed : isTerminator '\n' = true := by decide
  induction cs using splitLines.induct with
  | case1 => rfl
  | case2 cs ih =>
    rw [terminatorsOf_return_feed, countReturnFeeds_return_feed, List.length_cons,
      List.countP_cons_of_pos hreturn, List.countP_cons_of_pos hfeed, ← ih]
    omega
  | case3 c cs hfeed hterminator ih =>
    rw [terminatorsOf_cons_of_isTerminator hfeed hterminator, countReturnFeeds_cons hfeed, List.length_cons,
      List.countP_cons_of_pos hterminator, ← ih]
    omega
  | case4 c cs hfeed hterminator ih =>
    rw [terminatorsOf_cons_of_not_isTerminator hterminator, countReturnFeeds_cons hfeed,
      List.countP_cons_of_neg hterminator, ih]

/-! ### Cutting a text -/

/-- The text is cut into the pieces at the ends, and at all of its terminators. -/
structure IsCut (cs : List Char) (pieces ends : List (List Char)) : Prop where
  /-- No piece has a character that ends a line. -/
  notMem : ∀ piece ∈ pieces, ∀ c ∈ ['\r', '\n', '\u2028', '\u2029'], c ∉ piece
  /-- The text is cut at terminators only. -/
  mem_terminators : ∀ terminator ∈ ends, terminator ∈ terminators
  /-- Between any two pieces next to each other it is cut once. -/
  length_pieces : pieces.length = ends.length + 1
  /-- It is cut once for each character that ends a line, but once only for a CR LF. -/
  length_ends : ends.length + countReturnFeeds cs = cs.countP isTerminator
  /-- Put together again the pieces and the ends are the text. -/
  flatten_eq : (List.zipWith (· ++ ·) pieces (ends ++ [[]])).flatten = cs

theorem isTerminator_of_mem (h : c ∈ ['\r', '\n', '\u2028', '\u2029']) :
  isTerminator c = true
  := by
  simp only [List.mem_cons, List.not_mem_nil, or_false] at h
  obtain rfl | rfl | rfl | rfl := h
  all_goals rfl

/-- A text is cut into its lines at its terminators. -/
theorem isCut_splitLines (cs : List Char) :
  IsCut cs (splitLines cs) (terminatorsOf cs)
  where
  notMem := by
    intro line hline c hc hmem
    obtain ⟨-, hnot⟩ := mem_of_exists_mem_splitLines ⟨line, hline, hmem⟩
    rw [isTerminator_of_mem hc] at hnot
    contradiction
  mem_terminators _ h := mem_terminators_of_mem_terminatorsFrom h
  length_pieces := length_splitLines cs
  length_ends := length_terminatorsOf cs
  flatten_eq := flatten_zipWith_splitLines cs

end Diagnostics.Text
