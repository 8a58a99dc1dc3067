/-!
# Lines

Two ways of cutting text at line ends. `splitLines` cuts at every terminator of
source code (CR LF as one, LF, CR, U+2028, U+2029) and returns the pieces between
them; `unifyNewlines` is what reading a text file does: CR LF and CR become LF.
`splitOn` cuts at one character and `join` puts pieces together again.
-/

namespace Diagnostics.Text

/-- The character ends a line of source code; CR LF counts once. -/
def isTerminator (c : Char) : Bool :=
  c == '\n' || c == '\r' || c == '\u2028' || c == '\u2029'

/-- Adds a character to the first piece. -/
def consFirst (c : Char) : List (List Char) → List (List Char)
  | [] => [[c]]
  | piece :: pieces => (c :: piece) :: pieces

/-- The pieces between the line terminators. -/
def splitLines : List Char → List (List Char)
  | [] => [[]]
  | '\r' :: '\n' :: cs => [] :: splitLines cs
  | c :: cs => if isTerminator c then [] :: splitLines cs else consFirst c (splitLines cs)

/-- CR LF and CR become LF. -/
def unifyNewlines : List Char → List Char
  | [] => []
  | '\r' :: '\n' :: cs => '\n' :: unifyNewlines cs
  | c :: cs => (if c == '\r' then '\n' else c) :: unifyNewlines cs

/-- The pieces between the occurrences of one character. -/
def splitOn (d : Char) : List Char → List (List Char)
  | [] => [[]]
  | c :: cs => if c = d then [] :: splitOn d cs else consFirst c (splitOn d cs)

/-- The pieces with a separator between them. -/
def join {α : Type} (separator : List α) : List (List α) → List α
  | [] => []
  | [piece] => piece
  | piece :: pieces => piece ++ separator ++ join separator pieces

/-- The texts with a separator between them. -/
def joinTexts (separator : String) (texts : List String) : String :=
  String.ofList (join separator.toList (texts.map String.toList))

theorem consFirst_ne_nil (c : Char) (pieces : List (List Char)) :
  consFirst c pieces ≠ []
  := by
  cases pieces <;> simp [consFirst]

theorem splitOn_ne_nil (d : Char) (cs : List Char) :
  splitOn d cs ≠ []
  := by
  cases cs with
  | nil => simp [splitOn]
  | cons c cs =>
    by_cases h : c = d <;> simp [splitOn, h, consFirst_ne_nil]

/-- Cutting at a character and joining with it gives the text back. -/
theorem join_splitOn (d : Char) (cs : List Char) :
  join [d] (splitOn d cs) = cs
  := by
  induction cs with
  | nil => rfl
  | cons c cs ih =>
    obtain ⟨piece, pieces, h⟩ := List.exists_cons_of_ne_nil (splitOn_ne_nil d cs)
    by_cases hc : c = d
    · rw [splitOn, if_pos hc, h, join, ← h, ih, hc]
      · rfl
      · simp
    · rw [splitOn, if_neg hc, h, consFirst]
      rw [h] at ih
      cases pieces with
      | nil => simpa [join] using ih
      | cons q qs => simpa [join] using ih

end Diagnostics.Text
