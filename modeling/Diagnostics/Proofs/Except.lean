import Mathlib.Data.List.Forall2

/-!
# Computations that succeed or fail

When a composite computation in `Except` succeeds, so do its parts; when it fails, one of them does.
-/

namespace Except

variable {ε ε' α β : Type}

/-- A computation whose outcome counts as true succeeds. -/
theorem exists_eq_ok_of_toBool {x : Except ε α} (h : x.toBool = true) :
  ∃ a, x = .ok a
  := by
  cases x with
  | error e => contradiction
  | ok a => use a

/-- A sequence succeeds when its first part does and the rest succeeds on what that gave. -/
theorem bind_eq_ok_iff {x : Except ε α} {f : α → Except ε β} {b : β} :
  x >>= f = .ok b ↔ ∃ a, x = .ok a ∧ f a = .ok b
  := by
  cases x with
  | error e => simp [bind, Except.bind]
  | ok a => simp [bind, Except.bind]

/-- A sequence fails when its first part does, or the rest fails on what that gave. -/
theorem bind_eq_error_iff {x : Except ε α} {f : α → Except ε β} {e : ε} :
  x >>= f = .error e ↔ x = .error e ∨ ∃ a, x = .ok a ∧ f a = .error e
  := by
  cases x with
  | error e' => simp [bind, Except.bind]
  | ok a => simp [bind, Except.bind]

/-- A changed outcome is a success when the outcome is. -/
theorem map_eq_ok_iff {x : Except ε α} {f : α → β} {b : β} :
  x.map f = .ok b ↔ ∃ a, x = .ok a ∧ f a = b
  := by
  cases x with
  | error e => simp [Except.map]
  | ok a => simp [Except.map]

/-- A changed outcome is a failure when the outcome is. -/
theorem map_eq_error_iff {x : Except ε α} {f : α → β} {e : ε} :
  x.map f = .error e ↔ x = .error e
  := by
  cases x with
  | error e' => simp [Except.map]
  | ok a => simp [Except.map]

/-- Changing the error leaves a success as it is. -/
theorem mapError_eq_ok_iff {x : Except ε α} {f : ε → ε'} {a : α} :
  x.mapError f = .ok a ↔ x = .ok a
  := by
  cases x with
  | error e => simp [Except.mapError]
  | ok a => simp [Except.mapError]

/-- A computation that goes over a list succeeds with what it gives for the items. -/
theorem mapM_eq_ok_iff {f : α → Except ε β} {xs : List α} {ys : List β} :
  xs.mapM f = .ok ys ↔ List.Forall₂ (fun x y => f x = .ok y) xs ys
  := by
  induction xs generalizing ys with
  | nil => simp [pure, Except.pure, eq_comm]
  | cons x xs ih =>
    rw [List.mapM_cons, bind_eq_ok_iff, List.forall₂_cons_left_iff]
    constructor
    · rintro ⟨y, hy, hrest⟩
      obtain ⟨ys', hys', hlist⟩ := bind_eq_ok_iff.mp hrest
      cases hlist
      use y, ys', hy, ih.mp hys'
    · rintro ⟨y, ys', hy, hys', rfl⟩
      use y, hy
      rw [ih.mpr hys']
      rfl

end Except
