import Diagnostics.Proofs.Json.Numbers
import Diagnostics.Proofs.Json.Strings

/-!
# The JSON round trip

A value without doubles, in whose objects no key is repeated, is read back from its JSON
text in every layout (`Json.read_print`). The readers of values, items and members are
followed step by step; their fuel is measured by the length of the text.
-/

namespace Diagnostics

/-! ### Regular values -/

namespace Value

variable {τ : Type}

/-- The first value is the second one or stands somewhere in it. -/
inductive Within : Value τ → Value τ → Prop
  | self {v : Value τ} : Within v v
  | item {u v : Value τ} {items : List (Value τ)} : v ∈ items → Within u v → Within u (.list items)
  | member {u v : Value τ} {key : τ} {members : Members τ} :
    (key, v) ∈ members → Within u v → Within u (.object members)

/-- No double stands in the value, and no object in it repeats a key. -/
structure Regular (v : Value τ) : Prop where
  noFloat : ∀ x, ¬ Within (.float x) v
  distinct : ∀ ms, Within (.object ms) v → (ms.map Prod.fst).Nodup

/-- The items of a regular list are regular. -/
theorem Regular.item {v : Value τ} {items : List (Value τ)} (h : (list items).Regular) (hv : v ∈ items) :
  v.Regular
  where
  noFloat x hx := h.noFloat x (.item hv hx)
  distinct ms hms := h.distinct ms (.item hv hms)

/-- The members of a regular object are regular. -/
theorem Regular.member {v : Value τ} {key : τ} {ms : Members τ} (h : (object ms).Regular)
    (hv : (key, v) ∈ ms) :
  v.Regular
  where
  noFloat x hx := h.noFloat x (.member hv hx)
  distinct ms hms := h.distinct ms (.member hv hms)

end Value

namespace Json

open Decimal

/-! ### White space -/

/-- White space in front makes no difference to what is skipped. -/
theorem skipSpace_append {blanks : List Char} (h : ∀ c ∈ blanks, isSpace c = true) (cs : List Char) :
  skipSpace (blanks ++ cs) = skipSpace cs
  := by
  apply List.dropWhile_append_of_pos h

/-- Nothing is skipped in front of another character. -/
theorem skipSpace_cons {c : Char} (h : isSpace c = false) (cs : List Char) :
  skipSpace (c :: cs) = c :: cs
  := by
  simp [skipSpace, h]

/-- What stands between a bracket and its content is white space. -/
theorem Layout.isSpace_edge (layout : Layout) (level : Nat) :
  ∀ c ∈ layout.edge level, isSpace c = true
  := by
  intro c hc
  cases layout with
  | compact => contradiction
  | indented width =>
    obtain rfl | hc := List.mem_cons.mp hc
    · rfl
    · obtain rfl := List.eq_of_mem_replicate hc
      rfl

/-- A separator is a comma with white space behind it. -/
theorem Layout.exists_separator_eq (layout : Layout) (level : Nat) :
  ∃ blanks, layout.separator level = ',' :: blanks ∧ ∀ c ∈ blanks, isSpace c = true
  := by
  cases layout with
  | compact =>
    use [' '], rfl
    simp [isSpace]
  | indented width => use (indented width).edge level, rfl, (indented width).isSpace_edge level

/-- A number ends where white space and then no part of a number follows. -/
theorem endsNumber_append {blanks cs : List Char} (h : ∀ c ∈ blanks, isSpace c = true)
    (hcs : EndsNumber cs) :
  EndsNumber (blanks ++ cs)
  := by
  cases blanks with
  | nil => apply hcs
  | cons c blanks =>
    apply endsNumber_cons
    have hc := h c List.mem_cons_self
    simp only [isSpace, Bool.or_eq_true, beq_iff_eq] at hc
    obtain ((rfl | rfl) | rfl) | rfl := hc
    all_goals decide

/-! ### First characters -/

/-- A digit is neither white space nor a bracket nor a byte order mark. -/
theorem startsValue_of_isDigit {c : Char} (h : c.isDigit = true) :
  isSpace c = false ∧ c ≠ ']' ∧ c ≠ '\ufeff'
  := by
  have hne : ∀ d : Char, d.isDigit = false → c ≠ d := by
    rintro d hd rfl
    simp [h] at hd
  simp [isSpace, hne]

/-- A value without doubles starts neither with white space nor with a closing bracket nor with a
byte order mark. -/
theorem exists_printAt_eq_cons (layout : Layout) (level : Nat) {v : Value} (h : v.Regular) :
  ∃ c cs, printAt layout level v = c :: cs ∧ isSpace c = false ∧ c ≠ ']' ∧ c ≠ '\ufeff'
  := by
  cases v with
  | null =>
    use 'n', ['u', 'l', 'l'], by simp [printAt]
    decide
  | bool b =>
    cases b with
    | true =>
      use 't', ['r', 'u', 'e'], by simp [printAt]
      decide
    | false =>
      use 'f', ['a', 'l', 's', 'e'], by simp [printAt]
      decide
  | int i =>
    obtain ⟨c, cs, hcs, hc⟩ := exists_numeralChars_eq_cons i
    use c, cs, hcs
    obtain hc | rfl := hc
    · apply startsValue_of_isDigit hc
    · decide
  | float x => exact absurd .self (h.noFloat x)
  | text s =>
    use '"', s.units.flatMap unitChars ++ ['"'], rfl
    decide
  | list items =>
    cases items with
    | nil =>
      use '[', [']'], rfl
      decide
    | cons v vs =>
      refine ⟨'[', _, rfl, ?_⟩
      decide
  | object members =>
    cases members with
    | nil =>
      use '\x7b', ['\x7d'], rfl
      decide
    | cons m ms =>
      refine ⟨'\x7b', _, rfl, ?_⟩
      decide

/-! ### Steps of the readers -/

section Steps

variable {fuel : Nat} {blanks cs rest : List Char}

/-- A numeral is read as its integer. -/
theorem readValue_numeralChars (fuel : Nat) (i : Int) (hrest : EndsNumber rest) :
  readValue (fuel + 1) (numeralChars i ++ rest) = .ok (.int i, rest)
  := by
  obtain ⟨c, cs, hcs, hc⟩ := exists_numeralChars_eq_cons i
  have hread := readNumber?_numeralChars i hrest
  rw [hcs, List.cons_append] at hread ⊢
  rw [readValue, hread]
  all_goals
    intro tail heq
    obtain ⟨rfl, -⟩ := List.cons_eq_cons.mp heq
    simp at hc

/-- A list with items is read by its items. -/
theorem readValue_list {c : Char} (hblanks : ∀ b ∈ blanks, isSpace b = true) (hc : isSpace c = false)
    (hclose : c ≠ ']') {items : List Value} (h : readItems fuel (c :: cs) = .ok (items, rest)) :
  readValue (fuel + 1) ('[' :: (blanks ++ c :: cs)) = .ok (.list items, rest)
  := by
  simp [readValue, skipSpace_append hblanks, skipSpace_cons hc, hclose, h, Except.map]

/-- An object with members is read by its members. -/
theorem readValue_object (hblanks : ∀ b ∈ blanks, isSpace b = true) {ms : Members}
    (h : readMembers fuel ('"' :: cs) = .ok (ms, rest)) :
  readValue (fuel + 1) ('{' :: (blanks ++ '"' :: cs)) = .ok (.object (Members.ofWritten ms), rest)
  := by
  have hquote : isSpace '"' = false := rfl
  simp [readValue, skipSpace_append hblanks, skipSpace_cons hquote, h, Except.map]

/-- An item in front of the closing bracket is the last one. -/
theorem readItems_last (hblanks : ∀ b ∈ blanks, isSpace b = true) {v : Value}
    (h : readValue fuel cs = .ok (v, blanks ++ ']' :: rest)) :
  readItems (fuel + 1) cs = .ok ([v], rest)
  := by
  have hclose : isSpace ']' = false := rfl
  simp [readItems, h, skipSpace_append hblanks, skipSpace_cons hclose]

/-- Items go on behind a comma. -/
theorem readItems_more (hblanks : ∀ b ∈ blanks, isSpace b = true) {more : List Char}
    (hskip : skipSpace more = more) {v : Value} {vs : List Value}
    (h : readValue fuel cs = .ok (v, ',' :: (blanks ++ more)))
    (hmore : readItems fuel more = .ok (vs, rest)) :
  readItems (fuel + 1) cs = .ok (v :: vs, rest)
  := by
  have hcomma : isSpace ',' = false := rfl
  simp [readItems, h, skipSpace_cons hcomma, skipSpace_append hblanks, hskip, hmore, Except.map]

/-- A member in front of the closing brace is the last one. -/
theorem readMembers_last (key : RawText) (hblanks : ∀ b ∈ blanks, isSpace b = true)
    (hcs : skipSpace cs = cs) {v : Value} (h : readValue fuel cs = .ok (v, blanks ++ '}' :: rest)) :
  readMembers (fuel + 1) (stringChars key ++ ':' :: ' ' :: cs) = .ok ([(key, v)], rest)
  := by
  have hcolon : isSpace ':' = false := rfl
  have hbehind : skipSpace (' ' :: cs) = cs := hcs
  have hclose : isSpace '}' = false := rfl
  simp [stringChars, readMembers, readString_stringChars, skipSpace_cons hcolon, hbehind, h,
    skipSpace_append hblanks, skipSpace_cons hclose]

/-- Members go on behind a comma. -/
theorem readMembers_more (key : RawText) (hblanks : ∀ b ∈ blanks, isSpace b = true)
    (hcs : skipSpace cs = cs) {more : List Char} (hskip : skipSpace more = more) {v : Value}
    {ms : Members} (h : readValue fuel cs = .ok (v, ',' :: (blanks ++ more)))
    (hmore : readMembers fuel more = .ok (ms, rest)) :
  readMembers (fuel + 1) (stringChars key ++ ':' :: ' ' :: cs) = .ok ((key, v) :: ms, rest)
  := by
  have hcolon : isSpace ':' = false := rfl
  have hbehind : skipSpace (' ' :: cs) = cs := hcs
  have hcomma : isSpace ',' = false := rfl
  simp [stringChars, readMembers, readString_stringChars, skipSpace_cons hcolon, hbehind, h,
    skipSpace_cons hcomma, skipSpace_append hblanks, hskip, hmore, Except.map]

end Steps

/-! ### Runs of the readers -/

/-- With this fuel the readers take back what was written in a layout, two steps for each character
allowed. -/
structure ReadsBack (layout : Layout) (fuel : Nat) : Prop where
  value : ∀ (level : Nat) {v : Value} {rest : List Char}, v.Regular → EndsNumber rest →
    2 * (printAt layout level v).length ≤ fuel →
    readValue fuel (printAt layout level v ++ rest) = .ok (v, rest)
  items : ∀ (level outer : Nat) {v : Value} {vs : List Value} (rest : List Char),
    (∀ u ∈ v :: vs, u.Regular) →
    2 * (printAt layout level v ++ printItems layout level vs).length + 1 ≤ fuel →
    readItems fuel
        (printAt layout level v ++ (printItems layout level vs ++ (layout.edge outer ++ ']' :: rest)))
      = .ok (v :: vs, rest)
  members : ∀ (level outer : Nat) {key : RawText} {v : Value} {ms : Members} (rest : List Char),
    (∀ m ∈ (key, v) :: ms, m.2.Regular) →
    2 * (stringChars key ++ printAt layout level v
      ++ printMembers layout level ms).length + 1 ≤ fuel →
    readMembers fuel (stringChars key ++ ':' :: ' ' :: (printAt layout level v
        ++ (printMembers layout level ms ++ (layout.edge outer ++ '}' :: rest))))
      = .ok ((key, v) :: ms, rest)

/-- Nothing is skipped in front of a regular value. -/
theorem skipSpace_printAt (layout : Layout) (level : Nat) {v : Value} (h : v.Regular)
    (rest : List Char) :
  skipSpace (printAt layout level v ++ rest) = printAt layout level v ++ rest
  := by
  obtain ⟨c, cs, hcs, hc, -⟩ := exists_printAt_eq_cons layout level h
  rw [hcs, List.cons_append, skipSpace_cons hc]

namespace ReadsBack

variable {layout : Layout} {fuel level outer : Nat} {rest : List Char}

/-- One more step of fuel takes back one more item. -/
theorem items_succ (h : ReadsBack layout fuel) {v : Value} {vs : List Value}
    (hregular : ∀ u ∈ v :: vs, u.Regular)
    (hfuel : 2 * (printAt layout level v ++ printItems layout level vs).length + 1 ≤ fuel + 1) :
  readItems (fuel + 1)
      (printAt layout level v ++ (printItems layout level vs ++ (layout.edge outer ++ ']' :: rest)))
    = .ok (v :: vs, rest)
  := by
  obtain ⟨hv, hvs⟩ := List.forall_mem_cons.mp hregular
  rw [List.length_append] at hfuel
  cases vs with
  | nil =>
    apply readItems_last (layout.isSpace_edge outer)
    apply h.value level hv
    · apply endsNumber_append (layout.isSpace_edge outer)
      apply endsNumber_cons
      decide
    · omega
  | cons w ws =>
    obtain ⟨blanks, hseparator, hblanks⟩ := layout.exists_separator_eq level
    have hw := hvs w List.mem_cons_self
    rw [printItems, hseparator] at hfuel ⊢
    simp only [List.length_append, List.length_cons, List.append_assoc, List.cons_append] at hfuel ⊢
    apply readItems_more hblanks (skipSpace_printAt layout level hw _)
    · apply h.value level hv
      · apply endsNumber_cons
        decide
      · omega
    · apply h.items level outer rest hvs
      rw [List.length_append]
      omega

/-- One more step of fuel takes back one more member. -/
theorem members_succ (h : ReadsBack layout fuel) {key : RawText} {v : Value} {ms : Members}
    (hregular : ∀ m ∈ (key, v) :: ms, m.2.Regular)
    (hfuel : 2 * (stringChars key ++ printAt layout level v
      ++ printMembers layout level ms).length + 1 ≤ fuel + 1) :
  readMembers (fuel + 1) (stringChars key ++ ':' :: ' ' :: (printAt layout level v
      ++ (printMembers layout level ms ++ (layout.edge outer ++ '}' :: rest))))
    = .ok ((key, v) :: ms, rest)
  := by
  have hv : v.Regular := hregular (key, v) List.mem_cons_self
  have hms := (List.forall_mem_cons.mp hregular).2
  rw [List.length_append, List.length_append] at hfuel
  have hskip := skipSpace_printAt layout level hv
  cases ms with
  | nil =>
    apply readMembers_last key (layout.isSpace_edge outer) (hskip _)
    apply h.value level hv
    · apply endsNumber_append (layout.isSpace_edge outer)
      apply endsNumber_cons
      decide
    · omega
  | cons m ms =>
    obtain ⟨next, w⟩ := m
    obtain ⟨blanks, hseparator, hblanks⟩ := layout.exists_separator_eq level
    have hquote : isSpace '"' = false := rfl
    rw [printMembers, hseparator] at hfuel ⊢
    simp only [List.length_append, List.length_cons, List.append_assoc, List.cons_append] at hfuel ⊢
    apply readMembers_more key hblanks (hskip _) (skipSpace_cons hquote _)
    · apply h.value level hv
      · apply endsNumber_cons
        decide
      · omega
    · apply h.members level outer rest hms
      rw [List.length_append, List.length_append]
      omega

/-- One more step of fuel takes back a value whose items or members were taken back before. -/
theorem value_succ (h : ReadsBack layout fuel) {v : Value} (hv : v.Regular) (hrest : EndsNumber rest)
    (hfuel : 2 * (printAt layout level v).length ≤ fuel + 1) :
  readValue (fuel + 1) (printAt layout level v ++ rest) = .ok (v, rest)
  := by
  cases v with
  | null => simp [printAt, readValue]
  | bool b => cases b <;> simp [printAt, readValue]
  | int i => apply readValue_numeralChars fuel i hrest
  | float x => exact absurd .self (hv.noFloat x)
  | text s => simp [printAt, stringChars, readValue, readString_stringChars, Except.map]
  | list items =>
    cases items with
    | nil => simp [printAt, readValue, skipSpace, isSpace]
    | cons v vs =>
      have hitems : ∀ u ∈ v :: vs, u.Regular := fun _ => hv.item
      have hv' := hitems v List.mem_cons_self
      obtain ⟨c, cs, hcs, hc, hclose, -⟩ := exists_printAt_eq_cons layout (level + 1) hv'
      have hread := h.items (level + 1) level rest hitems (by
        simp only [printAt, List.length_append, List.length_cons] at hfuel ⊢
        omega)
      simp only [printAt, List.cons_append, List.append_assoc, List.nil_append, hcs] at hread ⊢
      apply readValue_list (layout.isSpace_edge _) hc hclose hread
  | object members =>
    cases members with
    | nil => simp [printAt, readValue, skipSpace, isSpace]
    | cons m ms =>
      obtain ⟨key, v⟩ := m
      have hms : ∀ m ∈ (key, v) :: ms, m.2.Regular := fun _ => hv.member
      have hread := h.members (level + 1) level rest hms (by
        simp only [printAt, List.length_append, List.length_cons] at hfuel ⊢
        omega)
      have hwritten := Members.ofWritten_of_nodup (hv.distinct _ .self)
      simp only [printAt, stringChars, List.cons_append, List.append_assoc, List.nil_append] at hread ⊢
      rw [← hwritten]
      apply readValue_object (layout.isSpace_edge _) hread

end ReadsBack

/-- With any fuel the readers take back what was written. -/
theorem readsBack (layout : Layout) (fuel : Nat) :
  ReadsBack layout fuel
  := by
  induction fuel with
  | zero =>
    constructor
    · intro level v rest hv _ hfuel
      obtain ⟨c, cs, hcs, -⟩ := exists_printAt_eq_cons layout level hv
      simp [hcs] at hfuel
    · intros
      contradiction
    · intros
      contradiction
  | succ fuel ih =>
    constructor
    · intro level v rest
      apply ih.value_succ
    · intro level outer v vs rest
      apply ih.items_succ
    · intro level outer key v ms rest
      apply ih.members_succ

/-! ### The round trip -/

/-- A regular value is read back from its JSON text in every layout. -/
theorem read_print (layout : Layout) {v : Value} (h : v.Regular) :
  read (print layout v) = .ok v
  := by
  obtain ⟨c, cs, hcs, hc, -, hmark⟩ := exists_printAt_eq_cons layout 0 h
  have hend : EndsNumber [] := by
    intro d hd
    contradiction
  have hvalue := (readsBack layout (2 * (printAt layout 0 v).length + 1)).value 0 h hend (Nat.le_succ _)
  rw [List.append_nil] at hvalue
  have hall : readAll (printAt layout 0 v) = .ok v := by
    rw [hcs] at hvalue ⊢
    rw [readAll, skipSpace_cons hc, hvalue]
    · rfl
    · intro tail heq
      apply hmark (List.cons_eq_cons.mp heq).1
  simp [read, print, hall, Except.mapError]

end Json

end Diagnostics
