import Diagnostics.Proofs.Json.RoundTrip

/-!
# JSON in printable ASCII

Whatever characters the texts in a value have, its JSON text is made of printable ASCII, with
line ends between items in the indented layout only (`Json.fills_print`). So in the compact
layout it is one line, and in no layout does it hold a control sequence.
-/

namespace Diagnostics

/-- The character is printable ASCII. -/
def Text.IsGraphic (c : Char) : Prop :=
  0x20 ≤ c.toNat ∧ c.toNat ≤ 0x7e

instance : DecidablePred Text.IsGraphic :=
  fun c => inferInstanceAs (Decidable (0x20 ≤ c.toNat ∧ c.toNat ≤ 0x7e))

namespace Json

open Decimal Text

/-! ### Texts -/

theorem isGraphic_of_isDigit {c : Char} (h : c.isDigit = true) :
  IsGraphic c
  := by
  have hbounds : 48 ≤ c.toNat ∧ c.toNat ≤ 57 := by
    simpa [Char.isDigit, UInt32.le_iff_toNat_le] using h
  constructor <;> omega

theorem isGraphic_of_mem_hexDigits {width n : Nat} {c : Char} (h : c ∈ hexDigits width n) :
  IsGraphic c
  := by
  have hall : ∀ i : Fin 16, IsGraphic (hexDigit i) := by decide
  induction width with
  | zero => contradiction
  | succ width ih =>
    obtain rfl | h := List.mem_cons.mp h
    · apply hall ⟨_, Nat.mod_lt _ (by decide)⟩
    · apply ih h

/-- The escape of a unit is printable. -/
theorem isGraphic_of_mem_unitEscape {n : Nat} {c : Char} (h : c ∈ unitEscape n) :
  IsGraphic c
  := by
  rw [unitEscape, List.mem_cons, List.mem_cons] at h
  obtain rfl | rfl | h := h
  · decide
  · decide
  · apply isGraphic_of_mem_hexDigits h

/-- A character of any kind is written in printable ones. -/
theorem isGraphic_of_mem_escapeChar {c d : Char} (h : d ∈ escapeChar c) :
  IsGraphic d
  := by
  have hshort : ∀ letter : Char, IsGraphic letter → d ∈ ['\\', letter] → IsGraphic d := by
    intro letter hletter hd
    obtain rfl | hd := List.mem_cons.mp hd
    · decide
    · rwa [List.mem_singleton.mp hd]
  unfold escapeChar at h
  split_ifs at h with hquote hback hn hr ht hb hf hprintable
  · apply hshort _ (by decide) h
  · apply hshort _ (by decide) h
  · apply hshort _ (by decide) h
  · apply hshort _ (by decide) h
  · apply hshort _ (by decide) h
  · apply hshort _ (by decide) h
  · apply hshort _ (by decide) h
  · obtain rfl := List.mem_singleton.mp h
    obtain ⟨hlow, hhigh⟩ := hprintable
    exact ⟨hlow, by omega⟩
  · apply isGraphic_of_mem_unitEscape h

/-- A unit of any kind is written in printable characters. -/
theorem isGraphic_of_mem_unitChars {u : UInt16} {d : Char} (h : d ∈ unitChars u) :
  IsGraphic d
  := by
  rw [unitChars] at h
  split at h
  · apply isGraphic_of_mem_escapeChar h
  · apply isGraphic_of_mem_unitEscape h

/-- A text is written in printable characters. -/
theorem isGraphic_stringChars (t : RawText) :
  ∀ c ∈ stringChars t, IsGraphic c
  := by
  have hquote : IsGraphic '"' := by decide
  rw [stringChars, List.forall_mem_append, List.forall_mem_cons, List.forall_mem_singleton]
  refine ⟨⟨hquote, ?_⟩, hquote⟩
  intro d hd
  obtain ⟨u, -, hd⟩ := List.mem_flatMap.mp hd
  apply isGraphic_of_mem_unitChars hd

theorem isGraphic_numeralChars (i : Int) :
  ∀ c ∈ numeralChars i, IsGraphic c
  := by
  cases i with
  | ofNat n => exact fun c hc => isGraphic_of_isDigit (isDigit_of_mem_digits hc)
  | negSucc n =>
    rw [numeralChars, List.forall_mem_cons]
    exact ⟨by decide, fun c hc => isGraphic_of_isDigit (isDigit_of_mem_digits hc)⟩

/-! ### Layouts -/

/-- The character may stand in a text of the layout: a printable one, and where items stand on lines of
their own a line end. -/
inductive Layout.Fills : Layout → Char → Prop
  | graphic {layout : Layout} {c : Char} (h : IsGraphic c) : Fills layout c
  | lineEnd {width : Nat} : Fills (.indented width) '\n'

namespace Layout

variable (layout : Layout)

theorem fills_of_isGraphic {cs : List Char} (h : ∀ c ∈ cs, IsGraphic c) :
  ∀ c ∈ cs, layout.Fills c
  := fun c hc => .graphic (h c hc)

/-- Characters that are printable when they are looked through one by one. -/
theorem fills_of_all {cs : List Char} (h : (cs.all fun c => IsGraphic c) = true) :
  ∀ c ∈ cs, layout.Fills c
  := by
  apply fills_of_isGraphic
  simpa using h

theorem fills_edge (level : Nat) :
  ∀ c ∈ layout.edge level, layout.Fills c
  := by
  cases layout with
  | compact => simp [edge]
  | indented width =>
    rw [edge, List.forall_mem_cons]
    use .lineEnd
    intro c hc
    obtain rfl := List.eq_of_mem_replicate hc
    apply Fills.graphic
    decide

theorem fills_separator (level : Nat) :
  ∀ c ∈ layout.separator level, layout.Fills c
  := by
  cases layout with
  | compact =>
    apply fills_of_all
    rw [separator]
    decide
  | indented width =>
    rw [separator, List.forall_mem_cons]
    use .graphic (by decide), fills_edge _ level

end Layout

/-! ### Values -/

mutual

/-- A value without doubles is written in the characters of its layout. -/
theorem fills_printAt (layout : Layout) (level : Nat) (v : Value) (hv : v.Regular) :
  ∀ c ∈ printAt layout level v, layout.Fills c
  := by
  match v with
  | .null | .bool true | .bool false | .list [] | .object [] =>
    apply layout.fills_of_all
    simp only [printAt]
    decide
  | .int i =>
    rw [printAt]
    apply layout.fills_of_isGraphic (isGraphic_numeralChars i)
  | .float x => exact absurd .self (hv.noFloat x)
  | .text s =>
    rw [printAt]
    apply layout.fills_of_isGraphic (isGraphic_stringChars s)
  | .list (v :: vs) =>
    have hitems : ∀ u ∈ v :: vs, u.Regular := fun _ => hv.item
    obtain ⟨hhead, htail⟩ := List.forall_mem_cons.mp hitems
    have hopen : layout.Fills '[' := .graphic (by decide)
    have hclose : layout.Fills ']' := .graphic (by decide)
    simp only [printAt, List.forall_mem_append, List.forall_mem_cons]
    exact ⟨⟨⟨⟨⟨hopen, layout.fills_edge _⟩, fills_printAt layout _ v hhead⟩,
      fills_printItems layout _ vs htail⟩, layout.fills_edge _⟩, hclose, List.forall_mem_nil _⟩
  | .object ((key, v) :: ms) =>
    have hmembers : ∀ m ∈ (key, v) :: ms, m.2.Regular := fun _ => hv.member
    obtain ⟨hhead, htail⟩ := List.forall_mem_cons.mp hmembers
    have hopen : layout.Fills '\x7b' := .graphic (by decide)
    have hclose : layout.Fills '\x7d' := .graphic (by decide)
    have hcolon : layout.Fills ':' := .graphic (by decide)
    have hblank : layout.Fills ' ' := .graphic (by decide)
    have hkey := layout.fills_of_isGraphic (isGraphic_stringChars key)
    simp only [printAt, List.forall_mem_append, List.forall_mem_cons]
    exact ⟨⟨⟨⟨⟨⟨hopen, layout.fills_edge _⟩, hkey⟩, hcolon, hblank, fills_printAt layout _ v hhead⟩,
      fills_printMembers layout _ ms htail⟩, layout.fills_edge _⟩, hclose, List.forall_mem_nil _⟩

/-- So are the items of a list. -/
theorem fills_printItems (layout : Layout) (level : Nat) (vs : List Value) (hvs : ∀ v ∈ vs, v.Regular) :
  ∀ c ∈ printItems layout level vs, layout.Fills c
  := by
  match vs with
  | [] => simp [printItems]
  | v :: vs =>
    obtain ⟨hhead, htail⟩ := List.forall_mem_cons.mp hvs
    simp only [printItems, List.forall_mem_append]
    use ⟨layout.fills_separator level, fills_printAt layout level v hhead⟩,
      fills_printItems layout level vs htail

/-- So are the members of an object. -/
theorem fills_printMembers (layout : Layout) (level : Nat) (ms : Members) (hms : ∀ m ∈ ms, m.2.Regular) :
  ∀ c ∈ printMembers layout level ms, layout.Fills c
  := by
  match ms with
  | [] => simp [printMembers]
  | (key, v) :: ms =>
    obtain ⟨hhead, htail⟩ := List.forall_mem_cons.mp hms
    have hcolon : layout.Fills ':' := .graphic (by decide)
    have hblank : layout.Fills ' ' := .graphic (by decide)
    have hkey := layout.fills_of_isGraphic (isGraphic_stringChars key)
    simp only [printMembers, List.forall_mem_append, List.forall_mem_cons]
    exact ⟨⟨⟨layout.fills_separator level, hkey⟩, hcolon, hblank, fills_printAt layout level v hhead⟩,
      fills_printMembers layout level ms htail⟩

end

/-- The JSON text of a value without doubles is made of printable ASCII, with line ends where the layout
sets items apart. -/
theorem fills_print (layout : Layout) {v : Value} (hv : v.Regular) :
  ∀ c ∈ (print layout v).toList, layout.Fills c
  := by
  rw [print, String.toList_ofList]
  apply fills_printAt layout 0 v hv

end Json

end Diagnostics
