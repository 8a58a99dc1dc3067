import Diagnostics.CommandLine.Run
import Diagnostics.Proofs.Level
import Diagnostics.Proofs.Pairs
import Diagnostics.Proofs.Settings.ColorMode
import Diagnostics.Proofs.Text.Keyword
import Mathlib.Tactic.Common

/-!
# Spellings on the command line

Levels and colour modes have the same spellings on the command line as in configuration tables, but for
the blanks around them: a choice takes a text as it stands, and a table trims it first
(`CommandLine.choices_spell_alike`). A level is looked up by its small letters in one place and by its
capital letters in the other, which comes to the same for ASCII texts (`Text.lower_eq_iff_upper_eq`).
-/

namespace Diagnostics

open Text

/-! ### Case in ASCII -/

namespace Text

variable {s small capital : String}

/-- All characters of the text are those of ASCII. -/
def IsAscii (s : String) : Prop :=
  ∀ c ∈ s.toList, c.toNat < 128

/-- No character of ASCII is in the tables of images, so it keeps to ASCII in either case. -/
theorem upper_of_isAscii (h : IsAscii s) :
  upper s = String.ofList (s.toList.map Char.toUpper)
  := by
  have himages : ∀ i ∈ upperImages, 128 ≤ i.1.toNat := by decide
  rw [upper, List.map_eq_flatMap]
  congr 1
  apply List.flatMap_congr
  intro c hc
  apply upperChar_of_ne
  rintro i hi rfl
  exact absurd (h _ hc) (Nat.not_lt_of_le (himages i hi))

theorem lower_of_isAscii (h : IsAscii s) :
  lower s = String.ofList (s.toList.map Char.toLower)
  := by
  rw [lower, List.map_eq_flatMap]
  congr 1
  apply List.flatMap_congr
  intro c hc
  rw [lowerChar_eq, if_neg]
  rintro rfl
  exact absurd (h _ hc) (by decide)

/-- A change of case in ASCII undoes the one before. -/
theorem toUpper_toLower_of_ascii {c : Char} (h : c.toNat < 128) :
  c.toLower.toUpper = c.toUpper ∧ c.toUpper.toLower = c.toLower
  := by
  have hall : ∀ n : Fin 128, (Char.ofNat n).toLower.toUpper = (Char.ofNat n).toUpper
      ∧ (Char.ofNat n).toUpper.toLower = (Char.ofNat n).toLower := by decide
  have hc := hall ⟨c.toNat, h⟩
  rwa [Char.ofNat_toNat] at hc

/-- An ASCII text has a word for its lower case exactly when it has the word in capital letters for its
upper case. -/
theorem lower_eq_iff_upper_eq (h : IsAscii s) (hsmall : small.toList = capital.toList.map Char.toLower)
    (hcapital : capital.toList = small.toList.map Char.toUpper) :
  lower s = small ↔ upper s = capital
  := by
  rw [lower_of_isAscii h, upper_of_isAscii h, ← String.toList_inj, ← String.toList_inj,
    String.toList_ofList, String.toList_ofList]
  constructor
  · intro hlower
    rw [hcapital, ← hlower, List.map_map]
    apply List.map_congr_left
    intro c hc
    exact (toUpper_toLower_of_ascii (h c hc)).1.symm
  · intro hupper
    rw [hsmall, ← hupper, List.map_map]
    apply List.map_congr_left
    intro c hc
    exact (toUpper_toLower_of_ascii (h c hc)).2.symm

end Text

namespace CommandLine

/-! ### Words -/

namespace Choice

variable {α : Type} {c : Choice α} {parse : String → Option α} {s : String} {value : α}

/-- On this text the choice agrees with a parser but for blanks at the ends: it reads what the parser
reads from a trimmed text, and it refuses all else with its message, so that the switch with this text
stops the run. -/
structure ReadsLike (c : Choice α) (parse : String → Option α) (s : String) : Prop where
  read_iff : ∀ value, c.read s = .ok value ↔ parse s = some value ∧ IsTrimmed s
  refuse_iff : c.read s = .error (c.message s) ↔ ∀ value, ¬ (parse s = some value ∧ IsTrimmed s)
  stop_iff : ∀ name, choiceStop? c name [s] = some (.complaint (.badValue name (c.message s)))
    ↔ ∀ value, ¬ (parse s = some value ∧ IsTrimmed s)

theorem read_eq_ok_iff :
  c.read s = .ok value ↔ c.find? s = some value
  := by
  unfold read
  cases c.find? s <;> simp

theorem read_eq_error_iff :
  c.read s = .error (c.message s) ↔ ∀ value, c.find? s ≠ some value
  := by
  unfold read
  cases c.find? s <;> simp

/-- A switch stops the run over a text that is refused, and over no other. -/
theorem choiceStop?_singleton (c : Choice α) (name s : String) :
  choiceStop? c name [s]
    = match c.read s with
      | .ok _ => none
      | .error e => some (.complaint (.badValue name e))
  := by
  unfold choiceStop? read
  cases h : c.find? s <;> simp [h]

/-- It is enough to know which values a text finds. -/
theorem readsLike_of_find? (h : ∀ value, c.find? s = some value ↔ parse s = some value ∧ IsTrimmed s) :
  c.ReadsLike parse s
  := by
  have hrefuse : c.read s = .error (c.message s) ↔ ∀ value, ¬ (parse s = some value ∧ IsTrimmed s) := by
    simp only [read_eq_error_iff, ne_eq, h]
  constructor
  · intro value
    rw [read_eq_ok_iff, h]
  · exact hrefuse
  · intro name
    rw [choiceStop?_singleton, ← hrefuse]
    cases c.read s <;> simp

/-- Among values with words of their own, a text finds the one whose word is its lower case. -/
theorem find?_eq_some_iff {values : List α} {word : α → String}
    (hmembers : c.members = values.map fun a => (word a, a)) (hnodup : (values.map word).Nodup)
    (hall : ∀ a, a ∈ values) :
  c.find? s = some value ↔ lower s = word value
  := by
  have hkeys : (c.members.map Prod.fst).Nodup := by
    rw [hmembers, List.map_map]
    exact hnodup
  rw [find?, lookup_eq_some_iff_mem hkeys, hmembers, List.mem_map]
  constructor
  · rintro ⟨a, -, ha⟩
    obtain ⟨hword, rfl⟩ := Prod.mk.inj ha
    exact hword.symm
  · intro h
    use value, hall value
    rw [h]

end Choice

variable {s : String}

theorem find?_levelChoice_iff {l : Level} :
  levelChoice.find? s = some l ↔ lower s = l.name
  := by
  apply Choice.find?_eq_some_iff rfl (by decide)
  intro l
  cases l <;> decide

theorem find?_colorChoice_iff {m : ColorMode} :
  colorChoice.find? s = some m ↔ lower s = m.name
  := by
  apply Choice.find?_eq_some_iff rfl (by decide)
  intro m
  cases m <;> decide

/-- An ASCII text chooses the level that is read from it, when it is trimmed. -/
theorem find?_levelChoice_iff_ofValue? (hascii : IsAscii s) {l : Level} :
  levelChoice.find? s = some l ↔ Level.ofValue? (.text s) = some l ∧ IsTrimmed s
  := by
  have hblank : l.name.toList.all (fun c => !isBlank c) = true := by cases l <;> decide
  have hsmall : l.name.toList = l.label.toList.map Char.toLower := by cases l <;> decide
  have hcapital : l.label.toList = l.name.toList.map Char.toUpper := by cases l <;> decide
  have hcase : lower s = l.name ↔ upper s = l.label := lower_eq_iff_upper_eq hascii hsmall hcapital
  have hread : Level.ofValue? (.text s) = Level.ofLabel? (upper (trim s)) := by
    rw [Level.ofValue?, Wording.whole?, instWordingString, Option.bind_some]
  rw [find?_levelChoice_iff, hread, Level.ofLabel?_eq_some_iff]
  constructor
  · intro hlower
    have htrimmed : IsTrimmed s := isTrimmed_of_lower_eq hblank hlower
    rw [trim_eq_self_iff.mpr htrimmed]
    exact ⟨hcase.mp hlower, htrimmed⟩
  · rintro ⟨hupper, htrimmed⟩
    rw [trim_eq_self_iff.mpr htrimmed] at hupper
    exact hcase.mpr hupper

/-- Any text chooses the mode that is read from it, when it is trimmed. -/
theorem find?_colorChoice_iff_ofText? {m : ColorMode} :
  colorChoice.find? s = some m ↔ ColorMode.ofText? s = some m ∧ IsTrimmed s
  := by
  have hblank : m.name.toList.all (fun c => !isBlank c) = true := by cases m <;> decide
  rw [find?_colorChoice_iff, ColorMode.ofText?_eq_some_iff_lower_trim]
  constructor
  · intro hlower
    have htrimmed : IsTrimmed s := isTrimmed_of_lower_eq hblank hlower
    rw [trim_eq_self_iff.mpr htrimmed]
    exact ⟨hlower, htrimmed⟩
  · rintro ⟨hlower, htrimmed⟩
    rwa [trim_eq_self_iff.mpr htrimmed] at hlower

/-- On the command line an ASCII text is read as the level, or the colour mode, that a configuration table
with this text gives, if it has no blanks at its ends. Any other text is refused. -/
theorem choices_spell_alike (hascii : IsAscii s) :
  levelChoice.ReadsLike (fun s => Level.ofValue? (.text s)) s ∧ colorChoice.ReadsLike ColorMode.ofText? s
  := by
  constructor
  · apply Choice.readsLike_of_find?
    intro l
    apply find?_levelChoice_iff_ofValue? hascii
  · apply Choice.readsLike_of_find?
    intro m
    apply find?_colorChoice_iff_ofText?

/-- A level in mixed case is read in both places, and with a blank in front in the table alone. -/
theorem choices_spell_alike_blank :
  IsAscii "wArNiNg" ∧ IsAscii " warning"
    ∧ levelChoice.read "wArNiNg" = .ok .warning
    ∧ Level.ofValue? (.text " warning") = some .warning
    ∧ levelChoice.read " warning"
      = .error "Invalid value ' warning'. Must be one of: warning, error, suggestion, message"
  := by
  have hmixed : IsAscii "wArNiNg" := by simp [IsAscii]
  have hblank : IsAscii " warning" := by simp [IsAscii]
  obtain ⟨hread, -⟩ := choices_spell_alike hmixed
  obtain ⟨hrefused, -⟩ := choices_spell_alike hblank
  refine ⟨hmixed, hblank, (hread.read_iff .warning).mpr (by decide), by decide, hrefused.refuse_iff.mpr ?_⟩
  rintro l ⟨-, htrimmed⟩
  revert htrimmed
  decide

/-- Outside ASCII the table knows more spellings of a level: here one letter stands for two capital
letters, while no letter stands for two small ones. -/
example : Level.ofValue? (.text "meßage") = some .message ∧ levelChoice.find? "meßage" = none := by
  decide

end CommandLine

end Diagnostics
