import Diagnostics.Settings.Basic

/-!
# Settings in the making

Settings are put together in a draft, source by source. A draft can be frozen, and a
later draft can start again from the frozen settings. A step that breaks off leaves the
draft with what it has given before.
-/

namespace Diagnostics

/-- A draft and the settings that were frozen last. -/
structure SettingsSession where
  draft : Settings := {}
  frozen : Option Settings := none
deriving DecidableEq, Repr

namespace SettingsSession

/-- A step in putting settings together. -/
inductive Step
  /-- Puts a table over the draft, which was read from a file or not. -/
  | table (file : Option Path) (ms : Toml.Members)
  /-- Puts what the command line says over the draft. -/
  | options (source : Source)
  /-- Starts again from settings that were loaded. -/
  | restart (s : Settings)
  | freeze
  /-- Goes back to the frozen settings, the defaults if none were frozen. -/
  | thaw

/-- Carries out a step. -/
def step (s : SettingsSession) : Step → SettingsSession
  | .table file ms => { s with draft := (s.draft.applyTable file ms).settings }
  | .options source => { s with draft := s.draft.apply source }
  | .restart settings => { s with draft := settings }
  | .freeze => { s with frozen := some s.draft }
  | .thaw => { s with draft := s.frozen.getD {} }

/-- Carrying out a step breaks off. -/
def breaks (s : SettingsSession) : Step → Bool
  | .table file ms => (s.draft.applyTable file ms).broken
  | _ => false

/-- Carries out steps one after the other. -/
def run (s : SettingsSession) (steps : List Step) : SettingsSession :=
  steps.foldl step s

end SettingsSession

end Diagnostics
