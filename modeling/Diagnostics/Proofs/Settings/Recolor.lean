import Diagnostics.Proofs.Except
import Diagnostics.Proofs.Pairs
import Diagnostics.Settings.Discovery
import Mathlib.Tactic.Common

/-!
# Configurations that differ in colours

In two file trees configuration files may hold the same but for the colour mode
(`FileTree.Recolors`). Then the search for a configuration comes to the same file in both,
and the settings that are loaded are the same but for the colour mode
(`FileTree.Recolors.load`).
-/

namespace Diagnostics

/-! ### Leaving colours out -/

/-- The members without a colour mode. -/
def Members.uncolored (ms : Toml.Members) : Toml.Members :=
  ms.filter fun m => m.1 ≠ "color"

/-- Other members are still there. -/
theorem Members.get?_uncolored {key : String} (h : key ≠ "color") (ms : Toml.Members) :
  Members.get? key ms.uncolored = Members.get? key ms
  := by
  rw [get?, uncolored, lookup_filter_key (fun key => decide (key ≠ "color")), if_pos (by simpa using h), get?]

/-- There is no colour mode any more. -/
theorem Members.get?_color_uncolored (ms : Toml.Members) :
  Members.get? "color" ms.uncolored = none
  := by
  apply get?_eq_none_iff.mpr
  simp [uncolored]

/-- The settings with the colour mode left open. -/
def Settings.uncolored (s : Settings) : Settings :=
  { s with color := .auto }

/-- The source when it says nothing about colours. -/
def Source.uncolored (source : Source) : Source :=
  { source with color := none }

/-- A table without a colour mode says nothing about colours, and all else. -/
theorem Source.ofTable_uncolored (file : Option Path) (ms : Toml.Members) :
  ofTable file ms.uncolored = (ofTable file ms).uncolored
  := by
  have hlevels : Members.get? "log_levels" ms.uncolored = Members.get? "log_levels" ms :=
    Members.get?_uncolored (by decide) ms
  have hterminal : Members.get? "terminal" ms.uncolored = Members.get? "terminal" ms :=
    Members.get?_uncolored (by decide) ms
  have hoverlay : Members.get? "overlay" ms.uncolored = Members.get? "overlay" ms :=
    Members.get?_uncolored (by decide) ms
  simp only [ofTable, uncolored, levelsIn, colorIn, flagIn, hlevels, hterminal, hoverlay,
    ms.get?_color_uncolored, Option.bind_none]

/-- Leaving colours out of what a source is put over, and of the source. -/
theorem Settings.uncolored_apply (s : Settings) (source : Source) :
  (s.apply source).uncolored = s.uncolored.apply source.uncolored
  := rfl

/-! ### Rewriting a file -/

namespace FileTree

/-- The tree with another content of the file at a place. -/
def rewrite (t : FileTree) (place : FilePlace) (content : List UInt8) : FileTree where
  entry? q := if q = place then some (.file content) else t.entry? q

variable {t : FileTree} {place : FilePlace} {content content' : List UInt8}

/-- Names lead to the same places. -/
theorem follow_rewrite (h : t.entry? place = some (.file content)) (q : FilePlace) (names : List String) :
  (t.rewrite place content').follow q names = t.follow q names
  := by
  induction names generalizing q with
  | nil => rfl
  | cons name names ih =>
    by_cases hq : q = place
    · subst hq
      simp [follow, rewrite, h]
    · have hentry : entry? (t.rewrite place content') q = t.entry? q := if_neg hq
      simp only [follow, hentry, ih]

/-- A path names what it named before, or it names the file. -/
theorem find_rewrite (h : t.entry? place = some (.file content)) (content' : List UInt8) (cwd : FilePlace)
    (p : Path) :
  (t.rewrite place content').find cwd p = t.find cwd p
    ∨ (t.find cwd p = .ok (.file content) ∧ (t.rewrite place content').find cwd p = .ok (.file content'))
  := by
  unfold find
  rw [follow_rewrite h]
  split
  · exact .inl rfl
  · split
    · exact .inl rfl
    · next q hfollow =>
      by_cases hq : q = place
      · subst hq
        right
        simp [rewrite, h]
      · left
        simp [rewrite, hq]

end FileTree

/-! ### Trees that differ in colours -/

/-- A configuration without its colour mode, with whether reading it breaks off at the colour. -/
def Members.uncoloredWhole (config : Toml.Members) : Toml.Members × Bool :=
  (config.uncolored, Source.breaksOff config)

section Library

variable [Toml.Library]

namespace FileTree

/-- The configuration that a file holds, without its colour mode. -/
def uncoloredConfig (t : FileTree) (cwd : FilePlace) (p : Path) : Except ReadFault (Option (Toml.Members × Bool)) :=
  (t.readTable cwd p).map fun ms => (configTable? p ms).map Members.uncoloredWhole

/-- The settings from a configuration without its colour mode. -/
def uncoloredSettings (p : Path) : Option (Toml.Members × Bool) → Except Settings.Fault Settings
  | none => .ok {}
  | some (_, true) => .error .overlongColor
  | some (config, false) => .ok (({} : Settings).apply (.ofTable (some p) config))

/-- What a file says but for colours is settled by its configuration but for colours. -/
theorem map_uncolored_applyFile (t : FileTree) (cwd : FilePlace) (p : Path) :
  (((Settings.applyFile t cwd p {}).mapError Settings.Fault.read).bind Settings.Applied.whole).map
      Settings.uncolored
    = ((t.uncoloredConfig cwd p).mapError Settings.Fault.read).bind (uncoloredSettings p)
  := by
  unfold Settings.applyFile uncoloredConfig
  cases t.readTable cwd p with
  | error f => rfl
  | ok ms =>
    cases hconfig : configTable? p ms with
    | none => simp [Except.map, Except.mapError, Except.bind, hconfig, Settings.Applied.whole,
        uncoloredSettings, Settings.uncolored]
    | some config =>
      cases hbroken : Source.breaksOff config with
      | true => simp [Except.map, Except.mapError, Except.bind, hconfig, Settings.applyTable, hbroken,
          Settings.Applied.whole, uncoloredSettings, Members.uncoloredWhole]
      | false =>
        simp only [Except.map, Except.mapError, Except.bind, hconfig, Settings.applyTable, hbroken,
          Bool.false_eq_true, if_false, Settings.Applied.whole, Settings.uncolored_apply,
          Option.map_some, Members.uncoloredWhole, uncoloredSettings, Source.ofTable_uncolored]
        rfl

/-- The trees have the same files, and as configurations these hold the same but for the colour mode. -/
structure Recolors (t t' : FileTree) : Prop where
  isFile : ∀ cwd p, t'.isFile cwd p = t.isFile cwd p
  config : ∀ cwd p, t'.uncoloredConfig cwd p = t.uncoloredConfig cwd p

namespace Recolors

variable {t t' : FileTree}

/-- The same files hold a configuration. -/
theorem qualifies (h : Recolors t t') (p : Path) :
  t'.qualifies p = t.qualifies p
  := by
  have hconfig : ∀ t : FileTree, ((t.readTable [] p).map fun ms => (configTable? p ms).isSome)
      = (t.uncoloredConfig [] p).map Option.isSome := by
    intro t
    unfold uncoloredConfig
    cases t.readTable [] p with
    | error f => rfl
    | ok ms => simp [Except.map]
  rw [FileTree.qualifies, FileTree.qualifies, h.isFile, hconfig, hconfig, h.config]

/-- The search comes to the same file. -/
theorem firstQualified (h : Recolors t t') (ps : List Path) :
  t'.firstQualified ps = t.firstQualified ps
  := by
  induction ps with
  | nil => rfl
  | cons p ps ih => rw [FileTree.firstQualified, FileTree.firstQualified, h.qualifies, ih]

/-- So does the one that an origin asks for. -/
theorem file? (h : Recolors t t') (cwd : FilePlace) (o : Settings.Origin) :
  o.file? t' cwd = o.file? t cwd
  := by
  cases o with
  | file p => rfl
  | nearest start =>
    have hcandidates : t'.candidates cwd start = t.candidates cwd start := by
      simp only [candidates, searchStart, h.isFile]
    simp only [Settings.Origin.file?, Settings.discover, hcandidates, h.firstQualified]

/-- The settings that are loaded are the same but for the colour mode. -/
theorem load (h : Recolors t t') (cwd : FilePlace) (o : Settings.Origin) :
  (Settings.load t' cwd o).map Settings.uncolored = (Settings.load t cwd o).map Settings.uncolored
  := by
  unfold Settings.load
  rw [h.file?]
  cases o.file? t cwd with
  | error f => rfl
  | ok p? =>
    cases p? with
    | none => rfl
    | some p => simp only [map_uncolored_applyFile, h.config]

end Recolors

/-! ### Rewriting colours -/

/-- The table that bytes are the text of. -/
def tableIn? (content : List UInt8) : Option Toml.Members :=
  (textOf content).toOption.bind Toml.Library.read?

variable {t : FileTree} {place : FilePlace} {content content' : List UInt8}

/-- The table of a file that holds one. -/
theorem readTable_of_find {cwd : FilePlace} {p : Path} {ms : Toml.Members} (hnull : hasNull p = false)
    (hfind : t.find cwd p = .ok (.file content)) (hms : tableIn? content = some ms) :
  t.readTable cwd p = .ok ms
  := by
  unfold tableIn? at hms
  cases htext : textOf content with
  | error f =>
    rw [htext] at hms
    contradiction
  | ok text =>
    rw [htext] at hms
    have hread : Toml.Library.read? text = some ms := hms
    simp [readTable, TableRead.ofFile, readText, readBytes, hnull, hfind, htext, hread, Except.map,
      Except.mapError, TableRead.members]

/-- A configuration file can be rewritten with another colour mode. -/
theorem recolors_rewrite {ms ms' : Toml.Members} (h : t.entry? place = some (.file content))
    (hms : tableIn? content = some ms) (hms' : tableIn? content' = some ms')
    (hconfig : ∀ p,
      (configTable? p ms').map Members.uncoloredWhole = (configTable? p ms).map Members.uncoloredWhole) :
  Recolors t (t.rewrite place content')
  where
  isFile cwd p := by
    unfold isFile
    obtain heq | ⟨hfind, hfind'⟩ := find_rewrite h content' cwd p
    · rw [heq]
    · rw [hfind, hfind']
  config cwd p := by
    obtain heq | ⟨hfind, hfind'⟩ := find_rewrite h content' cwd p
    · simp only [uncoloredConfig, readTable, TableRead.ofFile, readText, readBytes, heq]
    · cases hnull : hasNull p with
      | true => simp [uncoloredConfig, readTable, TableRead.ofFile, readText, readBytes, hnull]
      | false =>
        rw [uncoloredConfig, uncoloredConfig, readTable_of_find hnull hfind hms,
          readTable_of_find hnull hfind' hms']
        simp only [Except.map, hconfig]

/-- The bytes say a colour that can be spelled, if any, and nothing else. -/
def saysColorOnly (content : List UInt8) : Bool :=
  (tableIn? content).any fun ms => ms.uncolored.isEmpty && !Source.breaksOff ms

/-- A file that says nothing but a colour mode can be rewritten with another one. -/
theorem recolors_rewrite_of_saysColorOnly (h : t.entry? place = some (.file content))
    (hcolor : saysColorOnly content = true) (hcolor' : saysColorOnly content' = true) :
  Recolors t (t.rewrite place content')
  := by
  obtain ⟨ms, hms, hempty⟩ := (Option.any_eq_true _ _).mp hcolor
  obtain ⟨ms', hms', hempty'⟩ := (Option.any_eq_true _ _).mp hcolor'
  have hconfig : ∀ ms : Toml.Members, (ms.uncolored.isEmpty && !Source.breaksOff ms) = true → ∀ p,
      (configTable? p ms).map Members.uncoloredWhole
        = if p.name ≠ projectName then some ([], false) else none := by
    intro ms hms p
    obtain ⟨hempty, hspelled⟩ := by simpa using hms
    have htool : Members.get? "tool" ms = none := by
      rw [← Members.get?_uncolored (by decide), hempty]
      rfl
    unfold configTable?
    split <;> simp [Members.uncoloredWhole, hempty, hspelled, htool]
  apply recolors_rewrite h hms hms'
  intro p
  rw [hconfig ms' hempty', hconfig ms hempty]

end FileTree

end Library

end Diagnostics
