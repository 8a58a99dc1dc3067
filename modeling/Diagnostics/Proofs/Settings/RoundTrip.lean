import Diagnostics.Proofs.Settings.Discovery
import Diagnostics.Proofs.Toml.Flat
import Diagnostics.Settings.Starter

/-!
# Written settings are read back

Settings are written as a configuration table in three documents: as the table is, as the starter
document, and as the starter document for a project file. When a faithful library writes one of them and
it is saved and put over whatever settings there were, the settings are those that were written, each
level once (`Settings.written_readsBack`).
-/

namespace Diagnostics

open Text Toml

/-! ### Saved texts -/

/-- A text without a carriage return has the line ends that reading makes. -/
theorem Text.unifyNewlines_of_notMem {cs : List Char} (h : '\r' ∉ cs) :
  unifyNewlines cs = cs
  := by
  induction cs with
  | nil => rfl
  | cons c cs ih =>
    obtain ⟨hc, hcs⟩ := not_or.mp (fun hmem => h (List.mem_cons.mpr hmem))
    rw [unifyNewlines, ih hcs]
    · simp [Ne.symm hc]
    · intro rest heq
      apply absurd heq.symm hc

/-- A file is read as the text that was saved in it. -/
theorem FileTree.readText_of_saved {t : FileTree} {cwd : FilePlace} {p : Path} {text : String}
    (hbytes : t.readBytes cwd p = .ok text.toUTF8.toList) (hreturn : '\r' ∉ text.toList) :
  t.readText cwd p = .ok text
  := by
  rw [Stores.readText_eq hbytes, unified, unifyNewlines_of_notMem hreturn, String.ofList_toList]

/-! ### The configuration table -/

theorem Level.isName_name (l : Level) :
  IsName l.name
  := by
  cases l <;> decide

theorem ColorMode.isName_name (m : ColorMode) :
  IsName m.name
  := by
  cases m <;> decide

theorem Level.ofValue?_name (l : Level) :
  ofValue? (.text l.name) = some l
  := by
  cases l <;> decide

theorem ColorMode.ofText?_name (m : ColorMode) :
  ofText? m.name = some m
  := by
  cases m <;> decide

namespace Settings

variable {c : Settings}

/-- The table of settings is plain. -/
theorem isPlainTable_table (c : Settings) :
  IsPlainTable c.table
  where
  distinct := by
    show Source.knownKeys.Nodup
    decide
  plain := by
    have hlevels : IsPlain (.list (c.levels.map fun l => .text l.name)) := by
      have hnames : ∀ s ∈ c.levels.map Level.name, IsName s := by
        simpa using fun l _ => Level.isName_name l
      simpa [Function.comp_def] using IsPlain.names hnames
    have hkeys : ∀ key ∈ Source.knownKeys, IsName key := by decide
    rintro m (_ | ⟨_, _ | ⟨_, _ | ⟨_, _ | ⟨_, ⟨⟩⟩⟩⟩⟩)
    · exact ⟨hkeys "log_levels" (by decide), hlevels⟩
    · exact ⟨hkeys "color" (by decide), .name c.color.isName_name⟩
    · exact ⟨hkeys "terminal" (by decide), .bool c.terminal⟩
    · exact ⟨hkeys "overlay" (by decide), .bool c.overlay⟩

/-- The starter document with the table has the settings of the table. -/
theorem settings_starter (c : Settings) (nested : Bool) :
  (starter nested c.table).settings = c.table
  := by
  rfl

/-- The starter document with the table is plain. -/
theorem isPlain_starter (c : Settings) (nested : Bool) :
  (starter nested c.table).IsPlain
  where
  comments := by
    have hremarks : ("checkrelay configuration" :: StarterEntry.all.map StarterEntry.comment).all
        (fun text => text.toList.all isComment) = true := by
      rfl
    intro text htext
    apply List.all_eq_true.mp (List.all_eq_true.mp hremarks text _)
    obtain htop | hlines := List.mem_append.mp htext
    · have htext : text = "checkrelay configuration" := by simpa [starter] using htop
      rw [htext]
      exact List.mem_cons_self
    · obtain ⟨e, he, hline⟩ := List.mem_flatMap.mp hlines
      have htext : text = e.comment := by simpa [StarterEntry.lines] using hline
      rw [htext]
      exact List.mem_cons_of_mem _ (List.mem_map_of_mem he)
  top := rfl
  path := by
    have hpath : ∀ key ∈ projectPath, IsName key := by decide
    cases nested with
    | false => simp [starter]
    | true => exact hpath
  settings := by
    rw [settings_starter]
    exact c.isPlainTable_table

/-- The items of the table name the levels. -/
theorem levelsOf_names (levels : List Level) :
  Source.levelsOf (levels.map fun l => .text l.name) = levels.eraseDups
  := by
  have hread : (levels.map fun l => Value.text l.name).filterMap Level.ofValue? = levels := by
    rw [List.filterMap_map]
    simp [Level.ofValue?_name]
  rw [Source.levelsOf, hread]

theorem get?_levels (c : Settings) :
  c.table.get? "log_levels" = some (.list (c.levels.map fun l => .text l.name))
  := by
  rfl

theorem get?_color (c : Settings) :
  c.table.get? "color" = some (.text c.color.name)
  := by
  rfl

/-- The table says the settings, with each level once. -/
theorem ofTable_table (c : Settings) (file : Option Path) :
  Source.ofTable file c.table
    = { levels := some c.levels.eraseDups, color := some c.color, terminal := some c.terminal
        overlay := some c.overlay, file }
  := by
  have hlevels : Source.levelsIn c.table = some c.levels.eraseDups := by
    rw [Source.levelsIn, get?_levels, ← levelsOf_names]
  have hcolor : Source.colorIn c.table = some c.color := by
    rw [Source.colorIn, get?_color, Option.bind_some, Value.plain, ColorMode.ofText?_name]
  rw [Source.ofTable, hlevels, hcolor]
  rfl

/-- The colour of the table can be spelled. -/
theorem breaksOff_table (c : Settings) :
  Source.breaksOff c.table = false
  := by
  rw [Source.breaksOff, get?_color]
  rfl

/-- There is nothing to note about the table. -/
theorem notices_table (c : Settings) (file : Option Path) :
  Source.notices file c.table = []
  := by
  have hlevels : Source.levelNotices (Source.placeName file) c.table = [] := by
    rw [Source.levelNotices, get?_levels]
    simp [Level.ofValue?_name]
  have hcolor : Source.colorNotices c.color.name = [] := by
    rw [Source.colorNotices, ColorMode.ofText?_name]
    rfl
  have hunknown : Source.unknownKeys c.table = [] := by
    have hknown : (c.table.map Prod.fst).filter (fun key => !Source.knownKeys.contains key) = [] := by
      show (Source.knownKeys.filter fun key => !Source.knownKeys.contains key) = []
      decide
    rw [Source.unknownKeys, hknown, List.mergeSort_nil]
  have hflag : ∀ key b place, c.table.get? key = some (.bool b) →
      Source.flagNotices place key c.table = [] := by
    intro key b place h
    rw [Source.flagNotices, h]
  rw [Source.notices, hlevels, breaksOff_table, if_neg Bool.false_ne_true, Source.laterNotices, get?_color,
    hunknown, hflag "terminal" c.terminal _ rfl,
    hflag "overlay" c.overlay _ rfl]
  simpa [Value.plain] using hcolor

/-- The table put over settings gives the written ones, whatever they were before. -/
theorem applyTable_table (c m : Settings) (p : Path) :
  m.applyTable (some p) c.table
    = { settings := { c with levels := c.levels.eraseDups, files := m.files ++ [p] } }
  := by
  rw [applyTable, breaksOff_table, ofTable_table]
  rfl

/-! ### Documents -/

section Library

variable [Library]

/-- A text that is saved in a file of the name reads back as the settings: put over whatever settings
there are, it gives the same levels, each once and at its first place, the same colour mode and the
same truth values, and there is nothing to note. -/
def ReadsBack (c : Settings) (name text : String) : Prop :=
  ∀ (t : FileTree) (cwd : FilePlace) (p : Path) (m : Settings), p.name = name →
    t.readBytes cwd p = .ok text.toUTF8.toList →
    applyFile t cwd p m = .ok { settings := { c with levels := c.levels.eraseDups, files := m.files ++ [p] } }
      ∧ fileNotices t cwd p = []

/-- A text that says the table of the settings reads back when it has the table where files of the name
have the configuration. -/
theorem readsBack_of_says (path : KeyPath) {name text : String} (h : Says text (nest path c.table))
    (hconfig : ∀ p : Path, p.name = name → configTable? p (nest path c.table) = some c.table) :
  c.ReadsBack name text
  := by
  intro t cwd p m hname hbytes
  have hread : TableRead.ofFile t cwd p = .ok (.table (nest path c.table)) := by
    rw [TableRead.ofFile, FileTree.readText_of_saved hbytes h.noReturn]
    simp [h.read]
  have htable : t.readTable cwd p = .ok (nest path c.table) := by
    rw [FileTree.readTable, hread]
    rfl
  constructor
  · rw [applyFile, htable, Except.map, hconfig p hname, ← applyTable_table]
  · simp [fileNotices, FileTree.tableNotices, hread, TableRead.notices, htable, hconfig p hname,
      notices_table]

/-- Settings read back from all three documents that are written for them: from their table and from the
starter document in a configuration file, and from the starter document for a project file in one. -/
theorem written_readsBack (h : IsFaithful) (c : Settings) :
  (∃ text, Library.write (.object c.table) = .ok text ∧ c.ReadsBack configName text)
    ∧ (∃ text, Library.writeDocument (starter false c.table) = .ok text ∧ c.ReadsBack configName text)
    ∧ ∃ text, Library.writeDocument (starter true c.table) = .ok text ∧ c.ReadsBack projectName text
  := by
  have hconfig : ∀ p : Path, p.name = configName → configTable? p (nest [] c.table) = some c.table := by
    intro p hp
    apply configTable?_of_name hp
  have hproject : ∀ p : Path, p.name = projectName →
      configTable? p (nest projectPath c.table) = some c.table := by
    intro p hp
    apply (configTable?_eq_some_iff hp).mpr
    exact ⟨[("checkrelay", .object c.table)], rfl, rfl⟩
  and_intros
  · obtain ⟨text, htext, hsays⟩ := h.write c.isPlainTable_table
    exact ⟨text, htext, readsBack_of_says [] hsays hconfig⟩
  · obtain ⟨text, htext, hsays⟩ := h.writeDocument (c.isPlain_starter false)
    exact ⟨text, htext, readsBack_of_says [] hsays hconfig⟩
  · obtain ⟨text, htext, hsays⟩ := h.writeDocument (c.isPlain_starter true)
    exact ⟨text, htext, readsBack_of_says projectPath hsays hproject⟩

end Library

open Toml.Standard

/-- Settings with a repeated level that are saved in a project file come back from it with the level
once. -/
theorem written_readsBack_repeated :
  @IsFaithful Standard.library
    ∧ ∃ text, writeDocument
        (starter true (table { levels := [.error, .warning, .error], color := .never, terminal := false }))
      = .ok text
    ∧ applyFile (.ofEntries [(["work", projectName], .file text.toUTF8.toList)]) ["work"]
        ⟨0, [projectName]⟩ { overlay := false, files := [⟨0, ["before.toml"]⟩] }
      = .ok { settings :=
          { levels := [.error, .warning], color := .never, terminal := false, overlay := true
            files := [⟨0, ["before.toml"]⟩, ⟨0, [projectName]⟩] } }
  := by
  obtain ⟨-, -, text, htext, hback⟩ :=
    written_readsBack isFaithful_standard
      { levels := [.error, .warning, .error], color := .never, terminal := false }
  refine ⟨isFaithful_standard, text, htext, ?_⟩
  have hlevels : [Level.error, .warning, .error].eraseDups = [.error, .warning] := by decide
  obtain ⟨happly, -⟩ := hback (.ofEntries [(["work", projectName], .file text.toUTF8.toList)]) ["work"]
    ⟨0, [projectName]⟩ { overlay := false, files := [⟨0, ["before.toml"]⟩] } rfl rfl
  rwa [hlevels] at happly

end Settings

end Diagnostics
