import Diagnostics.Proofs.Toml.Documents
import Diagnostics.Toml.Standard

/-!
# Flat tables

A table is flat when its values are truth values, plain texts and lists of plain texts. Both ways of
writing one are read back: as a table (`Toml.exists_write_flat`) and as the lines of a document between
comments (`Toml.exists_writeDocument_flat`). So the standard library is faithful
(`Toml.isFaithful_standard`).
-/

namespace Diagnostics.Toml

open Text

/-- The text stands for itself between double quotes. -/
def IsPlainText (s : String) : Prop :=
  ∀ c ∈ s.toList, isPlain c = true

instance (s : String) : Decidable (IsPlainText s) :=
  decidable_of_iff (s.toList.all isPlain = true) List.all_eq_true

/-- The values that either writer puts on one line without an escape. -/
inductive Flat : Value → Prop
  | bool (b : Bool) : Flat (.bool b)
  | text {s : String} (plain : IsPlainText s) : Flat (.text s)
  | texts {ss : List String} (plain : ∀ s ∈ ss, IsPlainText s) : Flat (.list (ss.map .text))

variable {s key : String} {v : Value}

theorem IsPlainText.spells (h : IsPlainText s) :
  Spells (quotedText s.toList) (.text s)
  := by
  simpa using spells_quotedText h

/-- Plain texts between quotes spell the items of their list. -/
theorem forall₂_spells {ss : List String} (h : ∀ s ∈ ss, IsPlainText s) :
  List.Forall₂ Spells (ss.map fun s => quotedText s.toList) (ss.map .text)
  := by
  rw [List.forall₂_map_left_iff, List.forall₂_map_right_iff, List.forall₂_same]
  intro s hs
  apply (h s hs).spells

/-- Texts are of one kind. -/
theorem isUniform_texts (ss : List String) :
  isUniform (ss.map .text) = true
  := by
  cases ss with
  | nil => rfl
  | cons s ss => simp [isUniform, Value.kindName]

/-! ### The writer -/

/-- A text without a backslash has no marks. -/
theorem stretches_of_notMem {cs : List Char} (h : '\\' ∉ cs) :
  stretches cs = [cs]
  := by
  induction cs with
  | nil => rfl
  | cons c cs ih =>
    obtain ⟨hc, hcs⟩ := not_or.mp (fun hmem => h (List.mem_cons.mpr hmem))
    rw [stretches, ih hcs]
    intro rest heq
    apply absurd heq (Ne.symm hc)

/-- A plain character is quoted as it is. -/
theorem quotedChar_of_isPlain {c : Char} (h : isPlain c = true) :
  quotedChar '"' c = [c]
  := by
  simp only [isPlain, Bool.and_eq_true, decide_eq_true_eq] at h
  obtain ⟨⟨hquote, hbackslash⟩, hprintable⟩ := h
  have hblank : ∀ d, isPrintable d = false → c ≠ d := by
    rintro d hd rfl
    rw [hprintable] at hd
    contradiction
  simp [quotedChar, hquote, hbackslash, hprintable, hblank '\n' (by decide), hblank '\r' (by decide),
    hblank '\t' (by decide)]

theorem textChars_plain (h : IsPlainText s) :
  textChars s = .ok (quotedText s.toList)
  := by
  have hquoted : s.toList.flatMap (quotedChar '"') = s.toList :=
    calc s.toList.flatMap (quotedChar '"')
      _ = s.toList.flatMap fun c => [c] := List.flatMap_congr fun c hc => quotedChar_of_isPlain (h c hc)
      _ = s.toList := List.flatMap_singleton' _
  have hbackslash : '\\' ∉ s.toList := fun hmem => absurd (h '\\' hmem) (by decide)
  rw [textChars, textBody, hquoted, stretches_of_notMem hbackslash]
  rfl

/-- The items of a list of plain texts are quoted as they are. -/
theorem itemsChars_plain {ss : List String} (h : ∀ s ∈ ss, IsPlainText s) :
  itemsChars (ss.map .text) = .ok (ss.map fun s => quotedText s.toList)
  := by
  induction ss with
  | nil => rfl
  | cons s ss ih =>
    obtain ⟨hs, hss⟩ := List.forall_mem_cons.mp h
    rw [List.map_cons, itemsChars, ih hss, valueChars, textChars_plain hs]
    rfl

/-- A flat value is written as what spells it. -/
theorem Flat.exists_valueChars (h : Flat v) :
  ∃ cs, valueChars v = .ok cs ∧ Spells cs v
  := by
  cases h with
  | bool b =>
    use boolWord b
    constructor
    · cases b <;> rfl
    · apply spells_boolWord
  | text plain => exact ⟨_, textChars_plain plain, plain.spells⟩
  | @texts ss plain =>
    use spread (ss.map fun s => quotedText s.toList)
    constructor
    · rw [valueChars, itemsChars_plain plain]
      rfl
    · apply spells_spread (forall₂_spells plain) (isUniform_texts ss)

/-- A name is a key without quotes. -/
theorem IsName.keyChars_eq (h : IsName key) :
  keyChars key = .ok key.toList
  := by
  have hlast : key.toList.getLast? ≠ some '\n' := by
    intro hlast
    apply absurd (h.2 '\n' (List.mem_of_getLast? hlast))
    decide
  have hbare : isBareKey key.toList = true := by
    simpa [isBareKey, hlast, h.1] using h.2
  rw [keyChars, if_pos hbare]

/-- A flat value under a name comes to one line. -/
theorem exists_memberParts_flat (hkey : IsName key) (hv : Flat v)
    (parts : Section → Except WriteFault Parts) (rounds : Nat) :
  ∃ cs, memberParts parts rounds [] (key, v) = .ok { lines := assignment key.toList cs ++ ['\n'] }
    ∧ Spells cs v
  := by
  obtain ⟨cs, hcs, hspells⟩ := hv.exists_valueChars
  use cs
  constructor
  · cases hv with
    | bool b =>
      simp only [memberParts, hkey.keyChars_eq, hcs]
      rfl
    | text plain =>
      simp only [memberParts, hkey.keyChars_eq, hcs]
      rfl
    | @texts ss plain =>
      have hany : (ss.map Value.text).any Value.isObject = false := by simp [Value.isObject]
      simp only [memberParts, hkey.keyChars_eq, hcs, hany]
      rfl
  · apply hspells

/-- A table all of whose values are flat, under keys that need no quotes. -/
def IsFlatTable (ms : Members) : Prop :=
  ∀ m ∈ ms, IsName m.1 ∧ Flat m.2

variable {ms : Members}

/-- The members of a flat table come to one line each, and the lines make up a document. -/
theorem exists_lines_flat (h : IsFlatTable ms) (parts : Section → Except WriteFault Parts) (rounds : Nat) :
  ∃ lines : List (List Char),
    ms.mapM (memberParts parts rounds []) = .ok (lines.map fun cs => { lines := cs })
    ∧ DocumentText lines.flatten (ms.map fun m => .assign [m.1] m.2)
  := by
  induction ms with
  | nil => exact ⟨[], rfl, .nil⟩
  | cons m ms ih =>
    obtain ⟨⟨hkey, hv⟩, hms⟩ := List.forall_mem_cons.mp h
    obtain ⟨cs, hmember, hspells⟩ := exists_memberParts_flat hkey hv parts rounds
    obtain ⟨lines, hlines, hdocument⟩ := ih hms
    use (assignment m.1.toList cs ++ ['\n']) :: lines
    constructor
    · rw [List.mapM_cons, hmember, hlines]
      rfl
    · simpa using DocumentText.assign hkey hspells hdocument

/-- Lines without arrays and tables are put together by themselves. -/
theorem Parts.concat_lines (lines : List (List Char)) :
  Parts.concat (lines.map fun cs => { lines := cs }) = { lines := lines.flatten }
  := by
  have hnone : lines.flatMap (fun _ => ([] : List Section)) = [] := by simp
  simp [Parts.concat, List.flatMap_map, hnone, Section.distinct]

/-- A flat table is written as a document that states its members. -/
theorem exists_write_flat (h : IsFlatTable ms) :
  ∃ text, write (.object ms) = .ok text ∧ DocumentText text.toList (statementsOf [] ms)
  := by
  obtain ⟨lines, hlines, hdocument⟩ :=
    exists_lines_flat h (partsOf (Value.object ms).depth) (Value.object ms).depth
  use String.ofList lines.flatten
  constructor
  · have hparts : partsOf ((Value.object ms).depth + 1) { name := [], value := .object ms }
        = .ok { lines := lines.flatten } := by
      rw [← Parts.concat_lines]
      exact congrArg (Except.map Parts.concat) hlines
    rw [write, writeChars, hparts]
    simp [Except.map, Except.mapError, bind, Except.bind, pure, Except.pure, levels, Parts.text]
  · simpa [statementsOf] using hdocument

/-! ### Documents -/

/-- A plain character is written as it is. -/
theorem basicChar_of_isPlain {c : Char} (h : isPlain c = true) :
  basicChar c = [c]
  := by
  simp only [isPlain, Bool.and_eq_true, decide_eq_true_eq] at h
  obtain ⟨⟨hquote, hbackslash⟩, hprintable⟩ := h
  -- Of the characters with a letter, none shows but the quote and the backslash.
  have hletter : escapeLetter? c = none := by
    rw [escapeLetter?] <;> rintro rfl <;> contradiction
  simp [basicChar, hletter, isControl_of_isPrintable hprintable]

theorem basicText_plain (h : IsPlainText s) :
  basicText s.toList = quotedText s.toList
  := by
  have hbasic : s.toList.flatMap basicChar = s.toList :=
    calc s.toList.flatMap basicChar
      _ = s.toList.flatMap fun c => [c] := List.flatMap_congr fun c hc => basicChar_of_isPlain (h c hc)
      _ = s.toList := List.flatMap_singleton' _
  rw [basicText, hbasic, quotedText]

/-- The items of a list of plain texts are quoted as they are. -/
theorem inlineItems_plain {ss : List String} (h : ∀ s ∈ ss, IsPlainText s) :
  inlineItems (ss.map .text) = ss.map fun s => quotedText s.toList
  := by
  induction ss with
  | nil => rfl
  | cons s ss ih =>
    obtain ⟨hs, hss⟩ := List.forall_mem_cons.mp h
    rw [List.map_cons, inlineItems, ih hss, inlineChars, basicText_plain hs]
    rfl

/-- A flat value is spelled by what a document has for it. -/
theorem Flat.spells_inlineChars (h : Flat v) :
  Spells (inlineChars true v) v
  := by
  cases h with
  | bool b =>
    have hword : inlineChars true (.bool b) = boolWord b := by cases b <;> rfl
    rw [hword]
    apply spells_boolWord
  | text plain =>
    rw [inlineChars, basicText_plain plain]
    apply plain.spells
  | texts plain =>
    rw [inlineChars, inlineItems_plain plain]
    apply spells_join (forall₂_spells plain) (isUniform_texts _)

/-- A list of texts is no array of tables. -/
theorem isTableArray_texts (ss : List String) :
  isTableArray (.list (ss.map .text)) = false
  := by
  cases ss <;> simp [isTableArray, Value.isObject]

theorem someNull_texts (ss : List String) :
  someNull (ss.map .text) = false
  := by
  induction ss with
  | nil => rfl
  | cons s ss ih => simp [someNull, hasNull, ih]

/-- A flat value comes to a line. -/
theorem Flat.passage_eq (h : Flat v) (table key : List Char) :
  passage table key v = .line (assignment key (inlineChars true v) ++ ['\n'])
  := by
  cases h with
  | bool b => rfl
  | text plain => rfl
  | texts plain => simp [passage, isTableArray_texts]

/-- A line that keeps to itself: a comment without a line end, an empty line, or a flat value under a name. -/
inductive IsFlatLine : Line → Prop
  | comment {text : String} (remark : IsRemark text) : IsFlatLine (.comment text)
  | blank : IsFlatLine .blank
  | setting {key : String} {v : Value} (name : IsName key) (flat : Flat v) : IsFlatLine (.setting key v)

/-- The characters of a line that keeps to itself. -/
def Line.chars : Line → List Char
  | comment text => '#' :: (' ' :: text.toList) ++ ['\n']
  | blank => ['\n']
  | setting key v => assignment key.toList (inlineChars true v) ++ ['\n']

/-- A name stands in a document without quotes. -/
theorem IsName.documentKey_eq (h : IsName key) :
  documentKey key = key.toList
  := by
  have hne : key ≠ "" := by
    rintro rfl
    exact h.1 rfl
  rw [documentKey, if_pos]
  simpa [hne] using h.2

/-- A line that keeps to itself is written at the end of a draft without sections. -/
theorem IsFlatLine.line_eq {l : Line} (h : IsFlatLine l) (table : List Char) {d : Draft}
    (hlower : d.lower = []) :
  d.line table l = .ok { d with upper := d.upper ++ l.chars }
  := by
  cases h with
  | comment remark => simp [Draft.line, Draft.write, hlower, Line.chars]
  | blank => simp [Draft.line, Draft.write, hlower, Line.chars]
  | @setting key v name flat =>
    have hline : d.line table (.setting key v) = .ok (d.add (passage table (documentKey key) v)) := by
      cases flat <;> simp [Draft.line, hasNull, someNull_texts]
    rw [hline, flat.passage_eq, name.documentKey_eq]
    rfl

/-- Lines that keep to themselves are written one after the other. -/
theorem lines_flat (table : List Char) {ls : List Line} (h : ∀ l ∈ ls, IsFlatLine l) :
  Draft.lines table ls = .ok { upper := ls.flatMap Line.chars }
  := by
  have hfold : ∀ d : Draft, d.lower = [] →
      ls.foldlM (Draft.line table) d = .ok { d with upper := d.upper ++ ls.flatMap Line.chars } := by
    induction ls with
    | nil => simp [pure, Except.pure]
    | cons l ls ih =>
      obtain ⟨hl, hls⟩ := List.forall_mem_cons.mp h
      intro d hlower
      rw [List.foldlM_cons, hl.line_eq table hlower]
      show ls.foldlM (Draft.line table) { d with upper := d.upper ++ l.chars } = _
      rw [ih hls _ (by exact hlower)]
      simp
  simpa [Draft.lines] using hfold {} rfl

/-- Lines that keep to themselves make up a document with what follows them. -/
theorem documentText_append {ls : List Line} (h : ∀ l ∈ ls, IsFlatLine l) {cs : List Char}
    {ss : List Statement} (hcs : DocumentText cs ss) :
  DocumentText (ls.flatMap Line.chars ++ cs)
    ((ls.filterMap Line.setting?).map (fun m => .assign [m.1] m.2) ++ ss)
  := by
  induction ls with
  | nil => exact hcs
  | cons l ls ih =>
    obtain ⟨hl, hls⟩ := List.forall_mem_cons.mp h
    have hrest := ih hls
    cases hl with
    | comment remark =>
      have hremark : ∀ c ∈ ' ' :: (_ : List Char), isComment c = true :=
        List.forall_mem_cons.mpr ⟨rfl, remark⟩
      simpa [Line.chars, List.filterMap_cons, Line.setting?] using DocumentText.comment hremark hrest
    | blank => simpa [Line.chars, List.filterMap_cons, Line.setting?] using DocumentText.blank hrest
    | setting name flat =>
      simpa [Line.chars, List.filterMap_cons, Line.setting?] using DocumentText.assign name flat.spells_inlineChars hrest

/-- A document of lines that keep to themselves, with settings in its table alone. -/
structure Document.IsFlat (d : Document) : Prop where
  lines : ∀ l ∈ d.top ++ d.lines, IsFlatLine l
  top : d.top.filterMap Line.setting? = []
  path : ∀ key ∈ d.path, IsName key

/-- Such a document states its table. -/
theorem exists_writeDocument_flat {d : Document} (h : d.IsFlat) :
  ∃ text, writeDocument d = .ok text ∧ DocumentText text.toList (statementsOf d.path d.settings)
  := by
  obtain ⟨htop, hlines⟩ := List.forall_mem_append.mp h.lines
  let table : List Char := if d.path.isEmpty then [] else header (dottedText d.path)
  use String.ofList (d.top.flatMap Line.chars ++ (table ++ d.lines.flatMap Line.chars))
  constructor
  · simp [writeDocument, documentChars, lines_flat _ htop, lines_flat _ hlines, bind, Except.bind, pure,
      Except.pure, Except.map, Except.mapError, Draft.chars, table, dottedText]
  · have hbody : DocumentText (d.lines.flatMap Line.chars) (d.settings.map fun m => .assign [m.1] m.2) := by
      simpa [Document.settings] using documentText_append hlines .nil
    have hsection : DocumentText (table ++ d.lines.flatMap Line.chars) (statementsOf d.path d.settings) := by
      by_cases hpath : d.path = []
      · simpa [table, statementsOf, hpath] using hbody
      · simpa [table, statementsOf, hpath] using DocumentText.table hpath h.path hbody
    rw [String.toList_ofList]
    simpa [h.top] using documentText_append htop hsection

/-! ### The standard library -/

open Standard

/-- A character of a name stands for itself between quotes. -/
theorem isPlain_of_isBare {c : Char} (h : isBare c = true) :
  isPlain c = true
  := by
  have hquote : c ≠ '"' := ne_of_isBare h (by decide)
  have hbackslash : c ≠ '\\' := ne_of_isBare h (by decide)
  have hrange : 0x20 ≤ c.toNat ∧ c.toNat < 0x7f := by
    delta isBare Char.isAlphanum Char.isAlpha Char.isUpper Char.isLower Char.isDigit at h
    simp only [Bool.or_eq_true, Bool.and_eq_true, decide_eq_true_eq, beq_iff_eq, ge_iff_le,
      UInt32.le_iff_toNat_le] at h
    rcases h with (((⟨hlow, hhigh⟩ | ⟨hlow, hhigh⟩) | ⟨hlow, hhigh⟩) | rfl) | rfl
    · exact ⟨Nat.le_trans (by decide) hlow, Nat.lt_of_le_of_lt hhigh (by decide)⟩
    · exact ⟨Nat.le_trans (by decide) hlow, Nat.lt_of_le_of_lt hhigh (by decide)⟩
    · exact ⟨Nat.le_trans (by decide) hlow, Nat.lt_of_le_of_lt hhigh (by decide)⟩
    · decide
    · decide
  simp [isPlain, isPrintable, hquote, hbackslash, hrange]

/-- A plain value is flat. -/
theorem IsPlain.flat (h : IsPlain v) :
  Flat v
  := by
  have hplain : ∀ {s : String}, IsName s → IsPlainText s := fun hs c hc => isPlain_of_isBare (hs.2 c hc)
  cases h with
  | bool b => exact .bool b
  | name name => exact .text (hplain name)
  | names names => exact .texts fun s hs => hplain (names s hs)

/-- A plain table is flat. -/
theorem IsPlainTable.isFlatTable (h : IsPlainTable ms) :
  IsFlatTable ms
  := fun m hm => ⟨(h.plain m hm).1, (h.plain m hm).2.flat⟩

/-- A plain document has only lines that keep to themselves. -/
theorem Document.IsPlain.isFlat {d : Document} (h : d.IsPlain) :
  d.IsFlat
  where
  top := h.top
  path := h.path
  lines := by
    intro l hl
    cases l with
    | comment text => exact .comment (h.comments text hl)
    | blank => exact .blank
    | setting key v =>
      have hnone : Line.setting key v ∉ d.top := by
        intro hmem
        have hsome : (key, v) ∈ d.top.filterMap Line.setting? := List.mem_filterMap.mpr ⟨_, hmem, rfl⟩
        rw [h.top] at hsome
        contradiction
      have hmem : (key, v) ∈ d.settings :=
        List.mem_filterMap.mpr ⟨_, (List.mem_append.mp hl).resolve_left hnone, rfl⟩
      obtain ⟨hname, hplain⟩ := h.settings.plain _ hmem
      exact .setting hname hplain.flat

/-- A document that states one table of different keys says it under its name. -/
theorem DocumentText.says {path : KeyPath} {text : String}
    (h : DocumentText text.toList (statementsOf path ms))
    (hdistinct : (ms.map Prod.fst).Nodup) :
  Says text (nest path ms)
  := ⟨read_of_documentText h hdistinct, h.noReturn⟩

/-- The standard library is faithful. -/
theorem isFaithful_standard :
  @IsFaithful Standard.library
  where
  write h := by
    obtain ⟨text, htext, hdocument⟩ := exists_write_flat h.isFlatTable
    exact ⟨text, htext, hdocument.says h.distinct⟩
  writeDocument h := by
    obtain ⟨text, htext, hdocument⟩ := exists_writeDocument_flat h.isFlat
    exact ⟨text, htext, hdocument.says h.settings.distinct⟩

end Diagnostics.Toml
