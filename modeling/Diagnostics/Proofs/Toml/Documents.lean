import Diagnostics.Proofs.Files.Reading
import Diagnostics.Proofs.Toml.Values

/-!
# Reading documents that were written

A grammar for documents that are written line by line (`Toml.DocumentText`): empty lines, comments,
headers and assignments. What it says a document states is what is read from it
(`Toml.DocumentText.readStatementsFrom_eq`). Assignments of different keys make up the table of these
keys, so a document that has nothing but one table is read as this table, at the top or under a header
(`Toml.read_of_documentText`).
-/

namespace Diagnostics.Toml

open Text

/-! ### Keys -/

/-- A dotted key as headers spell it. -/
def dottedText (path : KeyPath) : List Char :=
  join ['.'] (path.map String.toList)

variable {key : String} {path : KeyPath} {rest : List Char} {fuel : Nat}

/-- What may stand in a key without quotes is none of the characters that may not. -/
theorem ne_of_isBare {c d : Char} (hc : isBare c = true) (hd : isBare d = false) :
  c ≠ d
  := by
  rintro rfl
  rw [hc] at hd
  contradiction

theorem isInline_of_isBare {c : Char} (hc : isBare c = true) :
  isInline c = false
  := by
  simp [isInline, ne_of_isBare hc (d := ' ') (by decide), ne_of_isBare hc (d := '\t') (by decide)]

theorem skipLines_of_isBare {c : Char} (hc : isBare c = true) (cs : List Char) :
  skipLines false (c :: cs) = c :: cs
  := by
  simp [skipLines, isInline_of_isBare hc, ne_of_isBare hc (d := '\n') (by decide),
    ne_of_isBare hc (d := '#') (by decide)]

theorem IsName.exists_cons (h : IsName key) :
  ∃ c cs, key.toList = c :: cs ∧ isBare c = true
  := by
  obtain ⟨c, cs, hcons⟩ := List.exists_cons_of_ne_nil h.1
  use c, cs, hcons
  apply h.2
  rw [hcons]
  exact List.mem_cons_self

/-- A part of a key is read as a whole. -/
theorem IsName.readKey_append (h : IsName key) (hrest : ∀ c ∈ rest.head?, isBare c = false) :
  readKey (key.toList ++ rest) = some (key, rest)
  := by
  obtain ⟨c, cs, hcons, hc⟩ := h.exists_cons
  have hspan := span_append h.2 hrest
  have hkey : String.ofList (c :: cs) = key := by rw [← hcons, String.ofList_toList]
  rw [hcons, List.cons_append] at hspan ⊢
  rw [readKey, hspan]
  · simp [hkey]
  · intro rest' heq
    apply ne_of_isBare hc (d := '"') (by decide) (List.cons_eq_cons.mp heq).1
  · intro rest' heq
    apply ne_of_isBare hc (d := '\'') (by decide) (List.cons_eq_cons.mp heq).1

/-- A dotted key starts like its first part. -/
theorem exists_dottedText_eq_cons (hpath : path ≠ []) (hnames : ∀ key ∈ path, IsName key) :
  ∃ c cs, dottedText path = c :: cs ∧ isBare c = true
  := by
  obtain ⟨key, path, rfl⟩ := List.exists_cons_of_ne_nil hpath
  obtain ⟨c, cs, hcons, hc⟩ := (hnames key List.mem_cons_self).exists_cons
  cases path with
  | nil => exact ⟨c, cs, hcons, hc⟩
  | cons next path =>
    refine ⟨c, cs ++ ['.'] ++ dottedText (next :: path), ?_, hc⟩
    simp [dottedText, join, hcons]

theorem skipInline_cons {c : Char} (hc : isInline c = false) (cs : List Char) :
  skipInline (c :: cs) = c :: cs
  := by
  simp [skipInline, hc]

/-- The text ends a key: it starts with what does not belong to one, and no point follows. -/
structure EndsKey (rest : List Char) : Prop where
  bare : ∀ c ∈ rest.head?, isBare c = false
  point : ∀ more, skipInline rest ≠ '.' :: more

/-- A dotted key is read as a whole. -/
theorem readKeyPath_append (hpath : path ≠ []) (hnames : ∀ key ∈ path, IsName key)
    (hrest : EndsKey rest) (hfuel : (dottedText path).length ≤ fuel) :
  readKeyPath fuel (dottedText path ++ rest) = some (path, rest)
  := by
  induction path generalizing fuel with
  | nil => contradiction
  | cons key path ih =>
    obtain ⟨hkey, hnames⟩ := List.forall_mem_cons.mp hnames
    obtain ⟨c, cs, hcons, -⟩ := hkey.exists_cons
    cases path with
    | nil =>
      have htext : dottedText [key] = key.toList := rfl
      rw [htext] at hfuel ⊢
      have hpos : 1 ≤ fuel := by
        rw [hcons, List.length_cons] at hfuel
        omega
      obtain ⟨fuel, rfl⟩ := Nat.exists_eq_add_of_le' hpos
      rw [readKeyPath, hkey.readKey_append hrest.bare]
      dsimp only
      split
      · next more hmore => apply absurd hmore (hrest.point more)
      · rfl
    | cons next path =>
      have htext : dottedText (key :: next :: path) = key.toList ++ '.' :: dottedText (next :: path) := by
        simp [dottedText, join]
      rw [htext] at hfuel ⊢
      have hpos : 1 + (dottedText (next :: path)).length ≤ fuel := by
        rw [hcons] at hfuel
        simp only [List.length_append, List.length_cons] at hfuel
        omega
      obtain ⟨fuel, rfl⟩ := Nat.exists_eq_add_of_le' (Nat.le_of_add_right_le hpos)
      have hkeyEnds : ∀ d ∈ ('.' :: (dottedText (next :: path) ++ rest)).head?, isBare d = false := by
        rintro d ⟨⟩
        decide
      obtain ⟨d, ds, hdotted, hd⟩ := exists_dottedText_eq_cons (List.cons_ne_nil next path) hnames
      have hskip : skipInline (dottedText (next :: path) ++ rest) = dottedText (next :: path) ++ rest := by
        rw [hdotted]
        apply skipInline_cons (isInline_of_isBare hd)
      have hmore : readKeyPath fuel (dottedText (next :: path) ++ rest) = some (next :: path, rest) :=
        ih (List.cons_ne_nil next path) hnames (by omega)
      rw [List.append_assoc, List.cons_append, readKeyPath, hkey.readKey_append hkeyEnds]
      simp [skipInline_cons (c := '.') rfl, hskip, hmore]

/-! ### Statements -/

/-- A document that is written line by line, and what it states. -/
inductive DocumentText : List Char → List Statement → Prop
  | nil : DocumentText [] []
  | blank {cs : List Char} {ss : List Statement} (rest : DocumentText cs ss) : DocumentText ('\n' :: cs) ss
  | comment {text cs : List Char} {ss : List Statement} (comment : ∀ c ∈ text, isComment c = true)
      (rest : DocumentText cs ss) : DocumentText ('#' :: text ++ '\n' :: cs) ss
  | table {path : KeyPath} {cs : List Char} {ss : List Statement} (nonempty : path ≠ [])
      (names : ∀ key ∈ path, IsName key) (rest : DocumentText cs ss) :
      DocumentText (header (dottedText path) ++ cs) (.table path :: ss)
  | assign {key : String} {value cs : List Char} {v : Value} {ss : List Statement} (name : IsName key)
      (spells : Spells value v) (rest : DocumentText cs ss) :
      DocumentText (assignment key.toList value ++ '\n' :: cs) (.assign [key] v :: ss)

/-- A dotted key is made of what its parts may hold, and points. -/
theorem notMem_dottedText {c : Char} (hc : isBare c = false) (hpoint : c ≠ '.')
    (hnames : ∀ key ∈ path, IsName key) :
  c ∉ dottedText path
  := by
  intro hmem
  obtain ⟨part, hpart, hc'⟩ := (mem_join_iff (by simpa using hpoint)).mp hmem
  obtain ⟨key, hkey, rfl⟩ := List.mem_map.mp hpart
  apply ne_of_isBare ((hnames key hkey).2 c hc') hc rfl

/-- The line ends of a document stay as they are when those of a file are unified. -/
theorem DocumentText.noReturn {cs : List Char} {ss : List Statement} (h : DocumentText cs ss) :
  '\r' ∉ cs
  := by
  induction h with
  | nil => simp
  | blank rest ih => simpa using ih
  | @comment text cs ss hcomment rest ih =>
    have htext : '\r' ∉ text := fun hmem => absurd (hcomment '\r' hmem) (by decide)
    simp [htext, ih]
  | table nonempty names rest ih =>
    simp [header, notMem_dottedText (c := '\r') rfl (by decide) names, ih]
  | @assign key value cs v ss name spells rest ih =>
    have hkey : '\r' ∉ key.toList := fun hmem => absurd (name.2 '\r' hmem) (by decide)
    simp [assignment, hkey, spells.noReturn, ih]

/-- What stands before the statements makes no difference to them. -/
theorem readStatementsFrom_congr {cs cs' : List Char} (h : skipLines false cs = skipLines false cs') :
  readStatementsFrom fuel cs = readStatementsFrom fuel cs'
  := by
  cases fuel with
  | zero => rfl
  | succ fuel => rw [readStatementsFrom, readStatementsFrom, h]

/-- A comment is skipped up to the end of its line. -/
theorem skipLines_comment {text cs : List Char} (h : ∀ c ∈ text, isComment c = true) :
  skipLines true (text ++ '\n' :: cs) = skipLines false cs
  := by
  induction text with
  | nil => simp [skipLines, isComment]
  | cons c text ih =>
    obtain ⟨hc, htext⟩ := List.forall_mem_cons.mp h
    rw [List.cons_append, skipLines, if_pos hc, ih htext]

/-- A statement at the start of a text is read, and then those on the lines behind it. -/
theorem readStatementsFrom_cons {c : Char} {cs more : List Char} {s : Statement} {ss : List Statement}
    (hstart : skipLines false (c :: cs) = c :: cs) (hread : readStatement (c :: cs) = some (s, '\n' :: more))
    (hmore : readStatementsFrom fuel more = some ss) :
  readStatementsFrom (fuel + 1) (c :: cs) = some (s :: ss)
  := by
  rw [readStatementsFrom, hstart]
  simp [hread, skipInline_cons (c := '\n') rfl, skipComment, hmore]

/-- A header is read. -/
theorem readStatement_header {cs : List Char} (hpath : path ≠ []) (hnames : ∀ key ∈ path, IsName key) :
  readStatement (header (dottedText path) ++ cs) = some (.table path, '\n' :: cs)
  := by
  obtain ⟨c, name, hname, hc⟩ := exists_dottedText_eq_cons hpath hnames
  have htext : header (dottedText path) ++ cs = '[' :: (dottedText path ++ ']' :: '\n' :: cs) := by
    simp [header]
  have hskip : skipInline (dottedText path ++ ']' :: '\n' :: cs) = dottedText path ++ ']' :: '\n' :: cs := by
    rw [hname]
    apply skipInline_cons (isInline_of_isBare hc)
  have hends : EndsKey (']' :: '\n' :: cs) := by
    constructor
    · rintro d ⟨⟩
      decide
    · rw [skipInline_cons rfl]
      rintro more ⟨⟩
  rw [htext, readStatement, hskip, readKeyPath_append hpath hnames hends]
  · simp [skipInline_cons (c := ']') rfl]
  · simp only [List.length_append]
    omega
  · intro rest heq
    rw [hname] at heq
    apply ne_of_isBare hc (d := '[') (by decide) (List.cons_eq_cons.mp heq).1

/-- An assignment is read. -/
theorem readStatement_assignment {value cs : List Char} {v : Value} (hkey : IsName key)
    (hvalue : Spells value v) :
  readStatement (assignment key.toList value ++ '\n' :: cs) = some (.assign [key] v, '\n' :: cs)
  := by
  obtain ⟨c, name, hname, hc⟩ := hkey.exists_cons
  let behind : List Char := ' ' :: '=' :: ' ' :: (value ++ '\n' :: cs)
  have htext : assignment key.toList value ++ '\n' :: cs = dottedText [key] ++ behind := by
    simp [assignment, dottedText, join, behind]
  have hends : EndsKey behind := by
    constructor
    · rintro d ⟨⟩
      decide
    · rintro more ⟨⟩
  have hpath : readKeyPath ((dottedText [key] ++ behind).length + 1) (dottedText [key] ++ behind)
      = some ([key], behind) := by
    apply readKeyPath_append (List.cons_ne_nil key []) (by simpa using hkey) hends
    simp only [List.length_append]
    omega
  have hassign : readStatement (dottedText [key] ++ behind) = readAssign (dottedText [key] ++ behind) := by
    have hcons : dottedText [key] = c :: name := hname
    have hbracket : c ≠ '[' := ne_of_isBare hc (by decide)
    rw [hcons, List.cons_append, readStatement]
    · intro rest heq
      apply hbracket (List.cons_eq_cons.mp heq).1
    · intro rest heq
      apply hbracket (List.cons_eq_cons.mp heq).1
  have hsign : skipInline behind = '=' :: ' ' :: (value ++ '\n' :: cs) := rfl
  have hblank : skipInline (' ' :: (value ++ '\n' :: cs)) = value ++ '\n' :: cs := hvalue.skipInline_append
  have hread : readValue (2 * (value ++ '\n' :: cs).length + 1) (value ++ '\n' :: cs)
      = some (v, '\n' :: cs) := by
    apply hvalue.read
    · simp only [List.length_append]
      omega
    · rintro d ⟨⟩
      rfl
  rw [htext, hassign, readAssign, hpath]
  simp only [hsign, hblank, hread]
  rfl

/-- What a document states is read from it. -/
theorem DocumentText.readStatementsFrom_eq {cs : List Char} {ss : List Statement} (h : DocumentText cs ss)
    (hfuel : cs.length < fuel) :
  readStatementsFrom fuel cs = some ss
  := by
  induction h generalizing fuel with
  | nil =>
    obtain ⟨fuel, rfl⟩ := Nat.exists_eq_add_of_lt hfuel
    simp [readStatementsFrom, skipLines]
  | @blank cs ss rest ih =>
    have hskip : skipLines false ('\n' :: cs) = skipLines false cs := by simp [skipLines]
    rw [readStatementsFrom_congr hskip]
    exact ih (Nat.lt_of_succ_lt hfuel)
  | @comment text cs ss hcomment rest ih =>
    have hskip : skipLines false ('#' :: text ++ '\n' :: cs) = skipLines false cs := by
      simp [skipLines, isInline, skipLines_comment hcomment]
    rw [readStatementsFrom_congr hskip]
    apply ih
    simp only [List.length_append, List.length_cons] at hfuel
    omega
  | @table path cs ss nonempty names rest ih =>
    obtain ⟨fuel, rfl⟩ := Nat.exists_eq_add_of_lt hfuel
    apply readStatementsFrom_cons
    · simp [skipLines, isInline]
    · apply readStatement_header nonempty names
    · apply ih
      simp only [header, List.length_append, List.length_cons]
      omega
  | @assign key value cs v ss name spells rest ih =>
    obtain ⟨c, key', hkey, hc⟩ := name.exists_cons
    obtain ⟨fuel, rfl⟩ := Nat.exists_eq_add_of_lt hfuel
    have hread : readStatement (assignment key.toList value ++ '\n' :: cs)
        = some (.assign [key] v, '\n' :: cs) := readStatement_assignment name spells
    rw [assignment, hkey] at hread ⊢
    apply readStatementsFrom_cons
    · apply skipLines_of_isBare hc
    · apply hread
    · apply ih
      simp only [List.length_append, List.length_cons]
      omega

/-! ### Tables -/

section nest

variable {ms : Members} {v : Value}

/-- A new key is put behind those of the table. -/
theorem put_nest (hkey : Members.get? key ms = none) :
  put (path ++ [key]) v (nest path ms) = some (nest path (ms ++ [(key, v)]))
  := by
  induction path with
  | nil => simp [put, nest, hkey]
  | cons outer path ih =>
    rw [List.cons_append, put, nest]
    · simp [Members.get?, Members.set, ih, nest]
    · simp

/-- A table is made under a dotted key. -/
theorem put_nil (hpath : path ≠ []) :
  put path (.object []) [] = some (nest path [])
  := by
  induction path with
  | nil => contradiction
  | cons outer path ih =>
    cases path with
    | nil => rfl
    | cons next path =>
      rw [put]
      · simp [Members.get?, ih (List.cons_ne_nil next path), nest]
      · simp

end nest

namespace Builder

variable {b : Builder} {ms : Members} {v : Value}

/-- So far there is nothing but the table that assignments go to, and what was assigned are its
members. -/
structure Holds (b : Builder) (path : KeyPath) (ms : Members) : Prop where
  root : b.root = nest path ms
  current : b.current = path
  assigned : ∀ p ∈ b.assigned, ∃ key ∈ ms.map Prod.fst, p = path ++ [key]

/-- A key that was not assigned may be. -/
theorem Holds.isOpen (h : b.Holds path ms) (hkey : key ∉ ms.map Prod.fst) :
  b.isOpen (path ++ [key]) = true
  := by
  rw [Builder.isOpen, isApart, Bool.not_eq_true', List.any_eq_false]
  intro p hp hbegins
  obtain ⟨key', hkey', rfl⟩ := h.assigned p hp
  rw [List.isPrefixOf_iff_prefix, List.prefix_append_right_inj] at hbegins
  obtain ⟨rfl, -⟩ : key' = key ∧ True := by simpa using hbegins
  apply hkey hkey'

/-- The assignment of a new key adds a member. -/
theorem Holds.assign (h : b.Holds path ms) (hkey : key ∉ ms.map Prod.fst) :
  ∃ b', b.step (.assign [key] v) = some b' ∧ b'.Holds path (ms ++ [(key, v)])
  := by
  have hput : put (path ++ [key]) v (nest path ms) = some (nest path (ms ++ [(key, v)])) :=
    put_nest (Members.get?_eq_none_iff.mpr hkey)
  refine ⟨{ b with
    root := nest path (ms ++ [(key, v)])
    assigned := (path ++ [key]) :: b.assigned }, ?_, ?_⟩
  · simp [step, Builder.assign, intermediates, h.current, h.isOpen hkey, h.root, hput]
  · constructor
    · rfl
    · apply h.current
    · intro p hp
      obtain rfl | hp := List.mem_cons.mp hp
      · exact ⟨key, by simp, rfl⟩
      · obtain ⟨key', hkey', rfl⟩ := h.assigned p hp
        exact ⟨key', by simp [hkey'], rfl⟩

/-- Assignments of different keys add them one after the other. -/
theorem Holds.run (h : b.Holds path ms) (more : Members) (hnodup : ((ms ++ more).map Prod.fst).Nodup) :
  ∃ b', b.run (more.map fun m => .assign [m.1] m.2) = some b' ∧ b'.Holds path (ms ++ more)
  := by
  induction more generalizing b ms with
  | nil => exact ⟨b, rfl, by simpa using h⟩
  | cons m more ih =>
    have hkey : m.1 ∉ ms.map Prod.fst := by
      rw [List.map_append, List.nodup_append] at hnodup
      intro hmem
      apply hnodup.2.2 _ hmem _ (List.mem_cons_self ..) rfl
    obtain ⟨b', hstep, hb'⟩ := h.assign (v := m.2) hkey
    obtain ⟨b'', hrun, hb''⟩ := ih hb' (by simpa using hnodup)
    use b''
    constructor
    · simp [Builder.run, hstep, hrun]
    · simpa using hb''

/-- A header makes the table that assignments go to. -/
theorem exists_openTable (hpath : path ≠ []) :
  ∃ b, ({} : Builder).step (.table path) = some b ∧ b.Holds path []
  := by
  have hfind : find? path [] = none := by
    obtain ⟨key, path, rfl⟩ := List.exists_cons_of_ne_nil hpath
    cases path with
    | nil => rfl
    | cons next path => rfl
  refine ⟨{ root := nest path [], current := path, headed := [path] }, ?_, ?_⟩
  · simp [step, openTable, Builder.isOpen, isApart, hfind, put_nil hpath]
  · constructor
    · rfl
    · rfl
    · simp

end Builder

/-- What a document with one table states, which has a header unless it is the document itself. -/
def statementsOf (path : KeyPath) (ms : Members) : List Statement :=
  (if path = [] then [] else [.table path]) ++ ms.map fun m => .assign [m.1] m.2

/-- A document with one table of different keys is read as this table under its name. -/
theorem read_of_documentText {text : String} {ms : Members}
    (h : DocumentText text.toList (statementsOf path ms)) (hnodup : (ms.map Prod.fst).Nodup) :
  read text = some (nest path ms)
  := by
  have hstatements : readStatements text.toList = some (statementsOf path ms) :=
    h.readStatementsFrom_eq (Nat.lt_succ_self _)
  have hrun : ∃ b, ({} : Builder).run (statementsOf path ms) = some b ∧ b.Holds path ms := by
    by_cases hpath : path = []
    · subst hpath
      have hempty : ({} : Builder).Holds [] [] := ⟨rfl, rfl, by simp⟩
      simpa [statementsOf] using hempty.run ms (by simpa using hnodup)
    · obtain ⟨b, hstep, hb⟩ := Builder.exists_openTable hpath
      obtain ⟨b', hrun, hb'⟩ := hb.run ms (by simpa using hnodup)
      use b'
      constructor
      · simp [statementsOf, hpath, Builder.run, hstep, hrun]
      · simpa using hb'
  obtain ⟨b, hb, hholds⟩ := hrun
  simp [read, hstatements, hb, hholds.root]

end Diagnostics.Toml
