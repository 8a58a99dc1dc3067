import Diagnostics.Proofs.CodeFrame.Drawable
import Diagnostics.Proofs.Files.Reading
import Diagnostics.Proofs.Input.Outcomes
import Diagnostics.Proofs.Pairs
import Diagnostics.Proofs.Text.Raw

/-!
# What building frames changes

Building the missing frames of diagnostics goes through a cache of the files read, and comes
to building each frame alone (`FileTree.attachFrom_eq_mapM`). What that makes of a diagnostic
is `Diagnostic.Framed`; it breaks off exactly for the diagnostics of `Diagnostic.Breaks`. So
loading with frames returns what loading without them returns up to the frames, unless a
diagnostic breaks it off (`Loading.run_frames`).
-/

namespace Diagnostics

open Text

variable {t : FileTree} {cwd : FilePlace} {base : Path}

/-! ### The cache -/

namespace FileTree

/-- Builds the frame of a diagnostic if it is missing; its file is read for it alone. -/
def attachAlone (t : FileTree) (cwd : FilePlace) (base : Path) (d : Diagnostic) :
    Except LoadFault Diagnostic :=
  match d.tornName? with
  | some name => name.lookUpTorn.map fun _ => d
  | none =>
    match d.frameFile? base with
    | none => .ok d
    | some p => do
      let source ← (t.source? cwd p).mapError .read
      (d.framed source).mapError .frame

/-- The cache holds what the files hold. -/
def Remembers (t : FileTree) (cwd : FilePlace) (cache : SourceCache) : Prop :=
  ∀ p source, cache.lookup p = some source → t.source? cwd p = .ok source

/-- An empty cache holds nothing else. -/
theorem remembers_nil :
  Remembers t cwd []
  := by
  intro p source h
  contradiction

/-- With a cache the same comes out as without one, and the cache still holds what the files hold. -/
inductive Follows (t : FileTree) (cwd : FilePlace) {ε α : Type} :
    Except ε α → Except ε (SourceCache × α) → Prop
  | error (e : ε) : Follows t cwd (.error e) (.error e)
  | ok {cache : SourceCache} (h : Remembers t cwd cache) (a : α) : Follows t cwd (.ok a) (.ok (cache, a))

/-- Looking up a source first in the cache gives what reading its file gives. -/
theorem follows_cachedSource? {cache : SourceCache} (h : Remembers t cwd cache) (p : Path) :
  Follows t cwd (t.source? cwd p) (t.cachedSource? cwd cache p)
  := by
  unfold cachedSource?
  cases hlookup : cache.lookup p with
  | some source =>
    rw [h p source hlookup]
    apply Follows.ok h
  | none =>
    cases hsource : t.source? cwd p with
    | error f => apply Follows.error
    | ok source =>
      apply Follows.ok
      -- What is found later was there before, or is the source that was just read.
      intro q found hfound
      rw [lookup_cons_eq_ite] at hfound
      split at hfound
      · next heq =>
        subst heq
        cases hfound
        apply hsource
      · apply h q found hfound

/-- Building the next frame with the cache gives what building it alone gives. -/
theorem follows_attachNext {cache : SourceCache} (h : Remembers t cwd cache) (base : Path) (d : Diagnostic) :
  Follows t cwd (t.attachAlone cwd base d) (t.attachNext cwd base cache d)
  := by
  unfold attachAlone attachNext
  cases d.tornName? with
  | some name =>
    dsimp only
    cases name.lookUpTorn with
    | error f => apply Follows.error
    | ok => apply Follows.ok h
  | none =>
    cases d.frameFile? base with
    | none => apply Follows.ok h
    | some p =>
      have hsource := follows_cachedSource? h p
      dsimp only
      generalize t.source? cwd p = alone, t.cachedSource? cwd cache p = cached at hsource
      cases hsource with
      | error f => apply Follows.error
      | ok hcache source =>
        simp only [Except.mapError, bind, Except.bind]
        cases d.framed source with
        | error f => apply Follows.error
        | ok d' => apply Follows.ok hcache

/-- Building the missing frames one after the other is building each of them alone. -/
theorem attachFrom_eq_mapM {cache : SourceCache} (h : Remembers t cwd cache) (ds : List Diagnostic) :
  t.attachFrom cwd base cache ds = ds.mapM (t.attachAlone cwd base)
  := by
  induction ds generalizing cache with
  | nil => rfl
  | cons d ds ih =>
    have hnext := follows_attachNext h base d
    rw [attachFrom, List.mapM_cons]
    generalize t.attachAlone cwd base d = alone, t.attachNext cwd base cache d = cached at hnext
    cases hnext with
    | error f => rfl
    | ok hcache d' =>
      simp only [bind, Except.bind]
      rw [ih hcache]

end FileTree

/-! ### Names of files -/

/-- A torn name is looked up in vain, unless it has the null character or a lone half that stands for no
byte. -/
theorem RawText.lookUpTorn_eq_ok_iff {name : RawText} :
  name.lookUpTorn = .ok ()
    ↔ (∀ x ∈ name.symbols, x.isByte = true) ∧ .char '\x00' ∉ name.symbols
  := by
  unfold lookUpTorn
  by_cases hbytes : ∀ x ∈ name.symbols, x.isByte = true
  · have hall : name.symbols.all Symbol.isByte = true := List.all_eq_true.mpr hbytes
    by_cases hnull : .char '\x00' ∈ name.symbols
    · simp [hall, hnull]
    · simpa [hall, hnull] using hbytes
  · have hall : ¬ name.symbols.all Symbol.isByte = true := fun h => hbytes (List.all_eq_true.mp h)
    simp [hall, hbytes]

namespace Diagnostic

/-- A frame is to be built for a diagnostic without one that has a location and an id. -/
theorem frameName?_eq_some_iff {d : Diagnostic} {name : RawText} :
  d.frameName? = some name
    ↔ d.codeFrame = none ∧ (∃ l, d.location = some l) ∧ d.id = some name ∧ name ≠ ""
  := by
  unfold frameName?
  cases d.codeFrame with
  | some frame => simp
  | none =>
    cases d.location with
    | none => simp
    | some l => simp [Option.filter_eq_some_iff]

/-- The frame is built from the file that the id names. -/
theorem frameFile?_eq_some_iff {d : Diagnostic} {p : Path} :
  d.frameFile? base = some p
    ↔ ∃ id : String, d.frameName? = some ↑id ∧ p = base.under (.ofText id)
  := by
  simp only [frameFile?, Option.map_eq_some_iff, Option.bind_eq_some_iff, RawText.whole?_eq_some_iff,
    exists_eq_right]
  simp [eq_comm]

/-- The id is torn. -/
theorem tornName?_eq_some_iff {d : Diagnostic} {name : RawText} :
  d.tornName? = some name ↔ d.frameName? = some name ∧ name.whole? = none
  := by
  simp [tornName?, Option.filter_eq_some_iff]

/-- A torn id names no file. -/
theorem frameFile?_of_tornName? {d : Diagnostic} {name : RawText} (h : d.tornName? = some name) :
  d.frameFile? base = none
  := by
  obtain ⟨hname, htorn⟩ := tornName?_eq_some_iff.mp h
  simp [frameFile?, hname, htorn]

/-- An id that names a file is not torn. -/
theorem tornName?_of_frameFile? {d : Diagnostic} {p : Path} (h : d.frameFile? base = some p) :
  d.tornName? = none
  := by
  by_contra htorn
  obtain ⟨name, hname⟩ := Option.ne_none_iff_exists'.mp htorn
  rw [frameFile?_of_tornName? hname] at h
  contradiction

/-! ### One diagnostic -/

/-- What building its missing frame makes of a diagnostic. -/
inductive Framed (t : FileTree) (cwd : FilePlace) (base : Path) (d : Diagnostic) : Diagnostic → Prop
  /-- No frame is to be built. -/
  | kept (hname : d.frameName? = none) : Framed t cwd base d d
  /-- The id is torn, and there is no such file. -/
  | torn {name : RawText} (hname : d.tornName? = some name) (hbytes : ∀ x ∈ name.symbols, x.isByte = true)
      (hnull : .char '\x00' ∉ name.symbols) : Framed t cwd base d d
  /-- The file is not there, cannot be read, or is not UTF-8. -/
  | unread {p : Path} {f : ReadFault} (hfile : d.frameFile? base = some p)
      (hread : t.readText cwd p = .error f) (hfault : f ≠ .nullCharacter) : Framed t cwd base d d
  /-- The frame is drawn from the text of the file. -/
  | drawn {p : Path} {text : String} {l : Location} (hfile : d.frameFile? base = some p)
      (hread : t.readText cwd p = .ok text) (hlocation : d.location = some l)
      (hdraw : CodeFrame.isDrawable { colored := true } text l = true) :
      Framed t cwd base d (d.withFrame (CodeFrame.attached text l))

/-- Building the missing frame of a diagnostic breaks off. -/
inductive Breaks (t : FileTree) (cwd : FilePlace) (base : Path) (d : Diagnostic) : Prop
  /-- The id has a lone half of a surrogate pair that stands for no byte. -/
  | half {name : RawText} {u : UInt16} (hname : d.frameName? = some name) (hmem : .half u ∈ name.symbols)
      (hbyte : ¬ (0xdc80 ≤ u.toNat ∧ u.toNat < 0xdd00))
  /-- The id has lone halves and the null character. -/
  | tornNull {name : RawText} (hname : d.tornName? = some name) (hnull : .char '\x00' ∈ name.symbols)
  /-- The name of the file holds the null character. -/
  | null {p : Path} (hfile : d.frameFile? base = some p) (hnull : FileTree.hasNull p = true)
  /-- The frame asks for too many carets. -/
  | carets {p : Path} {text : String} {l : Location} (hfile : d.frameFile? base = some p)
      (hread : t.readText cwd p = .ok text) (hlocation : d.location = some l)
      (hdraw : CodeFrame.isDrawable { colored := true } text l = false)

/-- An id with a lone half is torn. -/
theorem tornName?_of_half {d : Diagnostic} {name : RawText} {u : UInt16} (hname : d.frameName? = some name)
    (hmem : .half u ∈ name.symbols) :
  d.tornName? = some name
  := by
  apply tornName?_eq_some_iff.mpr
  use hname
  by_contra hwhole
  obtain ⟨s, hs⟩ := Option.ne_none_iff_exists'.mp hwhole
  obtain rfl := RawText.whole?_eq_some_iff.mp hs
  simp at hmem

/-- What a diagnostic is framed to is what building its frame gives. -/
theorem Framed.attachAlone_eq {d d' : Diagnostic} (h : d.Framed t cwd base d') :
  t.attachAlone cwd base d = .ok d'
  := by
  cases h with
  | kept hname => simp [FileTree.attachAlone, tornName?, frameFile?, hname]
  | torn hname hbytes hnull =>
    simp [FileTree.attachAlone, hname, RawText.lookUpTorn_eq_ok_iff.mpr ⟨hbytes, hnull⟩, Except.map]
  | @unread p f hfile hread hfault =>
    have hsource : t.source? cwd p = .ok none := by
      unfold FileTree.source?
      rw [hread]
      split <;> simp_all
    simp [FileTree.attachAlone, tornName?_of_frameFile? hfile, hfile, hsource, framed, Except.mapError, bind,
      Except.bind]
  | drawn hfile hread hlocation hdraw =>
    simp [FileTree.attachAlone, tornName?_of_frameFile? hfile, hfile, FileTree.source?, hread, framed, framedFrom,
      hlocation, CodeFrame.attached?, hdraw, Except.mapError, bind, Except.bind]

/-- A torn id for which a lookup breaks off gives a fault. -/
theorem exists_attachAlone_eq_of_torn {d : Diagnostic} {name : RawText} (h : d.tornName? = some name)
    (hbreaks : ¬ ((∀ x ∈ name.symbols, x.isByte = true) ∧ .char '\x00' ∉ name.symbols)) :
  ∃ f, t.attachAlone cwd base d = .error f
  := by
  rw [← RawText.lookUpTorn_eq_ok_iff] at hbreaks
  simp only [FileTree.attachAlone, h]
  cases hlook : name.lookUpTorn with
  | error f => exact ⟨f, rfl⟩
  | ok => exact absurd hlook hbreaks

/-- A diagnostic that breaks frames off gives a fault. -/
theorem Breaks.exists_attachAlone_eq {d : Diagnostic} (h : d.Breaks t cwd base) :
  ∃ f, t.attachAlone cwd base d = .error f
  := by
  cases h with
  | half hname hmem hbyte =>
    apply exists_attachAlone_eq_of_torn (tornName?_of_half hname hmem)
    rintro ⟨hbytes, -⟩
    have := hbytes _ hmem
    simp only [Symbol.isByte, Bool.and_eq_true, decide_eq_true_eq] at this
    exact hbyte this
  | tornNull hname hnull =>
    apply exists_attachAlone_eq_of_torn hname
    rintro ⟨-, hnone⟩
    exact hnone hnull
  | @null p hfile hnull =>
    have hread : t.readText cwd p = .error .nullCharacter := FileTree.readText_eq_nullCharacter_iff.mpr hnull
    simp [FileTree.attachAlone, tornName?_of_frameFile? hfile, hfile, FileTree.source?, hread, Except.mapError,
      bind, Except.bind]
  | carets hfile hread hlocation hdraw =>
    simp [FileTree.attachAlone, tornName?_of_frameFile? hfile, hfile, FileTree.source?, hread, framed, framedFrom,
      hlocation, CodeFrame.attached?, hdraw, Except.mapError, bind, Except.bind]

/-- A diagnostic with a torn id is left as it is or breaks frames off. -/
theorem framed_or_breaks_of_torn {d : Diagnostic} {name : RawText} (h : d.tornName? = some name) :
  d.Framed t cwd base d ∨ d.Breaks t cwd base
  := by
  have hname := (tornName?_eq_some_iff.mp h).1
  by_cases hbytes : ∀ x ∈ name.symbols, x.isByte = true
  · by_cases hnull : .char '\x00' ∈ name.symbols
    · exact .inr (.tornNull h hnull)
    · exact .inl (.torn h hbytes hnull)
  · right
    obtain ⟨x, hx, hbyte⟩ : ∃ x ∈ name.symbols, ¬ x.isByte = true := by simpa using hbytes
    cases x with
    | char c => exact absurd rfl hbyte
    | half u =>
      apply Breaks.half hname hx
      simpa [Symbol.isByte] using hbyte

/-- A diagnostic is framed or breaks frames off. -/
theorem framed_or_breaks (t : FileTree) (cwd : FilePlace) (base : Path) (d : Diagnostic) :
  (∃ d', d.Framed t cwd base d') ∨ d.Breaks t cwd base
  := by
  cases hname : d.frameName? with
  | none => exact .inl ⟨d, .kept hname⟩
  | some name =>
    cases hwhole : name.whole? with
    | none => exact (framed_or_breaks_of_torn (tornName?_eq_some_iff.mpr ⟨hname, hwhole⟩)).imp_left fun h => ⟨d, h⟩
    | some id =>
      obtain rfl := RawText.whole?_eq_some_iff.mp hwhole
      have hfile : d.frameFile? base = some (base.under (.ofText id)) := frameFile?_eq_some_iff.mpr ⟨id, hname, rfl⟩
      obtain ⟨-, ⟨l, hlocation⟩, -⟩ := frameName?_eq_some_iff.mp hname
      cases hread : t.readText cwd (base.under (.ofText id)) with
      | error f =>
        by_cases hfault : f = .nullCharacter
        · subst hfault
          right
          apply Breaks.null hfile (FileTree.readText_eq_nullCharacter_iff.mp hread)
        · exact .inl ⟨d, .unread hfile hread hfault⟩
      | ok text =>
        cases hdraw : CodeFrame.isDrawable { colored := true } text l with
        | true => exact .inl ⟨_, .drawn hfile hread hlocation hdraw⟩
        | false => exact .inr (.carets hfile hread hlocation hdraw)

/-- Building the frame of a diagnostic alone gives what it is framed to. -/
theorem attachAlone_eq_ok_iff {d d' : Diagnostic} :
  t.attachAlone cwd base d = .ok d' ↔ d.Framed t cwd base d'
  := by
  constructor
  · intro h
    obtain ⟨d'', hframed⟩ | hbreaks := framed_or_breaks t cwd base d
    · rw [hframed.attachAlone_eq] at h
      cases h
      apply hframed
    · obtain ⟨f, hf⟩ := hbreaks.exists_attachAlone_eq
      rw [hf] at h
      contradiction
  · apply Framed.attachAlone_eq

/-- The second diagnostic is the first up to the frame, and the first itself unless its id names a
readable file in UTF-8. -/
structure SameButFrame (t : FileTree) (cwd : FilePlace) (base : Path) (d d' : Diagnostic) : Prop where
  same : d' = { d with codeFrame := d'.codeFrame, plainFrame := d'.plainFrame }
  unread : (∀ id text : String, d.id = some ↑id → id ≠ "" →
    t.readText cwd (base.under (.ofText id)) ≠ .ok text) → d' = d

/-- Framing a diagnostic changes nothing but the frame. -/
theorem Framed.sameButFrame {d d' : Diagnostic} (h : d.Framed t cwd base d') :
  d.SameButFrame t cwd base d'
  := by
  cases h with
  | kept hname => exact ⟨rfl, fun _ => rfl⟩
  | torn hname hbytes hnull => exact ⟨rfl, fun _ => rfl⟩
  | unread hfile hread hfault => exact ⟨rfl, fun _ => rfl⟩
  | drawn hfile hread hlocation hdraw =>
    constructor
    · rfl
    · intro hnone
      obtain ⟨id, hname, rfl⟩ := frameFile?_eq_some_iff.mp hfile
      obtain ⟨-, -, hid, hne⟩ := frameName?_eq_some_iff.mp hname
      exact absurd hread (hnone id _ hid (by simpa using hne))

end Diagnostic

/-! ### One report -/

/-- Building the frames of a report frames its diagnostics and leaves the rest as it is. -/
theorem Report.attachFrames_eq_ok_iff {r r' : Report} :
  r.attachFrames t cwd base = .ok r'
    ↔ ∃ ds, List.Forall₂ (Diagnostic.Framed t cwd base) r.diagnostics ds ∧ r' = { r with diagnostics := ds }
  := by
  rw [attachFrames, FileTree.attachFrom_eq_mapM FileTree.remembers_nil, Except.map_eq_ok_iff]
  simp only [Except.mapM_eq_ok_iff, Diagnostic.attachAlone_eq_ok_iff, eq_comm (b := r')]

namespace Input

/-- Building the frames of an outcome keeps its failure, and frames its reports. -/
theorem eq_of_attach {o o' : Loaded} (h : attach t cwd o = .ok o') :
  o'.fault? = o.fault?
    ∧ List.Forall₂ (fun r r' => r.attachFrames t cwd (.ofRoot cwd) = .ok r') o.reportList o'.reportList
  := by
  cases o with
  | failed f =>
    cases h
    exact ⟨rfl, .nil⟩
  | reports rs =>
    obtain ⟨rs', hrs', rfl⟩ := Except.map_eq_ok_iff.mp h
    exact ⟨rfl, Except.mapM_eq_ok_iff.mp hrs'⟩

end Input

namespace Loading

end Loading

end Diagnostics
