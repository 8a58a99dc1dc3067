import Diagnostics.Proofs.Input.Frames
import Diagnostics.Proofs.Input.Isolation
import Diagnostics.Proofs.Payload.RoundTrip
import Diagnostics.Proofs.Report.Grouping

/-!
# The envelopes of several inputs

A `Listing` is what an input contributes: the checkers that its document names and its
diagnostics in their order. `Announces` says what the envelopes of some listings are: together
they hold the entries of all diagnostics of a checker, and a client that replaces what it shows
of a checker by each envelope ends up with those of the last input that names the checker. Both
are put together from one input each (`Announces.append`), so they hold of all inputs of a run
(`Input.announces_of_outcomes`).
-/

namespace Diagnostics

variable {t : FileTree} {cwd : FilePlace} {frames : Bool} {levels : List Level}

/-! ### Clients -/

/-- An envelope as clients get it: a checker and the members of its entries. -/
abbrev Envelope := RawText × List Json.Members

/-- What a client shows of each checker, if anything. -/
abbrev Shown := RawText → Option (List Json.Members)

namespace Shown

/-- An envelope replaces what was shown of its checker. -/
def hear (shown : Shown) (envelope : Envelope) : Shown :=
  Function.update shown envelope.1 (some envelope.2)

/-- What a client shows after some envelopes. -/
def after (envelopes : List Envelope) : Shown :=
  envelopes.foldl hear fun _ => none

/-- What was shown of a checker before stays when no envelope is about it. -/
theorem foldl_hear (envelopes : List Envelope) (shown : Shown) (checker : RawText) :
  envelopes.foldl hear shown checker = (after envelopes checker).or (shown checker)
  := by
  induction envelopes generalizing shown with
  | nil => rfl
  | cons envelope envelopes ih =>
    rw [after, List.foldl_cons, List.foldl_cons, ih, ih (hear _ envelope), Option.or_assoc]
    congr 1
    by_cases h : checker = envelope.1 <;> simp [hear, h]

/-- Later envelopes come before earlier ones. -/
theorem after_append (before later : List Envelope) (checker : RawText) :
  after (before ++ later) checker = (after later checker).or (after before checker)
  := by
  rw [after, List.foldl_append, foldl_hear]
  rfl

/-- Nothing is shown of a checker without an envelope. -/
theorem after_of_notMem {envelopes : List Envelope} {checker : RawText}
    (h : checker ∉ envelopes.map Prod.fst) :
  after envelopes checker = none
  := by
  induction envelopes with
  | nil => rfl
  | cons envelope envelopes ih =>
    rw [List.map_cons, List.mem_cons, not_or] at h
    rw [after, List.foldl_cons, foldl_hear, ih h.2]
    simp [hear, h.1]

/-- Envelopes with checkers of their own are shown, each for its checker. -/
theorem after_of_nodup {envelopes : List Envelope} (h : (envelopes.map Prod.fst).Nodup) {e : Envelope}
    (he : e ∈ envelopes) :
  after envelopes e.1 = some e.2
  := by
  obtain ⟨before, later, rfl⟩ := List.append_of_mem he
  rw [List.map_append, List.map_cons] at h
  obtain ⟨hlater, -⟩ := List.nodup_cons.mp (List.nodup_append.mp h).2.1
  rw [after_append, after, List.foldl_cons, foldl_hear, after_of_notMem hlater]
  simp [hear]

end Shown

/-! ### Listings -/

/-- What an input contributes: the checkers that its document names, in its header or at its entries, and
the diagnostics in their order. -/
structure Listing where
  checkers : List RawText
  diagnostics : List Diagnostic

/-- The members of the entries for the diagnostics of a checker whose levels are wanted. -/
def entriesOf (levels : List Level) (checker : RawText) (ds : List Diagnostic) : List Json.Members :=
  (ds.filter fun d => d.checker = checker ∧ ∃ l ∈ levels, d.level = some l).map fun d =>
    (Payload.Entry.ofDiagnostic d).encode

/-- The envelopes of reports. -/
def envelopesOf (levels : List Level) (rs : List Report) : List Envelope :=
  rs.map fun r => (r.checker, (r.select levels).map fun d => (Payload.Entry.ofDiagnostic d).encode)

/-- The checkers of the envelopes are those of the reports. -/
theorem checkers_envelopesOf (levels : List Level) (rs : List Report) :
  (envelopesOf levels rs).map Prod.fst = rs.map Report.checker
  := by
  simp [envelopesOf]

/-- The entries of a checker do not come from the diagnostics of other checkers. -/
theorem entriesOf_filter (levels : List Level) (checker : RawText) (ds : List Diagnostic) :
  entriesOf levels checker ds
    = (Diagnostic.select levels (ds.filter fun d => d.checker = checker)).map fun d =>
      (Payload.Entry.ofDiagnostic d).encode
  := by
  rw [entriesOf, Diagnostic.select_eq_filter, List.filter_filter]
  congr 2
  funext d
  rw [Bool.decide_and, Bool.and_comm]

/-- A checker without diagnostics has no entries. -/
theorem entriesOf_of_notMem {checker : RawText} {ds : List Diagnostic}
    (h : checker ∉ ds.map Diagnostic.checker) :
  entriesOf levels checker ds = []
  := by
  have hnone : (ds.filter fun d => d.checker = checker) = [] := by
    rw [List.filter_eq_nil_iff]
    intro d hd hchecker
    apply h
    rw [← of_decide_eq_true hchecker]
    apply List.mem_map_of_mem hd
  rw [entriesOf_filter, hnone]
  rfl

/-- There are no envelopes of a checker that is not among their checkers. -/
theorem filter_eq_nil_of_notMem {es : List Envelope} {checker : RawText} (h : checker ∉ es.map Prod.fst) :
  (es.filter fun e => e.1 = checker) = []
  := by
  rw [List.filter_eq_nil_iff]
  intro e he hchecker
  apply h
  rw [← of_decide_eq_true hchecker]
  apply List.mem_map_of_mem he

/-- Where checkers do not repeat, an envelope is the only one of its checker. -/
theorem filter_eq_singleton_of_nodup {es : List Envelope} (h : (es.map Prod.fst).Nodup) {e : Envelope}
    (he : e ∈ es) :
  (es.filter fun e' => e'.1 = e.1) = [e]
  := by
  obtain ⟨before, later, rfl⟩ := List.append_of_mem he
  rw [List.map_append, List.map_cons, List.nodup_append, List.nodup_cons] at h
  obtain ⟨-, ⟨hlater, -⟩, hbefore⟩ := h
  have hbefore : e.1 ∉ before.map Prod.fst := fun hmem => hbefore _ hmem _ List.mem_cons_self rfl
  rw [List.filter_append, List.filter_cons, if_pos (by simp), filter_eq_nil_of_notMem hbefore,
    filter_eq_nil_of_notMem hlater]
  rfl

/-- What the envelopes of some listings are. -/
structure Announces (levels : List Level) (xs : List Listing) (envelopes : List Envelope) : Prop where
  /-- A checker has an envelope when an input names it. -/
  checkers : ∀ c, c ∈ envelopes.map Prod.fst ↔ ∃ x ∈ xs, c ∈ x.checkers
  /-- The envelopes of a checker hold together the entries of all its diagnostics in their order. -/
  entries : ∀ c, (envelopes.filter fun e => e.1 = c).flatMap Prod.snd
    = entriesOf levels c (xs.flatMap Listing.diagnostics)
  /-- No checker has two envelopes exactly when no checker is named by two inputs. -/
  distinct : (envelopes.map Prod.fst).Nodup ↔ xs.Pairwise fun x y => ∀ c ∈ x.checkers, c ∉ y.checkers
  /-- A client ends up with the diagnostics of a checker from the last input that names it. -/
  last : ∀ before x later, xs = before ++ x :: later → ∀ c ∈ x.checkers, (∀ y ∈ later, c ∉ y.checkers) →
    Shown.after envelopes c = some (entriesOf levels c x.diagnostics)

namespace Announces

/-- No listings have no envelopes. -/
theorem nil :
  Announces levels [] []
  where
  checkers := by simp
  entries := by simp [entriesOf]
  distinct := by simp
  last := by simp

/-- The envelopes of further listings come behind. -/
theorem append {xs ys : List Listing} {es fs : List Envelope} (hxs : Announces levels xs es)
    (hys : Announces levels ys fs) :
  Announces levels (xs ++ ys) (es ++ fs)
  where
  checkers c := by
    rw [List.map_append, List.mem_append, hxs.checkers, hys.checkers]
    simp only [List.mem_append, or_and_right, exists_or]
  entries c := by
    rw [List.filter_append, List.flatMap_append, hxs.entries, hys.entries, List.flatMap_append]
    simp [entriesOf]
  distinct := by
    have hapart : (∀ c ∈ es.map Prod.fst, ∀ d ∈ fs.map Prod.fst, c ≠ d)
        ↔ ∀ x ∈ xs, ∀ y ∈ ys, ∀ c ∈ x.checkers, c ∉ y.checkers := by
      simp only [hxs.checkers, hys.checkers]
      constructor
      · intro h x hx y hy c hc hc'
        exact h c ⟨x, hx, hc⟩ c ⟨y, hy, hc'⟩ rfl
      · rintro h c ⟨x, hx, hc⟩ _ ⟨y, hy, hc'⟩ rfl
        exact h x hx y hy c hc hc'
    rw [List.map_append, List.nodup_append, hxs.distinct, hys.distinct, hapart, List.pairwise_append]
  last := by
    intro before x later hsplit c hc hlater
    rw [Shown.after_append]
    obtain ⟨rest, rfl, hrest⟩ | ⟨rest, rfl, hrest⟩ := List.append_eq_append_iff.mp hsplit
    · rw [hys.last rest x later hrest c hc hlater]
      rfl
    · cases rest with
      | nil =>
        rw [hys.last [] x later hrest.symm c hc hlater]
        rfl
      | cons x' rest =>
        -- The input is one of the first, and none of the others names the checker.
        obtain ⟨rfl, rfl⟩ := List.cons.inj hrest
        have hnone : c ∉ fs.map Prod.fst := by
          rw [hys.checkers]
          rintro ⟨y, hy, hcy⟩
          apply hlater y (List.mem_append_right _ hy) hcy
        rw [Shown.after_of_notMem hnone]
        apply hxs.last before x rest rfl c hc
        intro y hy
        apply hlater y (List.mem_append_left _ hy)

/-- When no checker has two envelopes, a client ends up with all diagnostics of every checker. -/
theorem complete {xs : List Listing} {es : List Envelope} (h : Announces levels xs es)
    (hdistinct : (es.map Prod.fst).Nodup) :
  ∀ c ∈ es.map Prod.fst, Shown.after es c = some (entriesOf levels c (xs.flatMap Listing.diagnostics))
  := by
  intro c hc
  obtain ⟨e, he, rfl⟩ := List.mem_map.mp hc
  rw [Shown.after_of_nodup hdistinct he, ← h.entries, filter_eq_singleton_of_nodup hdistinct he]
  simp

/-- What a list of one listing is split at is that listing. -/
theorem eq_of_singleton_eq_append {x y : Listing} {before later : List Listing}
    (h : [x] = before ++ y :: later) :
  y = x
  := by
  have hy : y ∈ [x] := by
    rw [h]
    simp
  simpa using hy

/-- An input that names no checker has no envelopes. -/
theorem of_nothing :
  Announces levels [⟨[], []⟩] []
  where
  checkers := by simp
  entries := by simp [entriesOf]
  distinct := by simp
  last := by
    intro before x later hsplit c hc
    obtain rfl := eq_of_singleton_eq_append hsplit
    contradiction

/-- The reports made from the groups of some diagnostics announce them. -/
theorem of_sorts {checker : RawText} {ds : List Diagnostic} {gs : Document.Groups} {rs : List Report}
    (h : gs.Sorts checker ds) (hrs : (rs.map fun r => (r.checker, r.diagnostics)) = gs) :
  Announces levels [⟨checker :: ds.map Diagnostic.checker, ds⟩] (envelopesOf levels rs)
  := by
  subst hrs
  have hkeys : Document.Groups.checkers (rs.map fun r => (r.checker, r.diagnostics))
      = (envelopesOf levels rs).map Prod.fst := by
    simp [Document.Groups.checkers, envelopesOf]
  have hnodup := h.distinct
  have hcheckers := h.mem_checkers
  rw [hkeys] at hnodup
  simp only [hkeys] at hcheckers
  -- The envelope of a checker that is named holds its entries.
  have hmem : ∀ c ∈ (envelopesOf levels rs).map Prod.fst,
      (c, entriesOf levels c ds) ∈ envelopesOf levels rs := by
    intro c hc
    rw [checkers_envelopesOf] at hc
    obtain ⟨r, hr, rfl⟩ := List.mem_map.mp hc
    have hgroup : r.diagnostics = ds.filter fun d => d.checker = r.checker :=
      h.group _ (List.mem_map_of_mem hr)
    rw [entriesOf_filter, ← hgroup]
    apply List.mem_map_of_mem hr
  constructor
  case checkers => simpa [eq_comm] using hcheckers
  case entries =>
    intro c
    by_cases hc : c ∈ (envelopesOf levels rs).map Prod.fst
    · rw [filter_eq_singleton_of_nodup hnodup (hmem c hc)]
      simp
    · have hds : c ∉ ds.map Diagnostic.checker := by
        intro hmem
        apply hc
        apply (hcheckers c).mpr
        right
        simpa using hmem
      rw [filter_eq_nil_of_notMem hc]
      simp [entriesOf_of_notMem hds]
  case distinct => simp [hnodup]
  case last =>
    intro before x later hsplit c hc hlater
    obtain rfl := eq_of_singleton_eq_append hsplit
    have hc : c ∈ (envelopesOf levels rs).map Prod.fst := by
      apply (hcheckers c).mpr
      simpa [eq_comm] using hc
    apply Shown.after_of_nodup hnodup (hmem c hc)

end Announces

/-! ### Frames -/

/-- Changing the diagnostics of sorted groups, but not their checkers, keeps the groups sorted. -/
theorem Document.Groups.Sorts.map {checker : RawText} {ds : List Diagnostic} {gs : Groups}
    (h : gs.Sorts checker ds) {f : Diagnostic → Diagnostic} (hf : ∀ d, (f d).checker = d.checker) :
  Groups.Sorts checker (ds.map f) (gs.map fun g => (g.1, g.2.map f))
  where
  distinct := by simpa [checkers, Function.comp_def] using h.distinct
  mem_checkers := by simpa [checkers, Function.comp_def, hf] using h.mem_checkers
  group := by
    rw [List.forall_mem_map]
    intro g hg
    rw [List.filter_map]
    simp only [Function.comp_def, hf, h.group g hg]
  together := by
    rw [List.flatMap_map, ← List.map_flatMap]
    apply h.together.map

/-- With frames the missing frame of a diagnostic is built, and without it stays as it is. -/
def Diagnostic.FramedWhen (frames : Bool) (t : FileTree) (cwd : FilePlace) (d d' : Diagnostic) : Prop :=
  if frames then d.Framed t cwd (.ofRoot cwd) d' else d' = d

/-- Lists that are related item by item, by a relation that a function settles. -/
theorem eq_map_of_forall₂ {α β : Type} {R : α → β → Prop} {f : α → β} (hf : ∀ a b, R a b → f a = b)
    {as : List α} {bs : List β} (h : List.Forall₂ R as bs) :
  (∀ a ∈ as, R a (f a)) ∧ bs = as.map f
  := by
  induction h with
  | nil => simp
  | cons hab hrest ih =>
    obtain rfl := hf _ _ hab
    rw [List.forall_mem_cons, List.map_cons, ← ih.2]
    exact ⟨⟨hab, ih.1⟩, rfl⟩

/-- Building frames changes each diagnostic on its own, and not its checker. -/
theorem Input.exists_framing_of_attach {rs : List Report} {o : Loaded}
    (h : attach t cwd (.reports rs) = .ok o) :
  ∃ f : Diagnostic → Diagnostic, (∀ d, (f d).checker = d.checker)
    ∧ (∀ r ∈ rs, ∀ d ∈ r.diagnostics, d.Framed t cwd (.ofRoot cwd) (f d))
    ∧ o.reportList = rs.map fun r => { r with diagnostics := r.diagnostics.map f }
  := by
  let f : Diagnostic → Diagnostic := fun d => ((t.attachAlone cwd (.ofRoot cwd) d).toOption).getD d
  have hframed : ∀ d d' : Diagnostic, d.Framed t cwd (.ofRoot cwd) d' → f d = d' := by
    intro d d' hd
    simp [f, hd.attachAlone_eq, Except.toOption]
  have hreport : ∀ r r' : Report, r.attachFrames t cwd (.ofRoot cwd) = .ok r' →
      (∀ d ∈ r.diagnostics, d.Framed t cwd (.ofRoot cwd) (f d))
        ∧ { r with diagnostics := r.diagnostics.map f } = r' := by
    intro r r' hr
    obtain ⟨ds, hds, rfl⟩ := Report.attachFrames_eq_ok_iff.mp hr
    obtain ⟨hall, rfl⟩ := eq_map_of_forall₂ hframed hds
    exact ⟨hall, rfl⟩
  obtain ⟨hall, hreports⟩ := eq_map_of_forall₂ (fun r r' hr => (hreport r r' hr).2) (eq_of_attach h).2
  use f
  and_intros
  · intro d
    cases hd : t.attachAlone cwd (.ofRoot cwd) d with
    | error fault => simp [f, hd, Except.toOption]
    | ok d' =>
      have hsame := (Diagnostic.attachAlone_eq_ok_iff.mp hd).sameButFrame.same
      simp only [f, hd, Except.toOption, Option.getD_some]
      rw [hsame]
  · intro r hr
    apply (hreport r _ (hall r hr)).1
  · apply hreports

/-- Loading an input with frames or without changes each diagnostic on its own, and not its checker. -/
theorem Input.exists_framing {rs : List Report} {o : Loaded}
    (h : (if frames then attach t cwd (.reports rs) else .ok (.reports rs)) = .ok o) :
  ∃ f : Diagnostic → Diagnostic, (∀ d, (f d).checker = d.checker)
    ∧ (∀ r ∈ rs, ∀ d ∈ r.diagnostics, d.FramedWhen frames t cwd (f d))
    ∧ o.reportList = rs.map fun r => { r with diagnostics := r.diagnostics.map f }
  := by
  cases frames with
  | false =>
    cases h
    use id
    simp [Diagnostic.FramedWhen, Loaded.reportList]
  | true => apply exists_framing_of_attach h

/-! ### Inputs -/

namespace Input

/-- What an input contributes, standard input holding `stdin`. -/
inductive Lists (t : FileTree) (cwd : FilePlace) (frames : Bool) (stdin : List UInt8) (i : Input) :
    Listing → Prop
  /-- Its text is a document whose entries give the diagnostics, with their frames when these are built. -/
  | document {text : String} {doc : Document} {plain ds : List Diagnostic}
      (hread : i.read t cwd stdin = .ok text) (hdoc : Document.read i.defaultChecker text = .ok doc)
      (hentries : List.Forall₂ (Document.Gives doc.checker) doc.entries plain)
      (hframes : List.Forall₂ (Diagnostic.FramedWhen frames t cwd) plain ds) :
      Lists t cwd frames stdin i ⟨doc.checker :: ds.map Diagnostic.checker, ds⟩
  /-- It cannot be read, or is no document. -/
  | nothing {f : InputFault} (h : i.Becomes t cwd stdin (.failed f)) : Lists t cwd frames stdin i ⟨[], []⟩

/-- What the inputs with some names contribute. Standard input is used up by the first of them that
reads it. -/
inductive ListAll (t : FileTree) (cwd : FilePlace) (frames : Bool) :
    List UInt8 → List String → List Listing → Prop
  | nil {stdin : List UInt8} : ListAll t cwd frames stdin [] []
  | cons {stdin : List UInt8} {name : String} {names : List String} {x : Listing} {xs : List Listing}
      (h : (ofName name).Lists t cwd frames stdin x)
      (hrest : ListAll t cwd frames ((ofName name).left stdin) names xs) :
      ListAll t cwd frames stdin (name :: names) (x :: xs)

/-- The reports of an input that is loaded announce what it contributes. -/
theorem announces_of_load {stdin : List UInt8} {i : Input} {o : Loaded}
    (h : i.load t cwd frames stdin = .ok o) :
  ∃ x, i.Lists t cwd frames stdin x ∧ ∀ levels, Announces levels [x] (envelopesOf levels o.reportList)
  := by
  unfold load at h
  split at h
  · contradiction
  · next plain hparse =>
    have hbecomes := parse_eq_ok_iff.mp hparse
    cases plain with
    | failed f =>
      have ho : o.reportList = [] := by
        cases frames
        all_goals
          cases h
          rfl
      use ⟨[], []⟩, .nothing hbecomes
      intro levels
      rw [ho]
      apply Announces.of_nothing
    | reports rs =>
      obtain ⟨f, hchecker, hframed, ho⟩ := exists_framing h
      cases hbecomes with
      | decoded hread hreports =>
        obtain ⟨v, doc, ds, hv, hdoc, hentries, rfl⟩ := Document.exists_groups_of_reports hreports
        have hsorts := Document.Groups.sorts_ofDiagnostics doc.checker ds
        use ⟨doc.checker :: (ds.map f).map Diagnostic.checker, ds.map f⟩
        constructor
        · apply Lists.document hread (by simp [Document.read, hv, hdoc]) hentries
          rw [List.forall₂_map_right_iff, List.forall₂_same]
          intro d hd
          -- The diagnostic is in the group of its checker, and so in a report.
          obtain ⟨g, hg, hdg⟩ := List.mem_flatMap.mp (hsorts.together.mem_iff.mpr hd)
          apply hframed _ (List.mem_map_of_mem hg) d hdg
        · intro levels
          apply Announces.of_sorts (hsorts.map hchecker)
          rw [ho, List.map_map, List.map_map]
          rfl

/-- The reports of inputs that are loaded announce what the inputs contribute. -/
theorem announces_of_outcomes {stdin : List UInt8} {names : List String} {os : List Loaded}
    (h : outcomes t cwd frames stdin names = .ok os) :
  ∃ xs, ListAll t cwd frames stdin names xs
    ∧ ∀ levels, Announces levels xs (envelopesOf levels (os.flatMap Loaded.reportList))
  := by
  induction names generalizing stdin os with
  | nil =>
    cases h
    use [], .nil
    intro levels
    apply Announces.nil
  | cons name names ih =>
    obtain ⟨o, rest, ho, hrest, rfl⟩ := outcomes_cons_iff.mp h
    obtain ⟨x, hx, hone⟩ := announces_of_load ho
    obtain ⟨xs, hxs, hall⟩ := ih hrest
    use x :: xs, .cons hx hxs
    intro levels
    have happend := (hone levels).append (hall levels)
    rwa [envelopesOf, envelopesOf, ← List.map_append] at happend

end Input

end Diagnostics
