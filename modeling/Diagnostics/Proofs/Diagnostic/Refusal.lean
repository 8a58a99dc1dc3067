import Diagnostics.Proofs.Diagnostic.RoundTrip

/-!
# Objects that are no diagnostics

`Diagnostic.Fault` says for what reasons an object is no diagnostic: it has no checker, or one of its
members is of the wrong kind. An object is refused exactly when there is such a reason, and the error
is one of them (`Diagnostic.decode_refuses`). A location counts only when it is an object, and a truth
value in it passes for a line number. The level is never a reason; one that is not known is dropped
with a notice.
-/

namespace Diagnostics

/-! ### Stacks -/

/-- The values that are read as a stack or as none. -/
inductive Stack.IsWritten : Json.Value → Prop
  | null : IsWritten .null
  | whole (s : RawText) : IsWritten (.text s)
  | lines (ls : List RawText) : IsWritten (.list (ls.map .text))

/-- Items are the texts of some lines exactly when they are those lines as texts. -/
theorem Stack.mapM_textOf?_eq_some_iff {items : List Json.Value} {ls : List RawText} :
  items.mapM textOf? = some ls ↔ items = ls.map .text
  := by
  constructor
  · intro h
    induction items generalizing ls with
    | nil =>
      cases h
      rfl
    | cons v items ih =>
      rw [List.mapM_cons] at h
      obtain ⟨s, hs, hrest⟩ := Option.bind_eq_some_iff.mp h
      obtain ⟨rest, hitems, hlist⟩ := Option.bind_eq_some_iff.mp hrest
      cases hlist
      rw [ih hitems]
      cases v with
      | text t =>
        cases hs
        rfl
      | _ => contradiction
  · rintro rfl
    apply mapM_textOf?

/-- A value that is not written for a stack is an error. -/
theorem Stack.decode_some_cases (v : Json.Value) :
  (IsWritten v ∧ ∃ o, decode (some v) = .ok o) ∨ (¬ IsWritten v ∧ decode (some v) = .error (.badStack v))
  := by
  cases v with
  | null => exact .inl ⟨.null, none, rfl⟩
  | text s => exact .inl ⟨.whole s, some (.whole s), rfl⟩
  | list items =>
    rw [decode]
    cases hitems : items.mapM textOf? with
    | some ls =>
      obtain rfl := mapM_textOf?_eq_some_iff.mp hitems
      exact .inl ⟨.lines ls, some (.lines ls), rfl⟩
    | none =>
      right
      constructor
      · rintro ⟨⟩
        rw [mapM_textOf?] at hitems
        contradiction
      · rfl
  | _ =>
    right
    constructor
    · rintro ⟨⟩
    · rfl

/-- Reading a stack fails for a value that is not written for one. -/
theorem Stack.decode_eq_error_iff {o : Option Json.Value} {e : DecodeError} :
  decode o = .error e ↔ ∃ v, o = some v ∧ ¬ IsWritten v ∧ e = .badStack v
  := by
  cases o with
  | none => simp [decode]
  | some v =>
    obtain ⟨hv, o, ho⟩ | ⟨hv, hbad⟩ := decode_some_cases v
    · simp [ho, hv]
    · simp [hbad, hv, eq_comm]

/-! ### Texts and locations -/

/-- The values that are read as a text or as none. -/
inductive Value.IsTextOrNull : Json.Value → Prop
  | null : IsTextOrNull .null
  | text (s : RawText) : IsTextOrNull (.text s)

/-- The members of a location have a start with a line, which a truth value passes for. -/
inductive Location.HasStart (loc : Json.Members) : Prop
  | number {start : Json.Members} {line : Int} (hstart : Members.get? ↑"start" loc = some (.object start))
      (hline : Members.get? ↑"line" start = some (.int line)) : HasStart loc
  | truth {start : Json.Members} {line : Bool} (hstart : Members.get? ↑"start" loc = some (.object start))
      (hline : Members.get? ↑"line" start = some (.bool line)) : HasStart loc

/-- The members of a location give none exactly when they have no start with a line. -/
theorem Location.decode?_eq_none_iff {loc : Json.Members} :
  decode? loc = none ↔ ¬ HasStart loc
  := by
  rw [decode?, Option.map_eq_none_iff]
  constructor
  · rintro hnone (⟨hstart, hline⟩ | ⟨hstart, hline⟩)
    all_goals simp [hstart, hline, Position.decode?, Position.lineOf?] at hnone
  · intro h
    rw [Option.bind_eq_none_iff]
    intro v hstart
    cases v with
    | object start =>
      rw [Position.decode?, Option.map_eq_none_iff, Option.bind_eq_none_iff]
      intro line hline
      cases line with
      | int i => exact absurd (.number hstart hline) h
      | bool b => exact absurd (.truth hstart hline) h
      | _ => rfl
    | _ => rfl

namespace Diagnostic

/-- Reading a text fails for a member that is neither a text nor null. -/
theorem textField_eq_error_iff {key : String} {members : Json.Members} {e : DecodeError} :
  textField key members = .error e
    ↔ ∃ v, Members.get? ↑key members = some v ∧ ¬ v.IsTextOrNull ∧ e = .notText key v
  := by
  unfold textField
  cases Members.get? ↑key members with
  | none => simp
  | some v =>
    cases v with
    | null => simp [Value.IsTextOrNull.null]
    | text s => simp [Value.IsTextOrNull.text s]
    | _ =>
      have hv : ∀ v : Json.Value, v ≠ .null → (∀ s, v ≠ .text s) → ¬ v.IsTextOrNull := by
        rintro v hnull htext (_ | s)
        · apply hnull rfl
        · apply htext s rfl
      simp [hv, eq_comm]

/-- Reading the location fails for an object that has no start with a line. -/
theorem locationField_eq_error_iff {members : Json.Members} {e : DecodeError} :
  locationField members = .error e
    ↔ ∃ loc, Members.get? ↑"loc" members = some (.object loc) ∧ ¬ Location.HasStart loc ∧ e = .badLocation loc
  := by
  unfold locationField
  split
  · next loc hloc =>
    cases hdecode : Location.decode? loc with
    | none => simp [hloc, Location.decode?_eq_none_iff.mp hdecode, eq_comm]
    | some l =>
      have hstart : Location.HasStart loc := by
        by_contra h
        rw [Location.decode?_eq_none_iff.mpr h] at hdecode
        contradiction
      simp [hloc, hstart]
  · next hloc =>
    constructor
    · intro h
      contradiction
    · rintro ⟨loc, h, -⟩
      exact absurd h (hloc loc)

/-! ### Reasons to refuse an object -/

/-- The keys of the members that are texts. -/
def textKeys : List String :=
  ["message", "conclusion", "id", "codeFrame", "stripedCodeFrame"]

/-- The reasons to refuse an object, each as the error that tells it. -/
inductive Fault (fallback : Option RawText) (members : Json.Members) : DecodeError → Prop
  /-- No checker is named, and there is none to fall back on. -/
  | noChecker (h : ∀ checker, ¬ NamesChecker fallback members checker) :
      Fault fallback members (.noChecker members)
  /-- The stack is neither null, nor a text, nor a list of texts. -/
  | badStack {v : Json.Value} (h : Members.get? ↑"stack" members = some v) (hv : ¬ Stack.IsWritten v) :
      Fault fallback members (.badStack v)
  /-- A text is neither null nor a text. -/
  | notText {key : String} {v : Json.Value} (hkey : key ∈ textKeys) (h : Members.get? ↑key members = some v)
      (hv : ¬ v.IsTextOrNull) : Fault fallback members (.notText key v)
  /-- The location is an object that has no start with a line. -/
  | badLocation {loc : Json.Members} (h : Members.get? ↑"loc" members = some (.object loc))
      (hstart : ¬ Location.HasStart loc) : Fault fallback members (.badLocation loc)

/-- The error of an object is a reason to refuse it. -/
theorem fault_of_decode {fallback : Option RawText} {members : Json.Members} {e : DecodeError}
    (h : decode fallback members = .error e) :
  Fault fallback members e
  := by
  have hstack : ∀ e, Stack.decode (Members.get? ↑"stack" members) = .error e → Fault fallback members e := by
    intro e he
    obtain ⟨v, hv, hbad, rfl⟩ := Stack.decode_eq_error_iff.mp he
    apply Fault.badStack hv hbad
  have htext : ∀ key ∈ textKeys, ∀ e, textField key members = .error e → Fault fallback members e := by
    intro key hkey e he
    obtain ⟨v, hv, hbad, rfl⟩ := textField_eq_error_iff.mp he
    apply Fault.notText hkey hv hbad
  have hlocation : ∀ e, locationField members = .error e → Fault fallback members e := by
    intro e he
    obtain ⟨loc, hloc, hstart, rfl⟩ := locationField_eq_error_iff.mp he
    apply Fault.badLocation hloc hstart
  unfold decode at h
  split at h
  · next hnone =>
    cases h
    apply Fault.noChecker
    intro checker hchecker
    rw [checkerOf?_eq_some_iff.mpr hchecker] at hnone
    contradiction
  · -- The members are read one after the other, and the first that fails gives the error.
    simp only [Except.bind_eq_error_iff, pure, Except.pure, reduceCtorEq, and_false, exists_false, or_false] at h
    obtain h | ⟨-, -, h | ⟨-, -, h | ⟨-, -, h | ⟨-, -, h | ⟨-, -, h | ⟨-, -, h⟩⟩⟩⟩⟩⟩ := h
    · apply hstack e h
    · apply htext "message" (by simp [textKeys]) e h
    · apply htext "conclusion" (by simp [textKeys]) e h
    · apply htext "id" (by simp [textKeys]) e h
    · apply htext "codeFrame" (by simp [textKeys]) e h
    · apply htext "stripedCodeFrame" (by simp [textKeys]) e h
    · apply hlocation e h

/-- An object that gives a diagnostic has no reason to be refused. -/
theorem not_fault_of_decode {fallback : Option RawText} {members : Json.Members} {d : Diagnostic}
    (h : decode fallback members = .ok d) (e : DecodeError) :
  ¬ Fault fallback members e
  := by
  obtain ⟨hchecker, hstack, hmessage, hconclusion, hid, hcodeFrame, hplainFrame, hlocation, -⟩ :=
    decode_eq_ok_iff.mp h
  intro hfault
  cases hfault with
  | noChecker hnone => apply hnone d.checker (checkerOf?_eq_some_iff.mp hchecker)
  | badStack hv hbad => simp [Stack.decode_eq_error_iff.mpr ⟨_, hv, hbad, rfl⟩] at hstack
  | notText hkey hv hbad =>
    have herror := textField_eq_error_iff.mpr ⟨_, hv, hbad, rfl⟩
    have hread : ∀ key ∈ textKeys, ∃ o, textField key members = .ok o := by
      simp [textKeys, hmessage, hconclusion, hid, hcodeFrame, hplainFrame]
    obtain ⟨o, ho⟩ := hread _ hkey
    simp [herror] at ho
  | badLocation hloc hstart => simp [locationField_eq_error_iff.mpr ⟨_, hloc, hstart, rfl⟩] at hlocation

/-! ### Levels -/

/-- The level of an object is a value that is neither null nor a level. -/
def UnknownLevel (members : Json.Members) (v : Json.Value) : Prop :=
  Members.get? ↑"level" members = some v ∧ v ≠ .null ∧ Level.ofValue? v = none

/-- The level that is to be reported is the one that is not known. -/
theorem unknownLevel?_eq_some_iff {members : Json.Members} {v : Json.Value} :
  unknownLevel? members = some v ↔ UnknownLevel members v
  := by
  unfold unknownLevel? UnknownLevel
  split
  · next h => simp [h]
  · next h =>
    rw [h]
    constructor
    · intro hnone
      contradiction
    · rintro ⟨hv, hnull, -⟩
      exact absurd (Option.some.inj hv).symm hnull
  · next w hnull h =>
    rw [h, Option.ite_none_left_eq_some, Option.not_isSome_iff_eq_none]
    simp only [Option.some.injEq]
    constructor
    · rintro ⟨hnone, rfl⟩
      exact ⟨rfl, hnull, hnone⟩
    · rintro ⟨rfl, -, hnone⟩
      exact ⟨hnone, rfl⟩

/-- Changing the level of an object changes the level of the diagnostic and nothing else. -/
theorem decode_of_sameButLevel {fallback : Option RawText} {members members' : Json.Members} {d : Diagnostic}
    (h : decode fallback members = .ok d)
    (hsame : ∀ key : RawText, key ≠ "level" → Members.get? key members' = Members.get? key members) :
  decode fallback members' = .ok { d with level := levelField members' }
  := by
  have hchecker : checkerOf? fallback members' = checkerOf? fallback members := by
    rw [checkerOf?, checkerOf?, hsame _ (by decide)]
  have hlocation : locationField members' = locationField members := by
    rw [locationField, locationField, hsame _ (by decide)]
  have htext : ∀ key : String, key ≠ "level" → textField key members' = textField key members := by
    intro key hkey
    rw [textField, textField, hsame key (by simpa using hkey)]
  rw [decode_eq_ok_iff] at h ⊢
  rw [hchecker, hlocation, hsame "stack" (by decide), htext "message" (by decide),
    htext "conclusion" (by decide), htext "id" (by decide), htext "codeFrame" (by decide),
    htext "stripedCodeFrame" (by decide)]
  simp only [h, and_self]

/-- An object that gives a diagnostic is reported for its level alone. -/
theorem notices_of_decode {fallback : Option RawText} {members : Json.Members} {d : Diagnostic}
    (h : decode fallback members = .ok d) :
  notices fallback members = (unknownLevel? members).toList.map fun v =>
    ⟨Log.warning, "Ignoring unknown level " ++ v.literal ++ " for checker " ++ d.checker⟩
  := by
  obtain ⟨hchecker, hstack, -⟩ := decode_eq_ok_iff.mp h
  rw [notices, hchecker, hstack]
  cases unknownLevel? members <;> rfl

/-! ### Refusal -/

/-- An object is refused exactly when there is a reason to, and the error is such a reason. The level is
none: with another level an object gives the same diagnostic with that level, and one that is not known
is left out and reported once, and nothing else is. -/
theorem decode_refuses (fallback : Option RawText) (members : Json.Members) :
  ((∃ e, decode fallback members = .error e) ↔ ∃ e, Fault fallback members e)
    ∧ (∀ e, decode fallback members = .error e → Fault fallback members e)
    ∧ ∀ d, decode fallback members = .ok d →
      (∀ members', (∀ key : RawText, key ≠ "level" → Members.get? key members' = Members.get? key members) →
        decode fallback members' = .ok { d with level := levelField members' })
      ∧ (∀ v, UnknownLevel members v → d.level = none ∧ notices fallback members =
        [⟨Log.warning, "Ignoring unknown level " ++ v.literal ++ " for checker " ++ d.checker⟩])
      ∧ ((∀ v, ¬ UnknownLevel members v) → notices fallback members = [])
  := by
  and_intros
  · constructor
    · rintro ⟨e, he⟩
      use e, fault_of_decode he
    · rintro ⟨e, he⟩
      cases hdecode : decode fallback members with
      | error e' => use e'
      | ok d => exact absurd he (not_fault_of_decode hdecode e)
  · intro e
    apply fault_of_decode
  · intro d hd
    and_intros
    · intro members'
      apply decode_of_sameButLevel hd
    · intro v hv
      constructor
      · rw [← (decode_eq_ok_iff.mp hd).2.2.2.2.2.2.2.2, levelField, hv.1]
        apply hv.2.2
      · rw [notices_of_decode hd, unknownLevel?_eq_some_iff.mpr hv]
        rfl
    · intro hknown
      have hnone : unknownLevel? members = none := by
        rw [Option.eq_none_iff_forall_ne_some]
        intro v hv
        apply hknown v (unknownLevel?_eq_some_iff.mp hv)
      rw [notices_of_decode hd, hnone]
      rfl

/-- The members of an object with a level that is not known and a location that is no object. -/
def vague : Json.Members :=
  [("level", .text "fatal"), ("loc", .text "nowhere")]

/-- The object is refused without a checker, and gives a diagnostic with one, whatever its level is. -/
theorem decode_refuses_vague :
  (∃ e, decode none vague = .error e)
    ∧ decode (some "lint") vague = .ok { checker := "lint" }
    ∧ UnknownLevel vague (.text "fatal")
    ∧ notices (some "lint") vague = [⟨Log.warning, "Ignoring unknown level 'fatal' for checker lint"⟩]
    ∧ decode (some "lint") (("level", .int 0) :: vague) = .ok { checker := "lint", level := some .warning }
  := by
  have hnone : ∀ checker, ¬ NamesChecker none vague checker := by
    rintro checker (⟨h, -⟩ | ⟨-, h, -⟩)
    · contradiction
    · contradiction
  have hdecode : decode (some "lint") vague = .ok { checker := "lint" } := rfl
  have hlevel : UnknownLevel vague (.text "fatal") := ⟨rfl, by simp, by decide⟩
  obtain ⟨hrefused, -⟩ := decode_refuses none vague
  obtain ⟨-, -, hgives⟩ := decode_refuses (some "lint") vague
  obtain ⟨hother, hunknown, -⟩ := hgives _ hdecode
  have hsame : ∀ key : RawText, key ≠ "level" →
      Members.get? key (("level", .int 0) :: vague) = Members.get? key vague := by
    intro key hkey
    have hbeq : (key == RawText.ofString "level") = false := by simpa using hkey
    simp [Members.get?, vague, List.lookup_cons, hbeq]
  have hwarning := hother _ hsame
  refine ⟨hrefused.mpr ⟨_, .noChecker hnone⟩, hdecode, hlevel, ?_, hwarning⟩
  rw [(hunknown _ hlevel).2]
  decide

/-- A location that is a text is left out, and a truth value passes for the number of its line. -/
theorem decode_tolerates_locations :
  decode none [("checker", .text "lint"), ("loc", .text "nowhere")] = .ok { checker := "lint" }
    ∧ decode none [("checker", .text "lint"), ("loc", .object [("start", .object [("line", .bool true)])])]
      = .ok { checker := "lint", location := some ⟨⟨1, none⟩, none⟩ }
  := by
  constructor
  · rfl
  · rfl

end Diagnostic

end Diagnostics
