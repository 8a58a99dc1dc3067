import Diagnostics.Diagnostic.Record
import Diagnostics.Proofs.Except
import Diagnostics.Proofs.Text.Raw

/-!
# Diagnostics written to documents and read back

A diagnostic with a checker is what decoding its encoding gives, without a notice
(`Diagnostic.decode_encode`). Whatever object a diagnostic was decoded from, the encoding
of the diagnostic is a canonical form of that object: it is decoded to the same diagnostic
without a checker to fall back on.
-/

namespace Diagnostics

/-! ### Positions and locations -/

/-- The object of a position gives the position. -/
theorem Position.decode?_encode (p : Position) :
  decode? p.encode = some p
  := by
  obtain ⟨line, _ | column⟩ := p <;> rfl

/-- The object of a location has members that give the location. -/
theorem Location.decode?_encode (l : Location) :
  ∃ members, l.encode = .object members ∧ decode? members = some l
  := by
  refine ⟨_, rfl, ?_⟩
  obtain ⟨start, _ | stop⟩ := l
  · simp [decode?, Members.present, Members.get?, List.lookup_cons, Position.decode?_encode]
  · simp [decode?, Members.present, Members.get?, List.lookup_cons, Position.decode?_encode]

/-! ### Stacks and levels -/

/-- Lines written as texts are read back. -/
theorem Stack.mapM_textOf? (ls : List RawText) :
  (ls.map Value.text).mapM textOf? = some ls
  := by
  induction ls with
  | nil => rfl
  | cons l ls ih => simp [List.mapM_cons, ih, textOf?]

/-- The member of a stack that may be absent gives the stack. -/
theorem Stack.decode_encode (o : Option Stack) :
  decode (o.map encode) = .ok o
  := by
  obtain _ | s | ls := o
  · rfl
  · rfl
  · simp only [Option.map_some, encode, decode, mapM_textOf?]

/-- The number of a level names it. -/
theorem Level.ofValue?_number {τ : Type} [Wording τ] (l : Level) :
  ofValue? (.int l.number : Value τ) = some l
  := by
  cases l <;> rfl

namespace Diagnostic

/-! ### The fields of a diagnostic -/

/-- The members of an encoding by their keys. -/
theorem get?_encode (d : Diagnostic) :
  Members.get? ↑"checker" d.encode = some (.text d.checker)
    ∧ Members.get? ↑"message" d.encode = d.message.map .text
    ∧ Members.get? ↑"conclusion" d.encode = d.conclusion.map .text
    ∧ Members.get? ↑"stack" d.encode = d.stack.map Stack.encode
    ∧ Members.get? ↑"id" d.encode = d.id.map .text
    ∧ Members.get? ↑"codeFrame" d.encode = d.codeFrame.map .text
    ∧ Members.get? ↑"stripedCodeFrame" d.encode = d.plainFrame.map .text
    ∧ Members.get? ↑"loc" d.encode = d.location.map Location.encode
    ∧ Members.get? ↑"level" d.encode = d.level.map fun l => .int l.number
  := by
  unfold encode
  and_intros <;> apply Members.get?_present (by simp)

/-- A member that is a text or absent gives that text or none. -/
theorem textField_of_get? {key : String} {members : Json.Members} {o : Option RawText}
    (h : Members.get? ↑key members = o.map .text) :
  textField key members = .ok o
  := by
  cases o <;> simp [textField, h]

/-- A member that is a location or absent gives that location or none. -/
theorem locationField_of_get? {members : Json.Members} {o : Option Location}
    (h : Members.get? ↑"loc" members = o.map Location.encode) :
  locationField members = .ok o
  := by
  cases o with
  | none => simp [locationField, h]
  | some l =>
    obtain ⟨loc, hencode, hdecode⟩ := Location.decode?_encode l
    simp [locationField, h, hencode, hdecode]

/-- A member that is the number of a level, or absent, gives that level or none, and is not one to
report. -/
theorem levelField_of_get? {members : Json.Members} {o : Option Level}
    (h : Members.get? ↑"level" members = o.map fun l => .int l.number) :
  levelField members = o ∧ unknownLevel? members = none
  := by
  cases o with
  | none => simp [levelField, unknownLevel?, h]
  | some l => simp [levelField, unknownLevel?, h, Level.ofValue?_number]

/-! ### Checkers -/

/-- The checker that an object names, or that it falls back on when it has no such member. -/
inductive NamesChecker (fallback : Option RawText) (members : Json.Members) (checker : RawText) : Prop
  | named (h : Members.get? ↑"checker" members = some (.text checker)) (hne : checker ≠ "")
  | fallenBack (h : Members.get? ↑"checker" members = none) (hfallback : fallback = some checker)
      (hne : checker ≠ "")

/-- The checker of an object is the one that it names or falls back on. -/
theorem checkerOf?_eq_some_iff {fallback : Option RawText} {members : Json.Members} {checker : RawText} :
  checkerOf? fallback members = some checker ↔ NamesChecker fallback members checker
  := by
  unfold checkerOf?
  constructor
  · intro h
    split at h
    · next s hs =>
      split at h
      · contradiction
      · next hne =>
        cases h
        apply NamesChecker.named hs hne
    · contradiction
    · next hnone =>
      obtain ⟨hfallback, hne⟩ := Option.filter_eq_some_iff.mp h
      apply NamesChecker.fallenBack hnone hfallback (by simpa using hne)
  · rintro (⟨h, hne⟩ | ⟨h, hfallback, hne⟩)
    · simp [h, hne]
    · simp [h, hfallback, hne]

/-- The checker that an object names or falls back on is not empty. -/
theorem NamesChecker.ne_empty {fallback : Option RawText} {members : Json.Members} {checker : RawText}
    (h : NamesChecker fallback members checker) :
  checker ≠ ""
  := by
  cases h with
  | named _ hne => exact hne
  | fallenBack _ _ hne => exact hne

/-! ### Decoding -/

/-- An object gives a diagnostic exactly when each of its members gives the field. -/
theorem decode_eq_ok_iff {fallback : Option RawText} {members : Json.Members} {d : Diagnostic} :
  decode fallback members = .ok d
    ↔ checkerOf? fallback members = some d.checker
      ∧ Stack.decode (Members.get? ↑"stack" members) = .ok d.stack
      ∧ textField "message" members = .ok d.message
      ∧ textField "conclusion" members = .ok d.conclusion
      ∧ textField "id" members = .ok d.id
      ∧ textField "codeFrame" members = .ok d.codeFrame
      ∧ textField "stripedCodeFrame" members = .ok d.plainFrame
      ∧ locationField members = .ok d.location
      ∧ levelField members = d.level
  := by
  unfold decode
  cases checkerOf? fallback members with
  | none => simp
  | some checker =>
    simp only [Except.bind_eq_ok_iff, pure, Except.pure, Except.ok.injEq]
    constructor
    · rintro ⟨stack, hstack, message, hmessage, conclusion, hconclusion, id, hid, codeFrame,
        hcodeFrame, plainFrame, hplainFrame, location, hlocation, rfl⟩
      and_intros <;> first | rfl | assumption
    · rintro ⟨hchecker, hstack, hmessage, hconclusion, hid, hcodeFrame, hplainFrame, hlocation, hlevel⟩
      use d.stack, hstack, d.message, hmessage, d.conclusion, hconclusion, d.id, hid, d.codeFrame,
        hcodeFrame, d.plainFrame, hplainFrame, d.location, hlocation
      rw [hlevel, Option.some.inj hchecker]

/-- An encoding is decoded to the diagnostic itself, whatever checker there is to fall back on. -/
theorem decode_encode {d : Diagnostic} (h : d.checker ≠ "") (fallback : Option RawText) :
  decode fallback d.encode = .ok d
  := by
  obtain ⟨hchecker, hmessage, hconclusion, hstack, hid, hcodeFrame, hplainFrame, hlocation, hlevel⟩ :=
    get?_encode d
  apply decode_eq_ok_iff.mpr
  and_intros
  · simp [checkerOf?, hchecker, h]
  · rw [hstack, Stack.decode_encode]
  · apply textField_of_get? hmessage
  · apply textField_of_get? hconclusion
  · apply textField_of_get? hid
  · apply textField_of_get? hcodeFrame
  · apply textField_of_get? hplainFrame
  · apply locationField_of_get? hlocation
  · apply (levelField_of_get? hlevel).1

/-- An encoding is decoded without a notice. -/
theorem notices_encode (d : Diagnostic) (fallback : Option RawText) :
  notices fallback d.encode = []
  := by
  obtain ⟨-, -, -, -, -, -, -, -, hlevel⟩ := get?_encode d
  rw [notices, (levelField_of_get? hlevel).2]
  cases checkerOf? fallback d.encode <;> cases Stack.decode (Members.get? ↑"stack" d.encode) <;> rfl

/-! ### The round trip -/

/-- A diagnostic with a checker is read back from what is written of it, and a diagnostic that was
decoded from any object, with any checker to fall back on, is read back without one. In neither case
is there a notice. -/
theorem wire_roundTrip :
  (∀ d : Diagnostic, d.checker ≠ "" → decode none d.encode = .ok d ∧ notices none d.encode = [])
    ∧ ∀ (fallback : Option RawText) (members : Json.Members) (d : Diagnostic),
      decode fallback members = .ok d → decode none d.encode = .ok d ∧ notices none d.encode = []
  := by
  constructor
  · intro d hd
    use decode_encode hd none, notices_encode d none
  · intro fallback members d h
    have hd := (checkerOf?_eq_some_iff.mp (decode_eq_ok_iff.mp h).1).ne_empty
    use decode_encode hd none, notices_encode d none

/-- The members of an object that spells its level as a name, gives its line as a truth value and has
parts that are dropped. -/
def loose : Json.Members :=
  [("message", .text ""), ("id", .null), ("stack", .list []), ("level", .text " Warning "),
    ("loc", .object [("start", .object [("line", .bool true), ("column", .text "x")]), ("end", .null)]),
    ("extra", .int 1)]

/-- Even such an object is brought into canonical form. -/
theorem wire_roundTrip_loose :
  ∃ d, decode (some "lint") loose = .ok d ∧ decode none d.encode = .ok d ∧ notices none d.encode = []
  := by
  refine ⟨{ checker := "lint", message := some "", stack := some (.lines []),
            location := some { start := { line := 1 } }, level := some .warning }, rfl, ?_⟩
  apply wire_roundTrip.2 (some "lint") loose
  rfl

end Diagnostic

end Diagnostics
