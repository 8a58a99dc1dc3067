import Diagnostics.Payload.Envelope
import Diagnostics.Proofs.Json.RoundTrip
import Mathlib.Data.List.Forall2

/-!
# The payload round trip

The JSON text of an envelope is read back as the envelope, with one object for each selected
diagnostic (`Payload.read_serialize_envelope`). An object tells what its diagnostic has and
leaves out what it has not, so that no null stands anywhere.
-/

namespace Diagnostics

namespace Payload

/-! ### What clients are told -/

/-- The members tell clients about the diagnostic: message, stack and checker always, and the rest
exactly when the diagnostic has it. -/
structure Tells (ms : Json.Members) (d : Diagnostic) : Prop where
  keys : (ms.map Prod.fst).Sublist ["message", "stack", "id", "frame", "checkerId", "level", "loc"]
  message : Members.get? ↑"message" ms = some (.text (d.message.getD ""))
  stack : Members.get? ↑"stack" ms = some (.text ((d.stack.map Stack.text).getD ""))
  id : Members.get? ↑"id" ms = d.id.map .text
  frame : Members.get? ↑"frame" ms = d.plainFrame.map .text
  checker : Members.get? ↑"checkerId" ms = some (.text d.checker)
  level : Members.get? ↑"level" ms = d.level.map fun l => .int l.number
  loc : Members.get? ↑"loc" ms = d.location.map fun l =>
    .object
      [("file", .text (d.id.getD "")),
       ("line", .int l.start.line),
       ("column", .int (l.start.column.getD 0))]

/-- The members of the entry of a diagnostic tell about it. -/
theorem tells_encode (d : Diagnostic) :
  Tells (Entry.ofDiagnostic d).encode d
  := by
  constructor
  case keys => apply Members.keys_present_sublist
  all_goals
    unfold Entry.encode
    rw [Members.get?_present (by simp)]
  case loc =>
    have hplace : (Entry.ofDiagnostic d).place.map Place.encode
        = d.location.map fun l => (Place.ofLocation d.id l).encode := Option.map_map ..
    apply hplace
  all_goals rfl

/-! ### Told values -/

/-- The value is made of texts, integers, lists, and objects that repeat no key. -/
inductive Told : Json.Value → Prop
  | text (s : RawText) : Told (.text s)
  | int (i : Int) : Told (.int i)
  | list {items : List Json.Value} : (∀ v ∈ items, Told v) → Told (.list items)
  | object {ms : Json.Members} : (ms.map Prod.fst).Nodup → (∀ m ∈ ms, Told m.2) → Told (.object ms)

namespace Told

/-- What stands in a told value is told. -/
theorem within {u v : Json.Value} (h : u.Within v) (hv : Told v) :
  Told u
  := by
  induction h with
  | self => apply hv
  | item hmem _ ih =>
    cases hv with
    | list hitems => apply ih (hitems _ hmem)
  | member hmem _ ih =>
    cases hv with
    | object _ hms => apply ih (hms _ hmem)

/-- A told value is regular. -/
theorem regular {v : Json.Value} (hv : Told v) :
  v.Regular
  where
  noFloat x hx := by cases hv.within hx
  distinct ms hms := by
    cases hv.within hms with
    | object hkeys _ => apply hkeys

/-- No null stands in a told value. -/
theorem not_within_null {v : Json.Value} (hv : Told v) :
  ¬ Value.null.Within v
  := by
  intro h
  cases hv.within h

end Told

/-- The value of a field that is always there is told when it is. -/
theorem told_some {v : Json.Value} (h : Told v) :
  ∀ u ∈ some v, Told u
  := by
  rintro u ⟨⟩
  exact h

/-- The value of a field that may be absent is told when all its values are. -/
theorem told_map {α : Type} {f : α → Json.Value} (h : ∀ a, Told (f a)) (o : Option α) :
  ∀ u ∈ o.map f, Told u
  := by
  intro u hu
  obtain ⟨a, -, rfl⟩ := Option.map_eq_some_iff.mp hu
  exact h a

/-- The fields that are present make a told object. -/
theorem told_present {fields : List (RawText × Option Json.Value)} (hkeys : (fields.map Prod.fst).Nodup)
    (hfields : ∀ f ∈ fields, ∀ v ∈ f.2, Told v) :
  Told (.object (Members.present fields))
  := by
  apply Told.object
  · exact (Members.keys_present_sublist fields).nodup hkeys
  · intro m hm
    exact hfields _ (Members.mem_present.mp hm) m.2 rfl

/-- A place is told. -/
theorem Place.told (p : Place) :
  Told p.encode
  := by
  apply Told.object
  · simp
  · simp only [List.forall_mem_cons]
    use .text _, .int _, .int _
    simp

/-- The members of an entry are told. -/
theorem Entry.told (e : Entry) :
  Told (.object e.encode)
  := by
  apply told_present
  · simp
  · simp only [List.forall_mem_cons]
    use told_some (.text _), told_some (.text _), told_map Told.text _, told_map Told.text _,
      told_some (.text _), told_map (fun l => .int _) _, told_map Place.told _
    simp

/-! ### Envelopes -/

/-- The envelope of one checker as a plain value, with an object for each of its diagnostics. -/
def plainEnvelope (checker : RawText) (entries : List Json.Members) : Json.Value :=
  .object
    [("event", .text "checkrelay:error"),
     ("data", .object
       [("checkerId", .text checker),
        ("diagnostics", .list (entries.map .object))])]

/-- The plain values of entries are objects of their members. -/
theorem normalItems_entries (entries : List Entry) :
  Tree.normalItems (entries.map .entry) = (entries.map Entry.encode).map .object
  := by
  induction entries with
  | nil => rfl
  | cons e entries ih => rw [List.map_cons, Tree.normalItems, ih]; rfl

/-- The plain value of an envelope. -/
theorem normal_wrap (checker : RawText) (entries : List Entry) :
  (wrap checker entries).normal = plainEnvelope checker (entries.map Entry.encode)
  := by
  simp only [wrap, Tree.normal, Tree.normalPairs, Tree.keyText, normalItems_entries]
  rw [Members.ofWritten_of_nodup (by simp), Members.ofWritten_of_nodup (by simp)]
  rfl

/-- An envelope of told objects is told. -/
theorem told_plainEnvelope (checker : RawText) {entries : List Json.Members}
    (h : ∀ ms ∈ entries, Told (.object ms)) :
  Told (plainEnvelope checker entries)
  := by
  have hlist : Told (.list (entries.map .object)) := by
    apply Told.list
    intro v hv
    obtain ⟨ms, hms, rfl⟩ := List.mem_map.mp hv
    apply h ms hms
  have hdata : Told (.object
      [("checkerId", .text checker), ("diagnostics", .list (entries.map .object))]) := by
    apply Told.object
    · simp
    · simp only [List.forall_mem_cons]
      use Told.text checker, hlist
      simp
  apply Told.object
  · simp
  · simp only [List.forall_mem_cons]
    use Told.text _, hdata
    simp

/-- The plain value of the envelope of some diagnostics is told. -/
theorem told_envelope (levels : List Level) (checker : RawText) (ds : List Diagnostic) :
  Told (plainEnvelope checker (((Diagnostic.select levels ds).map Entry.ofDiagnostic).map Entry.encode))
  := by
  apply told_plainEnvelope
  intro ms hms
  obtain ⟨e, -, rfl⟩ := List.mem_map.mp hms
  apply Entry.told

/-- The JSON text of an envelope, in any layout, is read back as the event, the checker, and one object
for each diagnostic whose level is wanted, in their order. Each object tells about its diagnostic, and no
null stands anywhere. -/
theorem read_serialize_envelope (layout : Json.Layout) (levels : List Level) (checker : RawText)
    (ds : List Diagnostic) :
  ∃ entries : List Json.Members,
    Json.read (serialize layout (envelope levels checker ds)) = .ok (plainEnvelope checker entries)
    ∧ List.Forall₂ Tells entries (ds.filter fun d => ∃ l ∈ levels, d.level = some l)
    ∧ ¬ Value.null.Within (plainEnvelope checker entries)
  := by
  have htold := told_envelope levels checker ds
  use ((Diagnostic.select levels ds).map Entry.ofDiagnostic).map Entry.encode
  and_intros
  · rw [serialize, envelope, normal_wrap]
    apply Json.read_print layout htold.regular
  · rw [← Diagnostic.select_eq_filter, List.map_map, List.forall₂_map_left_iff, List.forall₂_same]
    intro d _
    apply tells_encode
  · apply htold.not_within_null

end Payload

end Diagnostics
