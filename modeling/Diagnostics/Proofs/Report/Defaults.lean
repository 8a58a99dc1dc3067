import Diagnostics.Proofs.Diagnostic.Refusal
import Diagnostics.Report.Document
import Mathlib.Tactic.Common

/-!
# Ways to name the default checker

Entries that name no checker get one from the caller or from the header of their document, or it is
written into them. `Document.Poses` says which documents pose the same entries under the same default
checker, `Document.Completed` which entries differ by nothing but that checker. All these documents have
the same reports and notices, or fail with the same error (`Document.reports_of_poses`).
-/

namespace Diagnostics

/-! ### A further member -/

section

variable {τ : Type} [DecidableEq τ]

/-- A member with another key changes nothing for a key. -/
theorem Members.get?_append_cons_of_ne {key added : τ} (h : key ≠ added) (v : Value τ)
    (before after : Members τ) :
  get? key (before ++ (added, v) :: after) = get? key (before ++ after)
  := by
  have hbeq : (key == added) = false := by simpa using h
  rw [get?, get?, List.lookup_append, List.lookup_append, List.lookup_cons, hbeq]

/-- A member with a new key is found wherever it stands. -/
theorem Members.get?_append_cons_self {key : τ} {before after : Members τ}
    (h : get? key (before ++ after) = none) (v : Value τ) :
  get? key (before ++ (key, v) :: after) = some v
  := by
  rw [get?, List.lookup_append] at h
  rw [get?, List.lookup_append, (Option.or_eq_none_iff.mp h).1, List.lookup_cons_self, Option.none_or]

end

/-! ### Entries -/

/-- Objects with the same checker that agree in all other members give the same diagnostic or the same
error, with the same notices. -/
theorem Diagnostic.decode_of_sameButChecker {fallback : Option RawText} {members members' : Json.Members}
    {checker : RawText} (h : NamesChecker fallback members checker) (h' : NamesChecker fallback members' checker)
    (hsame : ∀ key : RawText, key ≠ "checker" → Members.get? key members' = Members.get? key members) :
  decode fallback members' = decode fallback members ∧ notices fallback members' = notices fallback members
  := by
  rw [← checkerOf?_eq_some_iff] at h h'
  simp (disch := decide) only [decode, notices, unknownLevel?, textField, locationField, levelField, h, h', hsame,
    and_self]

namespace Document

/-- The second entry is the first, or the first with the checker added where it names none. -/
inductive Completed (checker : RawText) : Json.Value → Json.Value → Prop
  | same (v : Json.Value) : Completed checker v v
  | named (before after : Json.Members) (h : Members.get? ↑"checker" (before ++ after) = none) :
      Completed checker (.object (before ++ after)) (.object (before ++ (↑"checker", .text checker) :: after))

/-- Writing the default checker into an entry changes nothing. -/
theorem Completed.decodeEntry_eq {checker : RawText} {v v' : Json.Value} (h : Completed checker v v')
    (hne : checker ≠ "") (index : Nat) :
  decodeEntry checker index v' = decodeEntry checker index v ∧ entryNotices checker v' = entryNotices checker v
  := by
  cases h with
  | same => exact ⟨rfl, rfl⟩
  | named before after h =>
    obtain ⟨hdecode, hnotices⟩ := Diagnostic.decode_of_sameButChecker (.fallenBack h rfl hne)
      (.named (Members.get?_append_cons_self h _) hne)
      (fun key hkey => Members.get?_append_cons_of_ne hkey (.text checker) before after)
    rw [decodeEntry, decodeEntry, entryNotices, entryNotices, hdecode, hnotices]
    exact ⟨rfl, rfl⟩

/-- Writing the default checker into any of the entries changes nothing. -/
theorem decodeEntries_completed {checker : RawText} {entries entries' : List Json.Value}
    (h : List.Forall₂ (Completed checker) entries entries') (hne : checker ≠ "") (index : Nat) :
  decodeEntries checker index entries' = decodeEntries checker index entries
    ∧ noticesFrom checker index entries' = noticesFrom checker index entries
  := by
  induction h generalizing index with
  | nil => exact ⟨rfl, rfl⟩
  | cons hentry hrest ih =>
    obtain ⟨hdecode, hnotices⟩ := hentry.decodeEntry_eq hne index
    obtain ⟨hdecodes, hnoticesFrom⟩ := ih (index + 1)
    rw [decodeEntries, decodeEntries, noticesFrom, noticesFrom, hdecode, hdecodes, hnotices, hnoticesFrom]
    exact ⟨rfl, rfl⟩

/-! ### Documents -/

/-- A value that is a document with some entries, for which a checker is the default one and which has
no display name; the caller gives the first text as the default checker. -/
inductive Poses (checker : RawText) (entries : List Json.Value) : RawText → Json.Value → Prop
  /-- The list of the entries; the caller names the checker. -/
  | list : Poses checker entries checker (.list entries)
  /-- An object that names no checker; the caller does. -/
  | unnamed {members : Json.Members} (hchecker : Members.get? ↑"checker" members = none)
      (hname : displayNameOf? (Members.get? ↑"name" members) = none)
      (hentries : Members.get? ↑"diagnostics" members = some (.list entries)) :
      Poses checker entries checker (.object members)
  /-- An object that names the checker; the caller may name any. -/
  | named {default : RawText} {members : Json.Members} (hchecker : Members.get? ↑"checker" members = some (.text checker))
      (hname : displayNameOf? (Members.get? ↑"name" members) = none)
      (hentries : Members.get? ↑"diagnostics" members = some (.list entries)) :
      Poses checker entries default (.object members)

/-- Such a value is the document with these entries and this checker. -/
theorem Poses.ofValue_eq {checker default : RawText} {entries : List Json.Value} {v : Json.Value}
    (h : Poses checker entries default v) (hne : checker ≠ "") :
  ofValue default v = .ok { checker, displayName := none, entries }
  := by
  cases h with
  | list => rfl
  | unnamed hchecker hname hentries => simp [ofValue, checkerOf, hchecker, hname, hentries, hne]
  | named hchecker hname hentries => simp [ofValue, checkerOf, hchecker, hname, hentries, hne]

/-- Texts that pose the same entries under the same default checker, which may be written into any of
the entries, have the same reports or the same error, with the same notices. -/
theorem reports_of_poses {checker default default' : RawText} {text text' : String}
    {entries entries' : List Json.Value} {v v' : Json.Value} (hne : checker ≠ "")
    (hcompleted : List.Forall₂ (Completed checker) entries entries')
    (hread : Json.read text = .ok v) (hread' : Json.read text' = .ok v')
    (hposes : Poses checker entries default v) (hposes' : Poses checker entries' default' v') :
  reports default' text' = reports default text ∧ notices default' text' = notices default text
  := by
  obtain ⟨hdecode, hnotices⟩ := decodeEntries_completed hcompleted hne 0
  simp only [reports, notices, read, hread, hread', hposes.ofValue_eq hne, hposes'.ofValue_eq hne, toReports,
    hdecode, hnotices]
  exact ⟨rfl, trivial⟩

/-- A list whose first entry names no checker. -/
def bareList : String :=
  "[\x7b\"id\":\"a\"\x7d,\x7b\"checker\":\"types\"\x7d]"

/-- An object with the same entries that names a checker, which the first entry names, too. -/
def headedList : String :=
  "\x7b\"checker\":\"lint\",\"diagnostics\":[\x7b\"id\":\"a\",\"checker\":\"lint\"\x7d,"
    ++ "\x7b\"checker\":\"types\"\x7d]\x7d"

/-- The list has the reports of the object when the caller names the checker that the object names. -/
theorem reports_headedList :
  ∃ (entries entries' : List Json.Value) (v v' : Json.Value), List.Forall₂ (Completed "lint") entries entries'
    ∧ Json.read bareList = .ok v ∧ Json.read headedList = .ok v'
    ∧ Poses "lint" entries "lint" v ∧ Poses "lint" entries' "stdin" v'
    ∧ reports "stdin" headedList = reports "lint" bareList
  := by
  have hread : Json.read bareList
      = .ok (.list [.object [("id", .text "a")], .object [("checker", .text "types")]]) := by
    decide +kernel
  have hread' : Json.read headedList
      = .ok (.object [("checker", .text "lint"),
          ("diagnostics", .list [.object [("id", .text "a"), ("checker", .text "lint")],
            .object [("checker", .text "types")]])]) := by
    decide +kernel
  have hcompleted : List.Forall₂ (Completed "lint")
      [.object [("id", .text "a")], .object [("checker", .text "types")]]
      [.object [("id", .text "a"), ("checker", .text "lint")], .object [("checker", .text "types")]] :=
    .cons (.named [("id", .text "a")] [] rfl) (.cons (.same _) .nil)
  refine ⟨_, _, _, _, hcompleted, hread, hread', .list, .named rfl rfl rfl, ?_⟩
  apply (reports_of_poses (by decide) hcompleted hread hread' .list (.named rfl rfl rfl)).1

end Document

end Diagnostics
