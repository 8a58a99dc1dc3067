import Diagnostics.Decimal.Shortest
import Diagnostics.Text.Raw

/-!
# Values

`Value` is the data that documents and configuration tables are made of: null,
booleans, integers of any size, double-precision numbers, texts, lists, and objects
whose members keep the order in which they were written. The texts of documents are raw
(`Json.Value`), those of configuration tables are not (`Toml.Value`). `Value.literal`
shows a value on one line, as error messages quote it.
-/

namespace Diagnostics

open Decimal Text

/-- A value with texts of a kind. -/
inductive Value (τ : Type)
  | null
  | bool (b : Bool)
  | int (i : Int)
  | float (x : Binary64)
  | text (s : τ)
  | list (items : List (Value τ))
  | object (members : List (τ × Value τ))

/-- The members of an object in the order of their first writing, each key once. -/
abbrev Members (τ : Type) := List (τ × Value τ)

/-- A value of a document. -/
abbrev Json.Value := Diagnostics.Value RawText

/-- The members of an object of a document. -/
abbrev Json.Members := Diagnostics.Members RawText

/-- A value of a configuration table. -/
abbrev Toml.Value := Diagnostics.Value String

/-- The members of a configuration table. -/
abbrev Toml.Members := Diagnostics.Members String

variable {τ : Type}

namespace Members

/-- The fields that have a value, in their order. -/
def present (fields : List (τ × Option (Value τ))) : Members τ :=
  fields.filterMap fun f => f.2.map fun v => (f.1, v)

/-- A member is present exactly when its field has its value. -/
theorem mem_present {fields : List (τ × Option (Value τ))} {m : τ × Value τ} :
  m ∈ present fields ↔ (m.1, some m.2) ∈ fields
  := by
  obtain ⟨key, v⟩ := m
  simp only [present, List.mem_filterMap, Option.map_eq_some_iff, Prod.mk.injEq]
  constructor
  · rintro ⟨⟨name, o⟩, hmem, w, rfl, rfl, rfl⟩
    apply hmem
  · intro hmem
    exact ⟨(key, some v), hmem, v, rfl, rfl, rfl⟩

/-- The keys that are present stand in the order of the fields. -/
theorem keys_present_sublist (fields : List (τ × Option (Value τ))) :
  ((present fields).map Prod.fst).Sublist (fields.map Prod.fst)
  := by
  induction fields with
  | nil => apply List.Sublist.refl
  | cons f fields ih =>
    obtain ⟨name, _ | v⟩ := f
    · apply List.Sublist.cons name ih
    · apply List.Sublist.cons_cons name ih

variable [DecidableEq τ]

/-- Gives `key` the value `v`: at its place if it has one, and behind all others otherwise. -/
def set (key : τ) (v : Value τ) : Members τ → Members τ
  | [] => [(key, v)]
  | m :: ms => if m.1 = key then (key, v) :: ms else m :: set key v ms

/-- Writes the members one after the other, a later value for a key replacing the earlier. -/
def ofWritten (written : Members τ) : Members τ :=
  written.foldl (fun ms m => ms.set m.1 m.2) []

/-- The value of a key. -/
def get? (key : τ) (ms : Members τ) : Option (Value τ) :=
  ms.lookup key

/-- A key has no value exactly when it is not among the keys. -/
theorem get?_eq_none_iff {key : τ} {ms : Members τ} :
  get? key ms = none ↔ key ∉ ms.map Prod.fst
  := by
  simp only [get?, List.lookup_eq_none_iff, List.mem_map, not_exists, not_and]
  constructor
  · intro h m hm hkey
    simpa [hkey] using h m hm
  · intro h m hm
    simpa using fun hkey => h m hm hkey.symm

/-- When no key is repeated, the value of a key is that of its field. -/
theorem get?_present {fields : List (τ × Option (Value τ))} (h : (fields.map Prod.fst).Nodup)
    (key : τ) :
  get? key (present fields) = (fields.lookup key).join
  := by
  induction fields with
  | nil => rfl
  | cons f fields ih =>
    obtain ⟨name, o⟩ := f
    obtain ⟨hname, hfields⟩ := List.nodup_cons.mp h
    have ih' := ih hfields
    by_cases hkey : key = name
    · subst hkey
      rw [List.lookup_cons_self]
      cases o with
      | some v => simp [present, get?]
      | none =>
        -- No later field has the key, and so no member that is present has it.
        apply get?_eq_none_iff.mpr
        intro hmem
        apply hname ((keys_present_sublist fields).subset hmem)
    · have hbeq : (key == name) = false := by simpa using hkey
      cases o with
      | some v => simpa [present, get?, List.lookup_cons, hbeq] using ih'
      | none => simpa [present, get?, List.lookup_cons, hbeq] using ih'

/-- A member with a new key is written behind the others. -/
theorem set_of_notMem {key : τ} {ms : Members τ} (h : key ∉ ms.map Prod.fst) (v : Value τ) :
  set key v ms = ms ++ [(key, v)]
  := by
  induction ms with
  | nil => rfl
  | cons m ms ih =>
    obtain ⟨hm, hms⟩ := not_or.mp (fun hmem => h (List.mem_cons.mpr hmem))
    rw [set, if_neg (Ne.symm hm), ih hms]
    rfl

/-- Members without a repeated key are written down as they are. -/
theorem ofWritten_of_nodup {ms : Members τ} (h : (ms.map Prod.fst).Nodup) :
  ofWritten ms = ms
  := by
  have hfold : ∀ rest before : Members τ, ((before ++ rest).map Prod.fst).Nodup →
      rest.foldl (fun ms m => ms.set m.1 m.2) before = before ++ rest := by
    intro rest
    induction rest with
    | nil => simp
    | cons m rest ih =>
      intro before hbefore
      have hm : m.1 ∉ before.map Prod.fst := by
        rw [List.map_append, List.nodup_append] at hbefore
        intro hmem
        apply hbefore.2.2 _ hmem _ (List.mem_cons_self ..) rfl
      rw [List.foldl_cons, set_of_notMem hm, ih, List.append_assoc]
      · rfl
      · simpa using hbefore
  apply hfold ms [] h

end Members

namespace Value

/-- The kind of a value, as messages about a wrong kind name it. -/
def kindName : Value τ → String
  | .null => "NoneType"
  | .bool _ => "bool"
  | .int _ => "int"
  | .float _ => "float"
  | .text _ => "str"
  | .list _ => "list"
  | .object _ => "dict"

/-- The value is an object. -/
def isObject : Value τ → Bool
  | .object _ => true
  | _ => false

/-- The literal of a double. -/
def floatLiteral (x : Binary64) : List Char :=
  x.chars ['i', 'n', 'f'] ['n', 'a', 'n']

section Literals

variable [Wording τ]

mutual

/-- The characters of `literal`. -/
def literalChars : Value τ → List Char
  | .null => "None".toList
  | .bool true => "True".toList
  | .bool false => "False".toList
  | .int i => numeralChars i
  | .float x => floatLiteral x
  | .text s => Wording.quotedChars s
  | .list items => '[' :: join [',', ' '] (itemLiterals items) ++ [']']
  | .object members => '{' :: join [',', ' '] (memberLiterals members) ++ ['}']

/-- The literals of the items of a list. -/
def itemLiterals : List (Value τ) → List (List Char)
  | [] => []
  | v :: vs => literalChars v :: itemLiterals vs

/-- The literals of the members of an object. -/
def memberLiterals : List (τ × Value τ) → List (List Char)
  | [] => []
  | (key, v) :: ms => (Wording.quotedChars key ++ ':' :: ' ' :: literalChars v) :: memberLiterals ms

end

/-- The value on one line, texts between quotes. -/
def literal (v : Value τ) : String :=
  String.ofList v.literalChars

end Literals

mutual

/-- An integer within the value has too many digits, so that the value has no literal after all. -/
def isOverlong : Value τ → Bool
  | .int i => Decimal.isOverlong i
  | .list items => someOverlong items
  | .object members => someMemberOverlong members
  | _ => false

/-- Some value of the list is overlong. -/
def someOverlong : List (Value τ) → Bool
  | [] => false
  | v :: vs => isOverlong v || someOverlong vs

/-- The value of some member is overlong. -/
def someMemberOverlong : List (τ × Value τ) → Bool
  | [] => false
  | (_, v) :: ms => isOverlong v || someMemberOverlong ms

end

section Equality

variable [DecidableEq τ]

mutual

/-- The two values are the same. -/
def isSame : Value τ → Value τ → Bool
  | .null, .null => true
  | .bool b, .bool c => b == c
  | .int i, .int j => i == j
  | .float x, .float y => x == y
  | .text s, .text t => s == t
  | .list vs, .list ws => areSame vs ws
  | .object ms, .object ns => areSameMembers ms ns
  | _, _ => false

/-- The values of two lists are the same, one by one. -/
def areSame : List (Value τ) → List (Value τ) → Bool
  | [], [] => true
  | v :: vs, w :: ws => isSame v w && areSame vs ws
  | _, _ => false

/-- The members of two objects are the same, one by one. -/
def areSameMembers : List (τ × Value τ) → List (τ × Value τ) → Bool
  | [], [] => true
  | (key, v) :: ms, (key', w) :: ns => key == key' && isSame v w && areSameMembers ms ns
  | _, _ => false

end

mutual

/-- Values that are the same are equal. -/
theorem isSame_iff (v w : Value τ) :
  isSame v w = true ↔ v = w
  := by
  match v with
  | .null | .bool _ | .int _ | .float _ | .text _ => cases w <;> simp [isSame]
  | .list vs =>
    cases w with
    | list ws => simpa [isSame] using areSame_iff vs ws
    | _ => simp [isSame]
  | .object ms =>
    cases w with
    | object ns => simpa [isSame] using areSameMembers_iff ms ns
    | _ => simp [isSame]

/-- Lists of the same values are equal. -/
theorem areSame_iff (vs ws : List (Value τ)) :
  areSame vs ws = true ↔ vs = ws
  := by
  match vs, ws with
  | [], [] | [], _ :: _ | _ :: _, [] => simp [areSame]
  | v :: vs, w :: ws => simp [areSame, isSame_iff v w, areSame_iff vs ws]

/-- Lists of the same members are equal. -/
theorem areSameMembers_iff (ms ns : List (τ × Value τ)) :
  areSameMembers ms ns = true ↔ ms = ns
  := by
  match ms, ns with
  | [], [] | [], _ :: _ | _ :: _, [] => simp [areSameMembers]
  | (key, v) :: ms, (key', w) :: ns =>
    simp [areSameMembers, isSame_iff v w, areSameMembers_iff ms ns, and_assoc]

end

instance : DecidableEq (Value τ) :=
  fun v w => decidable_of_iff _ (isSame_iff v w)

end Equality

/-- The value as plain text: a text is itself and anything else its literal. -/
def plain : Value String → String
  | .text s => s
  | v => v.literal

end Value

end Diagnostics
