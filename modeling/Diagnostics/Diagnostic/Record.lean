import Diagnostics.Diagnostic.Basic
import Diagnostics.Log.Notice

/-!
# Diagnostics in documents

The form of a diagnostic in a document is an object. `Diagnostic.encode` writes one,
leaving out what is absent; `Diagnostic.decode` reads one, with a checker to fall back
on for objects that name none. Unknown members are ignored, and a level that is not
known is dropped with a notice.
-/

namespace Diagnostics

open Text

/-- Why an object is no diagnostic. -/
inductive DecodeError
  /-- No checker is named. -/
  | noChecker (members : Json.Members)
  /-- The stack is neither a text nor a list of texts. -/
  | badStack (v : Json.Value)
  /-- A member that has to be a text is something else. -/
  | notText (key : String) (v : Json.Value)
  /-- The location has no start with a line. -/
  | badLocation (members : Json.Members)
deriving DecidableEq

/-- The wording of a decoding error. -/
def DecodeError.message : DecodeError → String
  | .noChecker members => "diagnostic without a checker id: " ++ (Value.object members).literal
  | .badStack v => "stack must be a string or list of strings: " ++ v.literal
  | .notText key v => quoted key ++ " must be a string, got " ++ v.kindName
  | .badLocation members => "location without a numeric start line: " ++ (Value.object members).literal

namespace Stack

/-- The stack in a document. -/
def encode : Stack → Json.Value
  | .whole s => .text s
  | .lines ls => .list (ls.map .text)

/-- The text of a value that is one. -/
def textOf? : Json.Value → Option RawText
  | .text s => some s
  | _ => none

/-- The stack that a member gives; an absent one and null give none. -/
def decode : Option Json.Value → Except DecodeError (Option Stack)
  | none | some .null => .ok none
  | some (.text s) => .ok (some (.whole s))
  | some (.list items) =>
    match items.mapM textOf? with
    | some ls => .ok (some (.lines ls))
    | none => .error (.badStack (.list items))
  | some v => .error (.badStack v)

end Stack

namespace Diagnostic

/-- The members of a diagnostic in a document, in their fixed order. -/
def encode (d : Diagnostic) : Json.Members :=
  Members.present
    [("checker", some (.text d.checker)),
     ("message", d.message.map .text),
     ("conclusion", d.conclusion.map .text),
     ("stack", d.stack.map Stack.encode),
     ("id", d.id.map .text),
     ("codeFrame", d.codeFrame.map .text),
     ("stripedCodeFrame", d.plainFrame.map .text),
     ("loc", d.location.map Location.encode),
     ("level", d.level.map fun l => .int l.number)]

/-- The checker that an object names, or else the one to fall back on; the empty text names none.
A member that is there but no text is not replaced. -/
def checkerOf? (fallback : Option RawText) (members : Json.Members) : Option RawText :=
  match Members.get? ↑"checker" members with
  | some (.text s) => if s = "" then none else some s
  | some _ => none
  | none => fallback.filter (· ≠ "")

/-- The text of a member that may be absent or null. -/
def textField (key : String) (members : Json.Members) : Except DecodeError (Option RawText) :=
  match Members.get? ↑key members with
  | none | some .null => .ok none
  | some (.text s) => .ok (some s)
  | some v => .error (.notText key v)

/-- The location of a member; anything but an object gives none. -/
def locationField (members : Json.Members) : Except DecodeError (Option Location) :=
  match Members.get? ↑"loc" members with
  | some (.object loc) =>
    match Location.decode? loc with
    | some l => .ok (some l)
    | none => .error (.badLocation loc)
  | _ => .ok none

/-- The level of a member, when it is one. -/
def levelField (members : Json.Members) : Option Level :=
  (Members.get? ↑"level" members).bind Level.ofValue?

/-- The diagnostic that the members of an object give. -/
def decode (fallback : Option RawText) (members : Json.Members) : Except DecodeError Diagnostic :=
  match checkerOf? fallback members with
  | none => .error (.noChecker members)
  | some checker => do
    let stack ← Stack.decode (Members.get? ↑"stack" members)
    let message ← textField "message" members
    let conclusion ← textField "conclusion" members
    let id ← textField "id" members
    let codeFrame ← textField "codeFrame" members
    let plainFrame ← textField "stripedCodeFrame" members
    let location ← locationField members
    return { checker, message, conclusion, stack, id, codeFrame, plainFrame, location,
             level := levelField members }

/-- The level member that is neither absent, null nor a level. -/
def unknownLevel? (members : Json.Members) : Option Json.Value :=
  match Members.get? ↑"level" members with
  | none | some .null => none
  | some v => if (Level.ofValue? v).isSome then none else some v

/-- The notices of decoding an object: an unknown level is reported once the checker and the stack
have been read, whatever becomes of the other members. -/
def notices (fallback : Option RawText) (members : Json.Members) : List Log.Notice :=
  match checkerOf? fallback members, Stack.decode (Members.get? ↑"stack" members), unknownLevel? members with
  | some checker, .ok _, some v =>
    [⟨Log.warning, "Ignoring unknown level " ++ v.literal ++ " for checker " ++ checker⟩]
  | _, _, _ => []

end Diagnostic

end Diagnostics
