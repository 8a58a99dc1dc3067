import Diagnostics.Diagnostic.Record
import Diagnostics.Json.Reader
import Diagnostics.Report.Basic

/-!
# Diagnostics documents

A document is JSON text: a list of diagnostics, or an object with such a list and
perhaps a checker and a display name for it. `Document.reports` reads one into
reports, one per checker in the order in which the checkers are first seen; the
default checker's report comes first and is there even when it is empty.
-/

namespace Diagnostics

open Text

/-- Why a text is no diagnostics document. -/
inductive DocumentError
  | json (fault : Json.Fault)
  /-- The checker of the document is not a nonempty text. -/
  | badChecker (v : Json.Value)
  | notAList
  /-- The entry at an index is not an object. -/
  | notAnObject (index : Nat)
  /-- An entry is not a diagnostic. -/
  | entry (e : DecodeError)
deriving DecidableEq

/-- The wording of a document error. -/
def DocumentError.message : DocumentError → String
  | .json fault => "invalid JSON: " ++ fault.message
  | .badChecker v => "'checker' must be a non-empty string, got " ++ v.literal
  | .notAList => "expected a list of diagnostics"
  | .notAnObject index => "diagnostic #" ++ toString index ++ " is not an object"
  | .entry e => e.message

/-- A document whose entries are not read yet. -/
structure Document where
  /-- The checker of entries that name none. -/
  checker : RawText
  /-- The display name of that checker's report. -/
  displayName : Option RawText
  entries : List Json.Value

namespace Document

/-- The display name that a member gives: a nonempty text. -/
def displayNameOf? : Option Json.Value → Option RawText
  | some (.text s) => if s = "" then none else some s
  | _ => none

/-- The checker of an object document, the given one when it names none. -/
def checkerOf (default : RawText) (members : Json.Members) : Except DocumentError RawText :=
  match Members.get? ↑"checker" members with
  | none => if default = "" then .error (.badChecker (.text "")) else .ok default
  | some (.text s) => if s = "" then .error (.badChecker (.text s)) else .ok s
  | some v => .error (.badChecker v)

/-- The document that a value is. -/
def ofValue (default : RawText) : Json.Value → Except DocumentError Document
  | .list entries => .ok { checker := default, displayName := none, entries }
  | .object members =>
    match checkerOf default members with
    | .error e => .error e
    | .ok checker =>
      let displayName := displayNameOf? (Members.get? ↑"name" members)
      match Members.get? ↑"diagnostics" members with
      | none => .ok { checker, displayName, entries := [] }
      | some (.list entries) => .ok { checker, displayName, entries }
      | some _ => .error .notAList
  | _ => .error .notAList

/-- The document that a text holds. -/
def read (default : RawText) (text : String) : Except DocumentError Document :=
  match Json.read text with
  | .error fault => .error (.json fault)
  | .ok v => ofValue default v

/-- The diagnostic of the entry at an index. -/
def decodeEntry (checker : RawText) (index : Nat) : Json.Value → Except DocumentError Diagnostic
  | .object members => (Diagnostic.decode (some checker) members).mapError .entry
  | _ => .error (.notAnObject index)

/-- The diagnostics of entries that are numbered from `index` on; the first bad entry counts. -/
def decodeEntries (checker : RawText) : Nat → List Json.Value → Except DocumentError (List Diagnostic)
  | _, [] => .ok []
  | index, v :: vs =>
    match decodeEntry checker index v with
    | .error e => .error e
    | .ok d => (decodeEntries checker (index + 1) vs).map (d :: ·)

/-- The notices of an entry. -/
def entryNotices (checker : RawText) : Json.Value → List Log.Notice
  | .object members => Diagnostic.notices (some checker) members
  | _ => []

/-- The notices of entries up to the first bad one. -/
def noticesFrom (checker : RawText) : Nat → List Json.Value → List Log.Notice
  | _, [] => []
  | index, v :: vs =>
    entryNotices checker v ++
      match decodeEntry checker index v with
      | .error _ => []
      | .ok _ => noticesFrom checker (index + 1) vs

/-- The diagnostics of each checker, in the order in which the checkers were first seen. -/
abbrev Groups := List (RawText × List Diagnostic)

/-- Adds a diagnostic to the group of its checker, which is made when there is none. -/
def Groups.add (d : Diagnostic) : Groups → Groups
  | [] => [(d.checker, [d])]
  | g :: gs => if g.1 = d.checker then (g.1, g.2 ++ [d]) :: gs else g :: add d gs

/-- The groups of some diagnostics, that of the default checker first. -/
def Groups.ofDiagnostics (checker : RawText) (ds : List Diagnostic) : Groups :=
  ds.foldl (fun gs d => gs.add d) [(checker, [])]

/-- The report of a group. -/
def reportOf (doc : Document) (g : RawText × List Diagnostic) : Report :=
  { checker := g.1
    diagnostics := g.2
    displayName := if g.1 = doc.checker then doc.displayName else none }

/-- The group makes a report: it holds a diagnostic, or it is that of the default checker. -/
def isReported (doc : Document) (g : RawText × List Diagnostic) : Bool :=
  !g.2.isEmpty || g.1 = doc.checker

/-- The reports of a document. -/
def toReports (doc : Document) : Except DocumentError (List Report) :=
  (decodeEntries doc.checker 0 doc.entries).map fun ds =>
    ((Groups.ofDiagnostics doc.checker ds).filter doc.isReported).map doc.reportOf

/-- The reports that a text holds, with `default` as the checker of what names none. -/
def reports (default : RawText) (text : String) : Except DocumentError (List Report) :=
  match read default text with
  | .error e => .error e
  | .ok doc => doc.toReports

/-- The notices of reading the reports of a text. -/
def notices (default : RawText) (text : String) : List Log.Notice :=
  match read default text with
  | .error _ => []
  | .ok doc => noticesFrom doc.checker 0 doc.entries

end Document

end Diagnostics
