import RuleBound.Rules.Compact
import RuleBound.Text.LetterCase
import RuleBound.Text.Blank
import RuleBound.Document.Canonical

/-!
Actions that can be requested on an object, and requests.

An action has a name and a number; exporting is another name for downloading. A request is
checked before the registry looks at any object.
-/

namespace RuleBound

/-- What can be requested. -/
inductive Action
  | read
  | forward
  | copy
  | download
  | execute
  deriving DecidableEq, Repr, Inhabited

namespace Action

/-- All actions, by number. -/
def all : List Action := [read, forward, copy, download, execute]

/-- The name of an action. -/
def name : Action → String
  | read => "READ"
  | forward => "FORWARD"
  | copy => "COPY"
  | download => "DOWNLOAD"
  | execute => "EXECUTE"

/-- The number of an action. -/
def number : Action → Nat
  | read => 0
  | forward => 1
  | copy => 2
  | download => 3
  | execute => 4

/-- The action of a name in upper case. -/
def ofName? (name : String) : Option Action :=
  if name = "EXPORT" then some download else all.find? fun a => a.name == name

/-- The action of a number, in whatever numeric type. -/
def ofNumber (d : Document) : Except Fault Action := byNumber "ActionType" all number d

/-- The action that a caller names in any case, with blanks around it, or gives by number. -/
def ofDocument (d : Document) : Except Fault Action :=
  match d with
  | .text s =>
    match ofName? (Text.upper (Text.strip s)) with
    | some a => .ok a
    | none => .error (.malformed "action" ("unknown action: " ++ d.quoted))
  | .integer n =>
    match all.find? fun a => (a.number : Int) == n with
    | some a => .ok a
    | none => .error (d.faultShowing (.malformed "action" ("unknown action code: " ++ toString n)))
  | d => .error (d.faultShowing (.malformed "action" ("unknown action: " ++ d.quoted)))

/-- The digest of an action and the context in which it is requested. -/
def digest (a : Action) (context : Bytes) : String :=
  Sha256.ofBytes (UInt8.ofNat a.number :: context)

end Action

/-- Whether rules forbid an action. Reading and executing cannot be forbidden. -/
def CompactRules.forbids (r : CompactRules) : Action → Bool
  | .forward => r.forbidForward.isTrue
  | .copy => r.forbidCopy.isTrue
  | .download => r.forbidExport.isTrue
  | .read | .execute => false

/-- A request that has passed the checks on its form. -/
structure Request where
  action : Action
  context : Bytes
  actor : String
  deriving DecidableEq, Repr

namespace Request

/-- The text of an identity that is there and not blank. -/
def identity? : Document → Option String
  | .text s => if Text.isBlankText s then none else some s
  | _ => none

/-- Check a request: the action first, then the context, then who is acting. -/
def check (action : Document) (context : Given Bytes) (actor : Document) :
    Except Fault Request := do
  let action ← Action.ofDocument action
  match context with
  | .other _ => throw (.malformed "context" "context data must be bytes")
  | .member context =>
    match identity? actor with
    | none => throw (.malformed "actor" "actor identity is required")
    | some actor => return ⟨action, context, actor⟩

end Request

end RuleBound
