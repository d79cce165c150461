import RuleBound.Document.Coercion

/-!
The fixed vocabularies of rules: kinds of objects, scopes of access, actions that may be
forbidden, what follows a violation, and how identity is demanded.

Kinds and scopes have a name and a number, and a document may give either; the others are known
by name alone.
-/

namespace RuleBound

/-- The kinds of objects. -/
inductive ObjectKind
  | message
  | file
  | link
  | permission
  deriving DecidableEq, Repr, Inhabited

namespace ObjectKind

/-- All kinds, by number. -/
def all : List ObjectKind := [message, file, link, permission]

/-- The name of a kind. -/
def name : ObjectKind → String
  | message => "MESSAGE"
  | file => "FILE"
  | link => "LINK"
  | permission => "PERMISSION"

/-- The number of a kind. -/
def number : ObjectKind → Nat
  | message => 0
  | file => 1
  | link => 2
  | permission => 3

end ObjectKind

/-- Who may use an object. -/
inductive AccessScope
  | any
  | link
  | creatorOnly
  | singleUse
  | list
  deriving DecidableEq, Repr, Inhabited

namespace AccessScope

/-- All scopes, by number. -/
def all : List AccessScope := [any, link, creatorOnly, singleUse, list]

/-- The name of a scope. -/
def name : AccessScope → String
  | any => "ANY"
  | link => "LINK"
  | creatorOnly => "CREATOR_ONLY"
  | singleUse => "SINGLE_USE"
  | list => "LIST"

/-- The number of a scope. -/
def number : AccessScope → Nat
  | any => 0
  | link => 1
  | creatorOnly => 2
  | singleUse => 3
  | list => 4

end AccessScope

/-- Actions that a creator may forbid. Reading is none of them. -/
inductive Forbiddable
  | forward
  | copy
  | export
  deriving DecidableEq, Repr, Inhabited

namespace Forbiddable

/-- All actions that may be forbidden, by name. -/
def all : List Forbiddable := [copy, .export, forward]

/-- The name of the action. -/
def name : Forbiddable → String
  | forward => "FORWARD"
  | copy => "COPY"
  | .export => "EXPORT"

end Forbiddable

/-- What follows when a forbidden action is requested. -/
inductive ViolationResponse
  | refuse
  | lock
  deriving DecidableEq, Repr, Inhabited

namespace ViolationResponse

/-- All responses. -/
def all : List ViolationResponse := [refuse, lock]

/-- The name of a response. -/
def name : ViolationResponse → String
  | refuse => "REFUSE"
  | lock => "LOCK"

end ViolationResponse

/-- When an identity is demanded. -/
inductive IdentityDemand
  | always
  | conditional
  | never
  deriving DecidableEq, Repr, Inhabited

namespace IdentityDemand

/-- All demands. -/
def all : List IdentityDemand := [always, conditional, never]

/-- The name of a demand. -/
def name : IdentityDemand → String
  | always => "ALWAYS"
  | conditional => "CONDITIONAL"
  | never => "NEVER"

end IdentityDemand

/-- The member of a vocabulary with a given name. A name that no scalar could be is of the wrong
type. -/
def byName {α : Type} (all : List α) (name : α → String) (d : Document) : Except Fault α :=
  match all.find? fun a => d == .text (name a) with
  | some a => .ok a
  | none => .error (if d.isScalar then .missing d else .wrongType)

/-- The member of a vocabulary that a document spells out by its name as a value. -/
def bySpelling {α : Type} (kind : String) (all : List α) (name : α → String) (d : Document) :
    Except Fault α :=
  match all.find? fun a => d == .text (name a) with
  | some a => .ok a
  | none => .error (.notChoice d kind)

/-- The member of a vocabulary with a given number, in whatever numeric type. -/
def byNumber {α : Type} (kind : String) (all : List α) (number : α → Nat) (d : Document) :
    Except Fault α :=
  match all.find? fun a => d.isNumber (number a) with
  | some a => .ok a
  | none => .error (.notChoice d kind)

/-- The object kind of a name. -/
def ObjectKind.ofName (d : Document) : Except Fault ObjectKind := byName all name d

/-- The object kind of a number. -/
def ObjectKind.ofNumber (d : Document) : Except Fault ObjectKind :=
  byNumber "RDOType" all number d

/-- The access scope of a name. -/
def AccessScope.ofName (d : Document) : Except Fault AccessScope := byName all name d

/-- The access scope of a number. -/
def AccessScope.ofNumber (d : Document) : Except Fault AccessScope :=
  byNumber "AccessType" all number d

/-- The forbiddable action of a spelling. -/
def Forbiddable.ofSpelling (d : Document) : Except Fault Forbiddable :=
  bySpelling "ForbiddableAction" all name d

/-- The violation response of a spelling. -/
def ViolationResponse.ofSpelling (d : Document) : Except Fault ViolationResponse :=
  bySpelling "ViolationAction" all name d

/-- The identity demand of a spelling. -/
def IdentityDemand.ofSpelling (d : Document) : Except Fault IdentityDemand :=
  bySpelling "IdentityRequirement" all name d

/-- A member of a vocabulary, or some other value in its place. -/
inductive Given (α : Type)
  | member (value : α)
  | other (value : Document)
  deriving DecidableEq

/-- What was given as a document, with a member under its name. -/
def Given.toDocument {α : Type} (name : α → String) : Given α → Document
  | .member a => .text (name a)
  | .other d => d

/-- The name of the member that was given; another value has none. -/
def Given.nameOf {α : Type} (name : α → String) : Given α → Except Fault String
  | .member a => .ok (name a)
  | .other _ => .error .noPart

/-- What a document gives: a text names a member, anything else stays as it is. -/
def Given.ofDocument {α : Type} (ofName : Document → Except Fault α) :
    Document → Except Fault (Given α)
  | .text s => (ofName (.text s)).map .member
  | d => .ok (.other d)

/-- The kind that was given, by member or by number. -/
def ObjectKind.ofGiven : Given ObjectKind → Except Fault ObjectKind
  | .member kind => .ok kind
  | .other d => ofNumber d

/-- The scope that was given, by member or by number. -/
def AccessScope.ofGiven : Given AccessScope → Except Fault AccessScope
  | .member scope => .ok scope
  | .other d => ofNumber d

end RuleBound
