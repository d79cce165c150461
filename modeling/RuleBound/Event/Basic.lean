import RuleBound.Document.Canonical
import RuleBound.Document.Coercion
import RuleBound.Fresh

/-!
Events: what has happened to objects, each an immutable fact.

An event that the registry makes holds numbers and texts, but one that is read back from a
document holds whatever the document says. The digest of an event's canonical text is the
reference under which the event is found again.
-/

namespace RuleBound

/-- The classes of events. Every event also belongs to the general class. -/
inductive EventClass
  | general
  | created
  | allowed
  | refused
  deriving DecidableEq, Repr, Inhabited

namespace EventClass

/-- All classes. -/
def all : List EventClass := [general, created, allowed, refused]

/-- The name of a class in documents. -/
def name : EventClass → String
  | general => "Event"
  | created => "RDOCreated"
  | allowed => "ActionAllowed"
  | refused => "ActionRefused"

/-- The class of a name. -/
def ofName? (name : String) : Option EventClass := all.find? fun c => c.name == name

/-- Whether events of a class belong to another: to their own and to the general one. -/
def isIn (c other : EventClass) : Bool := other == general || other == c

end EventClass

/-- What an event says beyond when and in which correlation it happened. -/
inductive EventBody
  | general
  | created (objectId creator kind rulesHash pointer : Document)
  | allowed (objectId actor action actionHash : Document)
  | refused (objectId actor action rulesHash reason : Document)
  deriving DecidableEq, Inhabited

/-- An event. -/
structure Event where
  id : Document
  timestamp : Document
  correlation : Document
  body : EventBody
  deriving DecidableEq, Inhabited

namespace EventBody

/-- The class of an event with this body. -/
def eventClass : EventBody → EventClass
  | general => .general
  | created _ _ _ _ _ => .created
  | allowed _ _ _ _ => .allowed
  | refused _ _ _ _ _ => .refused

/-- The fields of a body. -/
def fields : EventBody → List (String × Document)
  | general => []
  | created objectId creator kind rulesHash pointer =>
    [("rdo_id", objectId), ("creator", creator), ("rdo_type", kind), ("rules_hash", rulesHash),
      ("metadata_pointer", pointer)]
  | allowed objectId actor action actionHash =>
    [("rdo_id", objectId), ("actor", actor), ("action", action), ("action_hash", actionHash)]
  | refused objectId actor action rulesHash reason =>
    [("rdo_id", objectId), ("actor", actor), ("action", action), ("rules_hash", rulesHash),
      ("reason", reason)]

/-- The body of a class that fields describe: a missing number is zero, a missing text empty. -/
def ofFields (c : EventClass) (given : List (String × Document)) : EventBody :=
  let number (name : String) := (Document.field? given name).getD (.integer 0)
  let text (name : String) := (Document.field? given name).getD (.text "")
  match c with
  | .general => general
  | .created =>
    created (number "rdo_id") (text "creator") (number "rdo_type") (text "rules_hash")
      (text "metadata_pointer")
  | .allowed => allowed (number "rdo_id") (text "actor") (number "action") (text "action_hash")
  | .refused =>
    refused (number "rdo_id") (text "actor") (number "action") (text "rules_hash") (text "reason")

end EventBody

namespace Event

/-- The class of an event. -/
def eventClass (e : Event) : EventClass := e.body.eventClass

/-- The fields of an event without its class. -/
def fields (e : Event) : List (String × Document) :=
  [("event_id", e.id), ("event_timestamp", e.timestamp), ("correlation_id", e.correlation)] ++
    e.body.fields

/-- An event as a document. -/
def toDocument (e : Event) : Document :=
  .object (e.fields ++ [("event_type", .text e.eventClass.name)])

/-- The digest of an event. -/
def digest (e : Event) : Except Fault String := e.toDocument.canonicalDigest

/-- The event of a class that fields describe. A missing identifier or moment is taken from the
stamp; fields that the class does not have are dropped. -/
def ofFields (c : EventClass) (given : List (String × Document)) (stamp : Stamp) : Event where
  id := (Document.field? given "event_id").getD (.text stamp.eventId)
  timestamp := (Document.field? given "event_timestamp").getD (.text stamp.timestamp)
  correlation := (Document.field? given "correlation_id").getD .null
  body := EventBody.ofFields c given

/-- An event with one of its fields replaced by a value. A name that no field has changes nothing;
the class of an event cannot be replaced. -/
def replaceField (e : Event) (name : String) (value : Document) : Except Fault Event :=
  if name = "event_type" then .error .noPart
  else .ok (ofFields e.eventClass (Document.putField e.fields name value) ⟨"", ""⟩)

/-- Whether a class has all of some fields. -/
def hasFields (c : EventClass) (given : List (String × Document)) : Bool :=
  given.all fun f => (ofFields c [] ⟨"", ""⟩).fields.any fun g => g.1 == f.1

/-- Whether fields leave the identifier to the stamp. -/
def needsStamp (given : List (String × Document)) : Bool :=
  (Document.field? given "event_id").isNone

/-- The class that a document names. Events of the general class are never read back. -/
def classOf (d : Document) : Except Fault EventClass := do
  let name ← d.lookup "event_type" .null
  match EventClass.ofName? name.shown with
  | some c => if c = .general then throw (.eventType name) else return c
  | none => throw (.eventType name)

/-- The event of a class that has all of some fields, with whether it takes its identifier from the
stamp. -/
def ofRaw (className : Document) (given : List (String × Document)) (stamp : Stamp) :
    Except Fault (Event × Bool) :=
  match EventClass.ofName? className.shown with
  | none => .error (.missing className)
  | some c =>
    if hasFields c given then .ok (ofFields c given stamp, needsStamp given)
    else .error .wrongType

/-- Read an event, with the number of identifiers drawn so far and after it. -/
def ofDocument (s : Surroundings) (drawn : Nat) (d : Document) : Nat × Except Fault Event :=
  match classOf d with
  | .error f => (drawn, .error f)
  | .ok c =>
    let given := match d with
      | .object given => given
      | _ => []
    (if needsStamp given then drawn + 1 else drawn,
      .ok (ofFields c given ⟨s.source.eventId drawn, s.timestamp⟩))

end Event

end RuleBound
