import RuleBound.Registry.Basic

/-!
Proofs of refusals: a refusal is checked again, later, from its event and the record alone.

The event has to be the one that its reference names, and the rules that it cites have to be the
ones of the record. Who acted and why the request was refused is taken from the event.
-/

namespace RuleBound

/-- What checking a refusal again has shown. -/
structure RefusalProof where
  valid : Bool
  /-- The reference as it was recorded, or as it was given if no refusal was found. -/
  reference : Document
  objectId : Document := .null
  actor : Document := .text ""
  action : Option Action := none
  reason : Document := .text ""
  rulesHash : Document := .text ""
  /-- What is wrong. -/
  errors : List String := []
  deriving DecidableEq

namespace RefusalProof

/-- A proof that fails before any refusal was found. -/
def failed (reference : Document) (error : String) : RefusalProof :=
  { valid := false, reference := reference, errors := [error] }

/-- A proof as a document. -/
def toDocument (p : RefusalProof) : Document :=
  .object [("valid", .bool p.valid), ("tx_ref", p.reference), ("rdo_id", p.objectId),
    ("actor", p.actor), ("action", Document.ofText? (p.action.map Action.name)),
    ("reason", p.reason), ("rules_hash", p.rulesHash), ("errors", .ofTexts p.errors)]

end RefusalProof

namespace Registry

/-- Compare two written digests, both of which have to be texts. -/
def sameDigests (a b : Document) : Except Fault Bool :=
  match a, b with
  | .text a, .text b => sameDigest a b
  | _, _ => .error .wrongType

/-- The record of the object that an event names, by any number of that value. -/
def namedRecord? (reg : Registry) (id : Document) : Except Fault (Option Record) :=
  if id.isScalar then .ok ((reg.records.find? fun r => id.isNumber r.1).map Prod.snd)
  else .error .wrongType

/-- What is wrong with the rules that an event cites. -/
def citationErrors (reg : Registry) (id rulesHash : Document) : Except Fault (List String) := do
  match ← reg.namedRecord? id with
  | none => return ["event references unknown RDO " ++ id.shown]
  | some r =>
    if ← sameDigests r.rulesHash rulesHash then return []
    else return ["refusal rules hash does not match the record"]

/-- Check a refusal again. -/
def verifyRefusal (reg : Registry) (reference : Document) : Except Fault RefusalProof :=
  match reg.log.find? reference.shown with
  | none => .ok (.failed reference "no event for transaction reference")
  | some recorded =>
    match recorded.event.body with
    | .refused id actor action rulesHash reason => do
      let intact ← sameDigest (← recorded.event.digest) recorded.reference
      let errors :=
    if intact then [] else ["event content does not match its transaction reference"]
      let errors := errors ++ (← reg.citationErrors id rulesHash)
      return {
        valid := errors.isEmpty
        reference := .text recorded.reference
        objectId := id
        actor := actor
        action := some (← Action.ofNumber action)
        reason := reason
        rulesHash := rulesHash
        errors := errors }
    | _ =>
      .ok (.failed reference
        ("event is " ++ recorded.event.eventClass.name ++ ", not ActionRefused"))

end Registry

end RuleBound
