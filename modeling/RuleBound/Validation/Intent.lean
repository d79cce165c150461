import RuleBound.Intent
import RuleBound.Schema.Catalog
import RuleBound.Validation.Field

/-!
Validation of intents: of the document's structure by its schema, and of the intent itself.

Issues come in a fixed order: name, description, payload, expiry, uses, whitelist.
-/

namespace RuleBound

namespace Validation

/-- The greatest length of a name. -/
def maxNameLength : Int := 256

/-- The greatest length of a description. -/
def maxDescriptionLength : Nat := 4096

/-- The greatest number of seconds until expiry: a hundred years. -/
def maxExpirySeconds : Int := 100 * 365 * 24 * 3600

/-- What is wrong with a description. -/
def descriptionIssues (description : Document) : List Issue :=
  let fine : Bool := match description with
    | .text s => s.length ≤ maxDescriptionLength
    | _ => false
  if fine then [] else [⟨"description", "Must be a string of at most 4096 chars"⟩]

/-- What is wrong with a payload of the right shape. -/
def payloadIssues : Payload → Except Fault (List Issue)
  | .message text => .ok (checkPlainText "payload.text" text).issues
  | .file name _ content reference =>
    .ok ((checkPlainText "payload.fileName" name).issues ++
      if content.isTrue || reference.isTrue then []
      else [⟨"payload.content", "File content is empty"⟩])
  | .link url => (checkAddress "payload.url" url).map Review.issues
  | .permission scope resource =>
    .ok ((checkPlainText "payload.scope" scope).issues ++
      (checkPlainText "payload.resource" resource).issues)

/-- What is wrong with the identities of a whitelist. -/
def whitelistIssues (identities : List Document) : List Issue :=
  (identities.zipIdx.map fun (d, i) =>
    (checkIdentity ("whitelist[" ++ toString i ++ "]") d).issues).flatten

/-- What is wrong with a whitelist under a scope. -/
def accessIssues (scope : AccessScope) (whitelist : Document) : Except Fault (List Issue) :=
  if scope = .list then do
    let empty :=
      if whitelist.isTrue then []
      else [Issue.mk "whitelist" "LIST access requires at least one identity"]
    return empty ++ whitelistIssues (← whitelist.toItems)
  else if whitelist.isTrue then
    .ok [⟨"whitelist", "whitelist is only allowed with LIST access, not " ++ scope.name⟩]
  else .ok []

/-- Whether a number of uses is whole and above one; truth values are numbers here. -/
def allowsSeveralUses (maxUses : Document) : Bool :=
  match maxUses with
  | .integer n => 1 < n
  | _ => false

end Validation

open Validation

/-- Validate an intent. -/
def Intent.review (intent : Intent) : Except Fault (Review Intent) := do
  let name := (checkText "name" 1 maxNameLength none intent.name).issues
  let description := descriptionIssues intent.description
  let kind ← ObjectKind.ofGiven intent.kind
  let payload ←
    if intent.payload.kind = kind then payloadIssues intent.payload
    else .ok [⟨"payload", kind.name ++ " requires " ++ Payload.shapeName kind ++ ", got " ++
      Payload.shapeName intent.payload.kind⟩]
  let expiry := (checkCount "expirySeconds" (some maxExpirySeconds) intent.expirySeconds).issues
  let uses := (checkCount "maxUses" none intent.maxUses).issues
  let scope ← AccessScope.ofGiven intent.scope
  let access ← accessIssues scope intent.whitelist
  let issues := name ++ description ++ payload ++ expiry ++ uses ++ access
  let warnings :=
    if scope = .singleUse ∧ allowsSeveralUses intent.maxUses then
      ["SINGLE_USE access with maxUses > 1: maxUses governs the usage budget"]
    else []
  return if issues.isEmpty then .accepted intent warnings else .refused issues

/-- Validate the structure of an intent document. -/
def reviewIntentDocument (d : Document) : Review Document :=
  match Schema.intent.report d with
  | [] => .accepted d []
  | lines => .refused (lines.map fun l => ⟨"intent", l⟩)

/-- Check the structure of an intent document. Issues cannot be told if one of them quotes a number
that is too long to be written. -/
def checkIntentDocument (d : Document) : Except Fault Document :=
  if Schema.intent.quotesLongNumeral d then .error (.numeralTooLong none)
  else (reviewIntentDocument d).toExcept

/-- Validate a document, read the intent and validate it. -/
def loadIntent (d : Document) : Except Fault Intent := do
  let d ← checkIntentDocument d
  let intent ← Intent.ofDocument d
  (← intent.review).toExcept

end RuleBound
