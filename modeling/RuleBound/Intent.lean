import RuleBound.Payload
import RuleBound.Text.LetterCase

/-!
Intents: what a creator asks for, before anything is compiled.

An intent need not have passed validation, so most fields hold whatever they were given. An
intent read from a document has its names in upper case, its numbers whole and its texts text.
-/

namespace RuleBound

/-- What a creator asks for. -/
structure Intent where
  kind : Given ObjectKind
  name : Document
  payload : Payload
  description : Document := .text ""
  scope : Given AccessScope := .member .link
  /-- A sequence of actions. -/
  forbidden : Document := .ofTexts ["FORWARD"]
  expirySeconds : Document := .integer 0
  onViolation : Document := .text "REFUSE"
  maxUses : Document := .integer 0
  identity : Document := .text "NEVER"
  /-- A sequence of identities. -/
  whitelist : Document := .list []
  deriving DecidableEq

namespace Intent

/-- A document's text in upper case, whatever its type. -/
def upperText (d : Document) : Document := .text (Text.upper d.shown)

/-- Read an intent from a document with the names of fields and vocabularies that documents use.
Names are taken in any case, numbers in any spelling; a missing field takes its default, and
nothing is forbidden by default. -/
def ofDocument (d : Document) : Except Fault Intent := do
  let kind ← ObjectKind.ofName (upperText (← d.require "type"))
  let name ← d.lookup "name" (.text "")
  let description ← d.lookup "description" (.text "")
  let body ← d.lookup "payload" .null
  let payload ← Payload.ofDocument kind (if body.isTrue then body else .object [])
  let scope ← AccessScope.ofName (upperText (← d.lookup "allowedUsers" (.text "LINK")))
  let forbidden ← (← (← d.lookup "forbiddenActions" (.list [])).toItems).mapM fun a =>
    Forbiddable.ofSpelling (upperText a)
  let expirySeconds ← (← d.lookup "expirySeconds" (.integer 0)).toInteger
  let onViolation ← ViolationResponse.ofSpelling
    (upperText (← d.lookup "violationAction" (.text "REFUSE")))
  let maxUses ← (← d.lookup "maxUses" (.integer 0)).toInteger
  let identity ← IdentityDemand.ofSpelling
    (upperText (← d.lookup "requireIdentity" (.text "NEVER")))
  let whitelist ← (← d.lookup "whitelist" (.list [])).toItems
  return {
    kind := .member kind
    name := .text name.shown
    description := .text description.shown
    payload := payload
    scope := .member scope
    forbidden := .ofTexts (forbidden.map Forbiddable.name)
    expirySeconds := .integer expirySeconds
    onViolation := .text onViolation.name
    maxUses := .integer maxUses
    identity := .text identity.name
    whitelist := .ofTexts (whitelist.map fun a => Text.strip a.shown) }

/-- The names of an intent's fields. -/
def fieldNames : List String :=
  ["type", "name", "payload", "description", "allowed_users", "forbidden_actions",
    "expiry_seconds", "violation_action", "max_uses", "require_identity", "whitelist"]

/-- An intent whose fields are taken as they are. Kind and scope are looked up if they are texts,
sequences are taken apart; a missing field takes the default of intents. -/
def ofRaw (fields : Document) (payload : Payload) : Except Fault Intent := do
  let kind ← Given.ofDocument ObjectKind.ofName (← fields.require "type")
  let sequence (name : String) (default : Document) : Except Fault Document :=
    match fields.get? name with
    | some d => d.toItems.map .list
    | none => .ok default
  if (fields.get? "name").isNone || !fields.fields.all (fun f => fieldNames.contains f.1) then
    throw .wrongType
  let base : Intent := { kind := kind, name := fields.getD "name", payload := payload }
  let scope ← match fields.get? "allowed_users" with
    | some d => Given.ofDocument AccessScope.ofName d
    | none => pure base.scope
  return { base with
    scope := scope
    description := fields.getD "description" base.description
    forbidden := ← sequence "forbidden_actions" base.forbidden
    expirySeconds := fields.getD "expiry_seconds" base.expirySeconds
    onViolation := fields.getD "violation_action" base.onViolation
    maxUses := fields.getD "max_uses" base.maxUses
    identity := fields.getD "require_identity" base.identity
    whitelist := ← sequence "whitelist" base.whitelist }

/-- An intent with all its fields. -/
def toDocument (i : Intent) : Document :=
  .object [("type", i.kind.toDocument ObjectKind.name), ("name", i.name),
    ("payload", i.payload.toDocument), ("description", i.description),
    ("allowed_users", i.scope.toDocument AccessScope.name), ("forbidden_actions", i.forbidden),
    ("expiry_seconds", i.expirySeconds), ("violation_action", i.onViolation),
    ("max_uses", i.maxUses), ("require_identity", i.identity), ("whitelist", i.whitelist)]

end Intent

end RuleBound
