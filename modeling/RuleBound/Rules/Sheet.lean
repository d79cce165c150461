import RuleBound.Rules.Compact
import RuleBound.Document.Mapping

/-!
Rule sheets: the documents whose digests commit to rules.

A sheet of version 1 is hashed by its canonical text. A legacy sheet, version 0, holds an expiry
and whether forwarding is allowed, and is hashed by a packed encoding of 33 bytes.
-/

namespace RuleBound

-- Powers are those of the core library, whichever others are known.
attribute [local instance (high)] instPowNat

/-- A rule sheet of version 1. -/
structure RuleSheet where
  kind : ObjectKind
  /-- What the object carries, in terms of its descriptor. -/
  payload : Mapping
  scope : AccessScope
  forbidden : List Document
  expiry : Int
  maxUses : Int
  lockOnViolation : Bool
  identity : IdentityDemand
  deriving DecidableEq

namespace RuleSheet

/-- The rules of a sheet as a document. -/
def rules (s : RuleSheet) : Document :=
  .object [("access_scope", .text s.scope.name), ("forbidden", .list s.forbidden),
    ("expiry", .integer s.expiry), ("max_uses", .integer s.maxUses),
    ("lock_on_violation", .bool s.lockOnViolation), ("require_identity", .text s.identity.name)]

/-- The sheet as a document. -/
def toDocument (s : RuleSheet) : Document :=
  .object [("v", .integer 1), ("type", .text s.kind.name),
    ("payload", .object s.payload.shownFields), ("rules", s.rules)]

/-- What a sheet holds of documents, with the names of the payload as messages show them. -/
def contents (s : RuleSheet) : Document :=
  .object [("payload", .object (s.payload.map fun f => (f.1.shown, f.2))), ("rules", s.rules)]

/-- The sheet in the canonical style, around its payload in text. -/
def textAround (s : RuleSheet) (payload : String) : String :=
  "\x7b\"payload\":" ++ payload ++ ",\"rules\":" ++ s.rules.toJson .canonical ++ ",\"type\":\"" ++
    s.kind.name ++ "\",\"v\":1\x7d"

/-- The canonical text of a sheet whose payload has names that are no texts. The names of the
payload are put into their own order, after doubles are looked for and before overlong numbers and
halves of pairs are. -/
def canonicalOfMapping (s : RuleSheet) : Except Fault String :=
  match s.contents.realPath? "" with
  | some path => .error (.realInCanonical path)
  | none => do
    let text := s.textAround (← s.payload.canonicalText)
    if s.contents.hasLongNumeral then throw (.numeralTooLong none)
    match Text.surrogateDefect? text with
    | some defect => throw (.notEncodable defect)
    | none => return text

/-- The canonical text of a sheet. -/
def canonical (s : RuleSheet) : Except Fault String :=
  if s.payload.textFields?.isSome then s.toDocument.canonical else s.canonicalOfMapping

/-- The digest of a sheet. -/
def digest (s : RuleSheet) : Except Fault String := s.canonical.map Sha256.ofText

/-- Whether an action is listed as forbidden. -/
def forbids (s : RuleSheet) (action : Forbiddable) : Bool :=
  s.forbidden.contains (.text action.name)

/-- The rules that a registry enforces for a sheet. Single use without a number of uses is one
use. Something that no set could hold cannot be listed as forbidden. -/
def toCompact (s : RuleSheet) : Except Fault CompactRules :=
  if s.forbidden.all Document.isScalar then
    .ok {
      forbidCopy := .bool (s.forbids .copy)
      forbidForward := .bool (s.forbids .forward)
      forbidExport := .bool (s.forbids .export)
      expiry := .integer s.expiry
      scope := .member s.scope
      maxUses := .integer (if s.scope = .singleUse ∧ s.maxUses = 0 then 1 else s.maxUses)
      lockOnViolation := .bool s.lockOnViolation
      requireIdentity := .bool (s.identity == .always)
      version := .integer 1 }
  else .error .wrongType

/-- Read a sheet from a document of version 1. -/
def ofDocument (d : Document) : Except Fault RuleSheet := do
  let rules ← d.require "rules"
  let kind ← ObjectKind.ofName (← d.require "type")
  let payload ← d.lookup "payload" .null
  let fields ← if payload.isTrue then Mapping.ofDocument payload else .ok []
  let scope ← AccessScope.ofName (← rules.require "access_scope")
  let forbidden ← (← rules.lookup "forbidden" (.list [])).toItems
  let expiry ← (← rules.lookup "expiry" (.integer 0)).toInteger
  let maxUses ← (← rules.lookup "max_uses" (.integer 0)).toInteger
  let lock ← rules.lookup "lock_on_violation" (.bool false)
  let identity ← IdentityDemand.ofSpelling (← rules.lookup "require_identity" (.text "NEVER"))
  return {
    kind := kind
    payload := fields
    scope := scope
    forbidden := forbidden
    expiry := expiry
    maxUses := maxUses
    lockOnViolation := lock.isTrue
    identity := identity }

end RuleSheet

/-- A rule sheet of version 0. -/
structure LegacySheet where
  expiry : Int
  allowForward : Bool
  deriving DecidableEq, Repr

namespace LegacySheet

/-- The packed encoding: the expiry as 32 bytes, then one byte for the policy. -/
def packed (s : LegacySheet) : Except Fault Bytes :=
  if 0 ≤ s.expiry ∧ s.expiry < 2 ^ (256 : Nat) then
    .ok (bytesOfNat 32 s.expiry.toNat ++ [if s.allowForward then 1 else 0])
  else .error .outOfRange

/-- The digest of a legacy sheet. -/
def digest (s : LegacySheet) : Except Fault String := s.packed.map Sha256.ofBytes

/-- A legacy sheet as a document. -/
def toDocument (s : LegacySheet) : Document :=
  .object [("v", .integer 0), ("expiry", .integer s.expiry),
    ("allow_forward", .bool s.allowForward)]

/-- The rules that a registry enforces for a legacy sheet. -/
def toCompact (s : LegacySheet) : CompactRules :=
  { forbidForward := .bool !s.allowForward, expiry := .integer s.expiry, version := .integer 0 }

end LegacySheet

/-- A rule sheet of either version. -/
inductive AnySheet
  | current (sheet : RuleSheet)
  | legacy (sheet : LegacySheet)
  deriving DecidableEq

namespace AnySheet

/-- The sheet as a document. -/
def toDocument : AnySheet → Document
  | current s => s.toDocument
  | legacy s => s.toDocument

/-- The digest of the sheet. -/
def digest : AnySheet → Except Fault String
  | current s => s.digest
  | legacy s => s.digest

/-- The rules that a registry enforces. -/
def toCompact : AnySheet → Except Fault CompactRules
  | current s => s.toCompact
  | legacy s => .ok s.toCompact

/-- Read a sheet, telling the versions apart by the tag, which may be any number. -/
def ofDocument (d : Document) : Except Fault AnySheet := do
  let version ← d.lookup "v" .null
  if version.isNumber 1 then
    return current (← RuleSheet.ofDocument d)
  else if version.isNumber 0 then
    return legacy {
      expiry := ← (← d.require "expiry").toInteger
      allowForward := (← d.require "allow_forward").isTrue }
  else throw (.rulesVersion version)

/-- Read a sheet from JSON text. -/
def ofJson (text : String) : Except Fault AnySheet := do ofDocument (← Document.parse text)

end AnySheet

end RuleBound
