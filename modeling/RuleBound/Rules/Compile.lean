import RuleBound.Intent
import RuleBound.Rules.Sheet
import RuleBound.Digest.Compare

/-!
Compiling an intent to a rule sheet, its canonical text and its digest, and checking a text
against a digest.

The text is the commitment: intents that differ only in the order or repetition of forbidden
actions, or in what no rule depends on, compile to one text. A relative expiry is resolved
against the moment of compilation; zero stays zero and means never.
-/

namespace RuleBound

/-- A rule sheet with its canonical text and digest. -/
structure CompiledRules where
  canonical : String
  digest : String
  sheet : RuleSheet
  deriving DecidableEq

/-- The forbidden actions of a sequence, by name and without repetition. -/
def normalForbidden (actions : Document) : Except Fault (List Document) := do
  let listed ← (← actions.toItems).mapM Forbiddable.ofSpelling
  return (Forbiddable.all.filter listed.contains).map fun a => .text a.name

namespace Intent

/-- The moment of expiry: none unless the number of seconds is positive. -/
def expiryAt (intent : Intent) (now : Document) : Except Fault Int :=
  match intent.expirySeconds.numeric? with
  | none => .error .wrongType
  | some _ =>
    if intent.expirySeconds.compareNumbers? (.integer 0) = some .gt then do
      let now ← now.toInteger
      let seconds ← intent.expirySeconds.toInteger
      return now + seconds
    else .ok 0

/-- The rule sheet of an intent at a moment. -/
def sheet (intent : Intent) (now : Document) : Except Fault RuleSheet := do
  let expiry ← intent.expiryAt now
  let kind ← ObjectKind.ofGiven intent.kind
  let scope ← AccessScope.ofGiven intent.scope
  let forbidden ← normalForbidden intent.forbidden
  let maxUses ← intent.maxUses.toInteger
  let response ← ViolationResponse.ofSpelling intent.onViolation
  let identity ← IdentityDemand.ofSpelling intent.identity
  return {
    kind := kind
    payload := .ofFields intent.payload.descriptor
    scope := scope
    forbidden := forbidden
    expiry := expiry
    maxUses := maxUses
    lockOnViolation := response = .lock
    identity := identity }

/-- Compile an intent at a moment. -/
def compile (intent : Intent) (now : Document) : Except Fault CompiledRules := do
  let sheet ← intent.sheet now
  let canonical ← sheet.canonical
  return ⟨canonical, Sha256.ofText canonical, sheet⟩

end Intent

/-- Whether a fault in reading a sheet means that the text is no commitment. Other faults are
passed on. -/
def Fault.disqualifies (f : Fault) : Bool :=
  f.isValueFault || f.isIn .missing || f = .wrongType

/-- Whether a text is the canonical text of a sheet of version 1 and has the given digest, in
either case. -/
def verifyDigest (canonical : String) (digest : Document) : Except Fault Bool :=
  match AnySheet.ofJson canonical with
  | .error f => if f.disqualifies then .ok false else .error f
  | .ok (.legacy _) => .ok false
  | .ok (.current sheet) => do
    let text ← sheet.canonical
    if text ≠ canonical then return false
    sameDigest (Sha256.ofText canonical) (Text.lower digest.shown)

end RuleBound
