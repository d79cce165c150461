import RuleBound.Registry.Record
import RuleBound.Rules.Sheet
import RuleBound.Digest.Compare
import RuleBound.Event.Log

/-!
The registry: it mints objects, decides requests on them and records both as events.

Identifiers of objects rise from one. Every mint and every verdict appends one event to the
stream of its object. A request that is malformed or names no object is a fault and changes
nothing.
-/

namespace RuleBound

/-- What a creator hands in to mint an object, unchecked. -/
structure MintRequest where
  creator : Document
  kind : Given ObjectKind
  rulesHash : Document
  rules : Given CompactRules
  pointer : Document
  /-- A sequence of identities, or null. -/
  whitelist : Document
  deriving DecidableEq

/-- What is needed to mint an object, checked. -/
structure Minting where
  creator : String
  kind : ObjectKind
  rulesHash : String
  rules : CompactRules
  pointer : String
  whitelist : List Document
  deriving DecidableEq

/-- Whether rules are ones that a legacy sheet can express: all but the expiry and whether
forwarding is forbidden agrees with what legacy rules have there. -/
def CompactRules.isLegacyShaped (r : CompactRules) : Bool :=
  r.forbidCopy.isNumber 0 && r.forbidExport.isNumber 0 && r.hasScope .any && !r.limitsUses &&
    r.lockOnViolation.isNumber 0 && r.requireIdentity.isNumber 0 && r.isLegacy

/-- The legacy sheet that rules are taken from. -/
def CompactRules.legacySheet (r : CompactRules) : Except Fault LegacySheet := do
  return ⟨← r.expiry.toInteger, !r.forbidForward.isTrue⟩

namespace MintRequest

/-- The identities of a whitelist as text, each once. An empty or missing one has none. -/
def members (whitelist : Document) : Except Fault (List Document) :=
  if whitelist.isTrue then do
    distinctMembers ((← (← whitelist.toItems).mapM Document.spelled).map .text)
  else .ok []

/-- The text of a value that is there and not blank. -/
def required (field message : String) (d : Document) : Except Fault String :=
  match Request.identity? d with
  | some s => .ok s
  | none => .error (.malformed field message)

/-- The kind of object that was asked for. -/
def checkKind (kind : Given ObjectKind) : Except Fault ObjectKind :=
  match ObjectKind.ofGiven kind, kind with
  | .ok k, _ => .ok k
  | .error _, .other d =>
    .error (d.faultShowing (.malformed "rdo_type" ("out of range: " ++ d.quoted)))
  | .error f, .member _ => .error f

/-- Check that rules are rules, of a version that is known, with numbers that are not
negative. -/
def checkRules (rules : Given CompactRules) : Except Fault CompactRules :=
  match rules with
  | .other d => .error (.malformed "rules" ("expected CompactRules, got " ++ d.typeName))
  | .member r => do
    if !r.version.isNumber 0 && !r.version.isNumber 1 then
      throw (r.version.faultShowing
        (.malformed "rules.version" ("unsupported version " ++ r.version.shown)))
    let zero : Document := .integer 0
    if ← r.expiry.isBelow zero then throw negativeLimit
    if ← r.maxUses.isBelow zero then throw negativeLimit
    return r
where
  /-- The fault of a limit below zero. -/
  negativeLimit : Fault := .malformed "rules" "expiry and max_uses must be non-negative"

/-- Check that there is a whitelist exactly if the scope is a list. -/
def checkWhitelist (rules : CompactRules) (whitelist : List Document) : Except Fault Unit :=
  if rules.hasScope .list then
    if whitelist.isEmpty then
      .error (.malformed "whitelist" "LIST access requires a non-empty whitelist")
    else .ok ()
  else if whitelist.isEmpty then .ok ()
  else .error (.malformed "whitelist" "whitelist is only allowed with LIST access")

/-- Check that legacy rules are the ones that their hash commits to. -/
def checkLegacy (r : CompactRules) (rulesHash : String) : Except Fault Unit :=
  if !r.isLegacy then .ok ()
  else if !r.isLegacyShaped then
    .error (.malformed "rules" "legacy rules carry only expiry and forward policy")
  else do
    let expected ← (← r.legacySheet).digest
    if ← sameDigest expected rulesHash then return ()
    else throw (.malformed "rules_hash" "provided rules do not match stored hash")

/-- Check a mint request. The first fault in this order is the one that is told. -/
def check (m : MintRequest) : Except Fault Minting := do
  let whitelist ← members m.whitelist
  let creator ← required "creator" "creator identity is required" m.creator
  let rulesHash ← match m.rulesHash with
    | .text s =>
      if Text.isDigest s then .ok s
      else .error (.malformed "rules_hash" "must be 64 lowercase hex chars")
    | _ => .error (.malformed "rules_hash" "must be 64 lowercase hex chars")
  let kind ← checkKind m.kind
  let rules ← checkRules m.rules
  let pointer ← required "metadata_pointer" "metadata pointer is required" m.pointer
  checkWhitelist rules whitelist
  checkLegacy rules rulesHash
  return ⟨creator, kind, rulesHash, rules, pointer, whitelist⟩

end MintRequest

/-- The state of the registry. Records stand under the identifiers that they were minted or read
with. -/
structure Registry where
  records : List (Int × Record) := []
  nextId : Int := 1
  log : EventLog := {}
  deriving DecidableEq, Inhabited

/-- The verdict on a request, as it was recorded. -/
structure Outcome where
  objectId : Int
  actor : String
  action : Action
  refusal : Option Refusal
  reference : String
  event : Event
  deriving DecidableEq

namespace Outcome

/-- Whether the request was allowed. -/
def allowed (o : Outcome) : Bool := o.refusal.isNone

/-- Why the request was refused; empty if it was allowed. -/
def reason (o : Outcome) : String := (o.refusal.map Refusal.reason).getD ""

end Outcome

namespace Registry

/-- The record that stands under an identifier. -/
def record? (reg : Registry) (id : Int) : Option Record :=
  (reg.records.find? fun r => r.1 == id).map Prod.snd

/-- Records with a record put under an identifier, or added at the end. -/
def putRecord : List (Int × Record) → Int → Record → List (Int × Record)
  | [], id, r => [(id, r)]
  | s :: rest, id, r => if s.1 = id then (id, r) :: rest else s :: putRecord rest id r

/-- The identifier that a caller names and the record under it. -/
def find (reg : Registry) (id : Document) : Except Fault (Int × Record) :=
  match id with
  | .integer n =>
    match reg.record? n with
    | some r => .ok (n, r)
    | none => .error (id.faultShowing (.notFound id))
  | d => .error (d.faultShowing (.malformed "rdo_id" ("expected integer id, got " ++ d.quoted)))

/-- The record of an object that a caller names. -/
def read (reg : Registry) (id : Document) : Except Fault Record := (reg.find id).map Prod.snd

/-- The name of an object's stream. A number too long to be written has none. -/
def streamOf (id : Document) : Except Fault String := id.spelled

/-- The record of a new object. -/
def newRecord (id now : Int) (m : Minting) : Record where
  id := .integer id
  creator := .text m.creator
  kind := .member m.kind
  rulesHash := .text m.rulesHash
  rules := .member m.rules
  whitelist := .member m.whitelist
  pointer := .text m.pointer
  createdAt := .integer now
  locked := .bool false
  violations := .integer 0
  usesRemaining := m.rules.maxUses

/-- The event that tells of a new object. -/
def createdEvent (id : Int) (m : Minting) (stamp : Stamp) : Event where
  id := .text stamp.eventId
  timestamp := .text stamp.timestamp
  correlation := .null
  body := .created (.integer id) (.text m.creator) (.integer m.kind.number) (.text m.rulesHash)
    (.text m.pointer)

/-- The event that tells of a verdict. -/
def verdictEvent (r : Record) (req : Request) (refusal : Option Refusal) (correlation : Document)
    (stamp : Stamp) : Event where
  id := .text stamp.eventId
  timestamp := .text stamp.timestamp
  correlation := correlation
  body :=
    match refusal with
    | none => .allowed r.id (.text req.actor) (.integer req.action.number)
        (.text (req.action.digest req.context))
    | some why => .refused r.id (.text req.actor) (.integer req.action.number) r.rulesHash
        (.text why.reason)

/-- Record an event in the stream of an object. -/
def emit (reg : Registry) (id : Document) (event : Event) : Registry × Except Fault LogRecord :=
  match streamOf id with
  | .error f => (reg, .error f)
  | .ok stream =>
    let (log, recorded) := reg.log.append (.text stream) event
    ({ reg with log }, recorded)

/-- Mint an object: the registry after it, and the identifier and the event. The record stays also
if its event cannot be recorded. -/
def mint (reg : Registry) (now : Int) (stamp : Stamp) (m : Minting) :
    Registry × Except Fault (Int × Event) :=
  let id := reg.nextId
  let event := createdEvent id m stamp
  let reg := { reg with
    records := putRecord reg.records id (newRecord id now m)
    nextId := id + 1 }
  let (reg, recorded) := reg.emit (.integer id) event
  (reg, recorded.map fun _ => (id, event))

/-- Decide a request on an object: the refusal, if any, and the record after it. -/
def verdict (reg : Registry) (now : Int) (id : Document) (req : Request) :
    Except Fault (Int × Option Refusal × Record) := do
  let (key, r) ← reg.find id
  let refusal ← r.refusal? now req.action req.actor
  return (key, refusal, ← r.after refusal)

/-- Put a verdict on record: the registry after it, and the outcome. The changes of the record stay
also if the event cannot be recorded. -/
def conclude (reg : Registry) (stamp : Stamp) (correlation : Document) (req : Request) (key : Int)
    (refusal : Option Refusal) (r : Record) : Registry × Except Fault Outcome :=
  let event := verdictEvent r req refusal correlation stamp
  let reg := { reg with records := putRecord reg.records key r }
  let (reg, recorded) := reg.emit r.id event
  (reg, recorded.map fun recorded =>
    ⟨key, req.actor, req.action, refusal, recorded.reference, event⟩)

/-- Check a mint request and mint the object, drawing an identifier for its event. -/
def create (reg : Registry) (s : Surroundings) (d : Draws) (m : MintRequest) :
    Draws × Registry × Except Fault (Int × Event) :=
  match m.check with
  | .error f => (d, reg, .error f)
  | .ok m => ({ d with eventIds := d.eventIds + 1 }, reg.mint s.now (s.stamp d) m)

/-- Decide a request that has been checked. A correlation is drawn before the object is looked
up, an identifier for the event after the verdict. -/
def requestChecked (reg : Registry) (s : Surroundings) (d : Draws) (id : Document)
    (req : Request) : Draws × Registry × Except Fault Outcome :=
  let (correlation, d) := s.correlate d
  match reg.verdict s.now id req with
  | .error f => (d, reg, .error f)
  | .ok (key, refusal, r) =>
    ({ d with eventIds := d.eventIds + 1 },
      reg.conclude (s.stamp d) correlation req key refusal r)

/-- Check a request and decide it. -/
def request (reg : Registry) (s : Surroundings) (d : Draws) (id action : Document)
    (context : Given Bytes) (actor : Document) : Draws × Registry × Except Fault Outcome :=
  match Request.check action context actor with
  | .error f => (d, reg, .error f)
  | .ok req => reg.requestChecked s d id req

/-- All events, or those of one object. -/
def events (reg : Registry) (id : Document) : List LogRecord :=
  match id with
  | .null => reg.log.records
  | d => reg.log.stream (.text d.shown)

/-- Replace a field of the record that stands under a number, in whatever numeric type. -/
def replaceField (reg : Registry) (id : Document) (name : String) (value : Document) :
    Except Fault Registry :=
  match reg.records.find? fun r => id.isNumber r.1 with
  | some (key, r) => do
    return { reg with records := putRecord reg.records key (← r.replaceField name value) }
  | none => .error (if id.isScalar then .missing id else .wrongType)

end Registry

end RuleBound
