import RuleBound.Exchange.Create
import RuleBound.Registry.Proof

/-!
Access: an action is requested through a capability link and, if the registry allows it, the
content is fetched and opened.

The metadata is fetched before the request, so a store that does not have it costs the recipient
nothing. The content is fetched after it: a request that was allowed stays on record if the store
fails then. After a refusal nothing is fetched.
-/

namespace RuleBound

/-- What came of requesting access. -/
structure AccessResult where
  allowed : Bool
  reason : String
  /-- The content, if access was allowed. -/
  content : Option Bytes
  reference : String
  objectId : Int
  action : Action
  deriving DecidableEq

namespace AccessResult

/-- The field that holds content: as text if it is UTF-8, else in base 64. -/
def contentField (content : Bytes) : String × Document :=
  match Text.fromUtf8? content with
  | some s => ("plaintext", .text s)
  | none => ("plaintext_b64", .text (Text.toBase64 content))

/-- The result of an access as a document. -/
def toDocument (r : AccessResult) : Document :=
  .object ([("rdo_id", .integer r.objectId), ("action", .text r.action.name),
    ("allowed", .bool r.allowed), ("reason", .text r.reason), ("tx_ref", .text r.reference)] ++
    (r.content.map contentField).toList)

end AccessResult

namespace Outcome

/-- What is noted about a verdict. -/
def notes (o : Outcome) : List Note :=
  let base : List (String × Document) :=
    [("rdo_id", .integer o.objectId), ("action", .text o.action.name)]
  let locked : List Note :=
    match o.refusal with
    | some (.forbidden _ _ true) =>
      [{ level := .warning, origin := .registry, message := "RDO locked after violation",
         context := base }]
    | _ => []
  locked ++ [match o.refusal with
    | none => {
        level := .info
        origin := .registry
        message := "Action allowed"
        operation := .text "request_action"
        context := base }
    | some why => {
        level := .info
        origin := .registry
        message := "Action refused"
        operation := .text "request_action"
        context := base ++ [("reason", .text why.reason)] }]

end Outcome

/-- What is noted when sealed content could not be opened. -/
def OpenFault.note (f : OpenFault) (nonceBytes : Nat) : Note where
  level := .warning
  origin := .sealing
  message := "Decryption rejected"
  operation := .text "decrypt"
  errorCode := .text (match f with
    | .notHex => "BAD_ENCODING"
    | .nonceSize => "BAD_IV"
    | .forged => "AUTH_FAILED")
  context := if f = .nonceSize then [("iv_bytes", .integer nonceBytes)] else []

namespace Task

variable {σ : Type}

/-- Decide a request. -/
def request (c : Client) (id action : Document) (context : Given Bytes) (actor : Document) :
    Task σ Outcome := do
  let s ← get
  let (draws, registry, result) := s.registry.request c.surroundings s.draws id action context actor
  set { s with draws, registry }
  let outcome ← ofExcept result
  note c outcome.notes
  return outcome

/-- Open sealed content. -/
def openContent (c : Client) (key : ContentKey) (content : Sealed) : Task σ Bytes :=
  match key.unseal content with
  | .ok opened => pure opened
  | .error f => do
    note c [f.note ((Text.fromHex? content.nonce).getD []).length]
    throw (.sealed f)

end Task

namespace Client

variable {σ : Type}

/-- Fetch the metadata that a pointer points to. -/
def fetchMetadata (c : Client) (store : ContentStore σ) (pointer : Document) :
    Task σ Metadata := do
  let d ← Task.throughStore c "metadata fetch" fun s => store.getDocument s pointer
  Task.ofExcept (Metadata.ofDocument d)

/-- What is noted about a refused access. -/
def refusedNote (o : Outcome) : Note where
  level := .info
  origin := .exchange
  message := "Access refused"
  operation := .text "access_object"
  context := [("rdo_id", .integer o.objectId), ("action", .text o.action.name),
    ("reason", .text o.reason), ("tx_ref", .text o.reference)]

/-- The bytes of a context. -/
def contextBytes : Given Bytes → Except Fault Bytes
  | .member context => .ok context
  | .other d => d.toBytes

/-- Request access within a correlation. -/
def accessWithin (c : Client) (store : ContentStore σ) (link : CapabilityLink) (action : Action)
    (context : Given Bytes) : Task σ AccessResult := do
  let (id, record) ← Task.ofExcept ((← get).registry.find link.objectId)
  let metadata ← c.fetchMetadata store record.pointer
  if .text metadata.rulesHash ≠ record.rulesHash then
    throw (.storage (.rulesDiffer id) record.pointer)
  let context ← Task.ofExcept (contextBytes context)
  let outcome ← Task.request c (.integer id) (.integer action.number) (.member context)
    (.text c.identity)
  if !outcome.allowed then
    Task.note c [refusedNote outcome]
    return ⟨false, outcome.reason, none, outcome.reference, id, action⟩
  let ciphertext ← Task.throughStore c "ciphertext fetch" fun s =>
    store.get s (.text metadata.pointer)
  let content ← Task.openContent c link.key ⟨metadata.nonce, Text.toHex ciphertext⟩
  return ⟨true, "", some content, outcome.reference, id, action⟩

/-- Request an action through a link that has been read. -/
def accessThrough (c : Client) (store : ContentStore σ) (link : CapabilityLink)
    (action : Document) (context : Given Bytes) : Task σ AccessResult := do
  let action ← Task.ofExcept (Action.ofDocument action)
  let correlation ← Task.correlate c
  let result ← (c.within correlation).accessWithin store link action context
  if result.allowed then
    Task.note c [Note.ended .exchange "access_object" (.real (Binary64.zero false)) true
      [("rdo_id", .integer result.objectId), ("action", .text action.name)]]
  return result

/-- Request an action through a link. -/
def access (c : Client) (store : ContentStore σ) (link action : Document)
    (context : Given Bytes) : Task σ AccessResult := do
  let link ← Task.ofExcept (CapabilityLink.parse link)
  c.accessThrough store link action context

end Client

end RuleBound
