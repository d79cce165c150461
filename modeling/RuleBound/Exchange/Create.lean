import RuleBound.Exchange.Session
import RuleBound.Rules.Compile
import RuleBound.Validation.Intent
import RuleBound.Metadata
import RuleBound.Link

/-!
Creating objects: an intent is validated and compiled, its content sealed under a fresh key and
stored, the metadata stored beside it, and the object minted. The answer is the capability link.

The registry comes last, so a failure of the store leaves no trace in it.
-/

namespace RuleBound

/-- An object that was created. -/
structure CreatedObject where
  id : Int
  link : String
  rulesHash : String
  metadataPointer : String
  contentPointer : String
  deriving DecidableEq, Repr

namespace CreatedObject

/-- A created object as a document. -/
def toDocument (o : CreatedObject) : Document :=
  .object [("rdo_id", .integer o.id), ("link", .text o.link), ("rules_hash", .text o.rulesHash),
    ("metadata_pointer", .text o.metadataPointer), ("content_pointer", .text o.contentPointer)]

end CreatedObject

/-- What is noted about compiled rules. -/
def CompiledRules.note (c : CompiledRules) : Note where
  level := .debug
  origin := .compiler
  message := "Rules compiled"
  operation := .text "compile"
  context := [("rdo_type", .text c.sheet.kind.name), ("digest", .text c.digest)]

/-- What is noted about a fresh key. -/
def ContentKey.freshNote : Note where
  level := .debug
  origin := .sealing
  message := "Content key generated"
  operation := .text "generate_key"
  context := [("bits", .integer 256)]

/-- What is noted about sealed content. -/
def sealedNote (size : Nat) : Note where
  level := .debug
  origin := .sealing
  message := "Payload sealed"
  operation := .text "encrypt"
  context := [("plaintext_bytes", .integer size)]

/-- What is noted about a minted object. -/
def mintedNote (id : Int) (kind : ObjectKind) (rulesHash : String) : Note where
  level := .info
  origin := .registry
  message := "RDO created"
  operation := .text "create"
  context := [("rdo_id", .integer id), ("rdo_type", .text kind.name),
    ("rules_hash", .text rulesHash)]

namespace Task

variable {σ : Type}

/-- Draw a key. -/
def drawKey (c : Client) : Task σ ContentKey := do
  let s ← get
  set { s with draws := { s.draws with keys := s.draws.keys + 1 } }
  note c [ContentKey.freshNote]
  return c.surroundings.source.key s.draws.keys

/-- Draw a nonce. -/
def drawNonce (c : Client) : Task σ Bytes := do
  let s ← get
  set { s with draws := { s.draws with nonces := s.draws.nonces + 1 } }
  return c.surroundings.source.nonce s.draws.nonces

/-- Seal content under a key and a fresh nonce. A text is sealed as its bytes; any other content
that is no bytes has the wrong type. -/
def sealContent (c : Client) (key : ContentKey) (content : FileContent) :
    Task σ (Bytes × String) := do
  let content ← match content with
    | .other (.text s) => ofExcept (Payload.textContent (.text s))
    | content => pure content
  let nonce ← drawNonce c
  match content with
  | .bytes content => do
    note c [sealedNote content.length]
    return (Gcm.encrypt key.bytes nonce content, Text.toHex nonce)
  | .other _ => throw .wrongType

/-- Mint an object. -/
def mint (c : Client) (m : MintRequest) (kind : ObjectKind) : Task σ Int := do
  let s ← get
  let (draws, registry, minted) := s.registry.create c.surroundings s.draws m
  set { s with draws, registry }
  let (id, _) ← ofExcept minted
  note c [mintedNote id kind (m.rulesHash.asText?.getD "")]
  return id

end Task

namespace Client

variable {σ : Type}

/-- The metadata of an object that is being created. -/
def metadataOf (c : Client) (intent : Intent) (rulesHash pointer nonce : String) : Metadata where
  name := intent.name.asText?.getD ""
  description := intent.description.asText?.getD ""
  image := c.image
  rulesHash := rulesHash
  pointer := pointer
  nonce := nonce
  createdAt := .integer c.surroundings.now

/-- Create an object within a correlation. -/
def createWithin (c : Client) (store : ContentStore σ) (intent : Intent) :
    Task σ CreatedObject := do
  let _ ← Task.ofExcept (intent.review >>= Review.toExcept)
  let compiled ← Task.ofExcept (intent.compile (.integer c.surroundings.now))
  Task.note c [compiled.note]
  let key ← Task.drawKey c
  let content ← Task.ofExcept intent.payload.content
  let (ciphertext, nonce) ← Task.sealContent c key content
  let contentPointer ← Task.throughStore c "ciphertext upload" fun s => store.put s ciphertext
  let metadata := c.metadataOf intent compiled.digest contentPointer nonce
  let metadataPointer ← Task.throughStore c "metadata upload" fun s =>
    store.putDocument s metadata.toDocument
  let rules ← Task.ofExcept compiled.sheet.toCompact
  let id ← Task.mint c {
    creator := .text c.identity
    kind := intent.kind
    rulesHash := .text compiled.digest
    rules := .member rules
    pointer := .text metadataPointer
    whitelist := intent.whitelist } compiled.sheet.kind
  return {
    id := id
    link := CapabilityLink.build ⟨c.origin, .integer id, key⟩
    rulesHash := compiled.digest
    metadataPointer := metadataPointer
    contentPointer := contentPointer }

/-- Create an object. -/
def create (c : Client) (store : ContentStore σ) (intent : Intent) : Task σ CreatedObject := do
  let correlation ← Task.correlate c
  let created ← (c.within correlation).createWithin store intent
  Task.note c [Note.ended .exchange "create_object" (.real (Binary64.zero false)) true
    [("rdo_id", .integer created.id), ("rules_hash", .text created.rulesHash)]]
  return created

end Client

end RuleBound
