import RuleBound.Store.Basic
import RuleBound.Fresh

/-!
The content store of a pinning service: blobs are uploaded to the service, which answers with a
content identifier, and fetched by it from a gateway.

An upload is a form of three parts: the blob as a file, its name, and the version of identifiers
that is asked for. The network is described by what it answers to each request.
-/

namespace RuleBound

/-- An answer of the network: bytes, or a failure. -/
abbrev NetworkAnswer := Except NetworkFault Bytes

/-- A request that was sent. -/
structure SentRequest where
  address : String
  /-- Headers and body of an upload. -/
  upload : Option (List (String × String) × Bytes)
  timeout : Document
  deriving DecidableEq

/-- A request as a document, with the body of an upload in hexadecimal digits. -/
def SentRequest.toDocument (r : SentRequest) : Document :=
  .object <| match r.upload with
  | none => [("method", .text "GET"), ("url", .text r.address), ("timeout", r.timeout)]
  | some (headers, body) =>
    [("method", .text "POST"), ("url", .text r.address), ("timeout", r.timeout),
      ("headers", .object (headers.map fun h => (h.1, .text h.2))),
      ("body", .text (Text.toHex body))]

/-- How the service is reached. -/
structure PinningService where
  token : String
  gateway : String
  timeout : Document
  namePrefix : String
  deriving DecidableEq

/-- The state of the way to the service: what was sent, what the network will answer, and how
many boundaries were drawn. -/
structure PinningState where
  answer : NetworkAnswer
  sent : List SentRequest := []
  boundaries : Nat := 0

namespace PinningService

/-- Where blobs are uploaded to. -/
def uploadAddress : String := "https://api.pinata.cloud/pinning/pinFileToIPFS"

/-- The gateway that is used unless another is named. -/
def defaultGateway : String := "https://gateway.pinata.cloud/ipfs/"

/-- What the names of blobs begin with unless something else is asked for. -/
def defaultName : String := "rdo"

/-- A service with its gateway, which has to be a text, ending in a slash. There is none without
a token. -/
def make (token : String) (gateway timeout : Document) (namePrefix : String) :
    Except Fault PinningService :=
  if token = "" then .error (.storage .noToken .null)
  else
    match gateway with
    | .text gateway =>
      let gateway := if gateway.toList.getLast? = some '/' then gateway else gateway ++ "/"
      .ok ⟨token, gateway, timeout, namePrefix⟩
    | _ => .error .noPart

/-- The name under which a blob is uploaded. -/
def blobName (service : PinningService) (content : Bytes) : String :=
  service.namePrefix ++ "-" ++ String.ofList ((Sha256.ofBytes content).toList.take 16) ++ ".bin"

/-- The form that an upload is. -/
def form (boundary name : String) (content : Bytes) : Bytes :=
  let json (d : Document) := d.toJson .line
  let line := "\r\n"
  let part (head : String) := "--" ++ boundary ++ line ++
    "Content-Disposition: form-data; name=" ++ head
  Text.utf8 (part ("\"file\"; filename=\"" ++ name ++ "\"") ++ line ++
      "Content-Type: application/octet-stream" ++ line ++ line) ++
    content ++
    Text.utf8 (line ++ part "\"pinataMetadata\"" ++ line ++ line ++
      json (.object [("name", .text name)]) ++ line ++
      part "\"pinataOptions\"" ++ line ++ line ++
      json (.object [("cidVersion", .integer 1)]) ++ line ++ "--" ++ boundary ++ "--" ++ line)

/-- The request that uploads a blob. -/
def uploadRequest (service : PinningService) (boundary : String) (content : Bytes) :
    SentRequest where
  address := uploadAddress
  upload := some ([("Authorization", "Bearer " ++ service.token),
    ("Content-type", "multipart/form-data; boundary=" ++ boundary)],
    form boundary (service.blobName content) content)
  timeout := service.timeout

/-- The document that the service answers an upload with. -/
def uploadAnswer (answer : NetworkAnswer) : Except Fault Document :=
  match answer with
  | .error fault => .error (.storage (.uploadBroken fault) .null)
  | .ok content =>
    match Text.fromUtf8 content with
    | .error defect => .error (.storage (.uploadNotUtf8 defect) .null)
    | .ok s =>
      match Document.parse s with
      | .ok d => .ok d
      | .error (.numeralTooLong digits) => .error (.storage (.uploadNumeral digits) .null)
      | .error _ => .error (.storage .uploadNotJson .null)

/-- The content identifier in the answer to an upload. -/
def identifier (answer : Document) : Except Fault Document :=
  match answer.get? "IpfsHash" with
  | some cid => if cid.isTrue then .ok cid else .error (.storage .noIdentifier .null)
  | none => .error (.storage .noIdentifier .null)

/-- What is noted about an uploaded blob. -/
def pinnedNote (cid : Document) (size : Nat) : Note where
  level := .info
  origin := .storage
  message := "Pinned blob"
  operation := .text "put"
  context := [("pointer", cid), ("size", .integer size)]

/-- Upload a blob; the identifier in the answer points to it. -/
def put (service : PinningService) (boundary : Nat → String) (s : PinningState) (content : Bytes) :
    Reply PinningState String :=
  let request := service.uploadRequest (boundary s.boundaries) content
  let after := { s with sent := s.sent ++ [request], boundaries := s.boundaries + 1 }
  match uploadAnswer s.answer >>= identifier with
  | .error f => ⟨.error f, after, []⟩
  | .ok cid => ⟨.ok cid.shown, after, [pinnedNote cid content.length]⟩

/-- Check that a pointer can be a content identifier. -/
def checkPointer (pointer : Document) : Except Fault Unit := do
  if pointer.isTrue then
    if ← pointer.holdsSlash then throw (.storage (.badIdentifier pointer.quoted) pointer)
  else throw (.storage (.badIdentifier pointer.quoted) pointer)

/-- Fetch a blob from the gateway. Nothing is sent for a pointer that is no identifier. -/
def get (service : PinningService) (s : PinningState) (pointer : Document) :
    Reply PinningState Bytes :=
  match checkPointer pointer with
  | .error f => ⟨.error f, s, []⟩
  | .ok () =>
    let request : SentRequest := ⟨service.gateway ++ pointer.shown, none, service.timeout⟩
    let after := { s with sent := s.sent ++ [request] }
    match s.answer with
    | .ok content => ⟨.ok content, after, []⟩
    | .error fault => ⟨.error (.storage (.fetchBroken pointer.shown fault) pointer), after, []⟩

/-- The content store of the service. -/
def store (service : PinningService) (boundary : Nat → String) : ContentStore PinningState :=
  ⟨service.put boundary, service.get⟩

end PinningService

end RuleBound
