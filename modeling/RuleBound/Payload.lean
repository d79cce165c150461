import RuleBound.Rules.Terms
import RuleBound.Document.Canonical

/-!
Payloads: what an object carries. Each kind has a descriptor, which the rules commit to, and
content, which is sealed. The content of a file is not part of its descriptor.
-/

namespace RuleBound

/-- The content of a file: bytes, or some other value in their place. -/
inductive FileContent
  | bytes (value : Bytes)
  | other (value : Document)
  deriving DecidableEq

/-- Content as a document: bytes stand as their hexadecimal digits. -/
def FileContent.toDocument : FileContent → Document
  | .bytes value => .object [("hex", .text (Text.toHex value))]
  | .other value => value

/-- The bytes that content is or stands for. -/
def FileContent.toBytes : FileContent → Except Fault Bytes
  | .bytes value => .ok value
  | .other value => value.toBytes

/-- Whether there is any content. -/
def FileContent.isTrue : FileContent → Bool
  | .bytes value => !value.isEmpty
  | .other value => value.isTrue

/-- What an object carries. Fields are texts in a payload that passed validation. -/
inductive Payload
  | message (text : Document)
  | file (name mimeType : Document) (content : FileContent) (reference : Document)
  | link (url : Document)
  | permission (scope resource : Document)
  deriving DecidableEq

namespace Payload

/-- The media type of a file that names none. -/
def defaultMimeType : String := "application/octet-stream"

/-- The kind of object that a payload makes. -/
def kind : Payload → ObjectKind
  | message _ => .message
  | file _ _ _ _ => .file
  | link _ => .link
  | permission _ _ => .permission

/-- The name of a payload's shape in messages. -/
def shapeName : ObjectKind → String
  | .message => "MessagePayload"
  | .file => "FilePayload"
  | .link => "LinkPayload"
  | .permission => "PermissionPayload"

/-- The fields that the rules commit to. -/
def descriptor : Payload → List (String × Document)
  | message text => [("text", text)]
  | file name mimeType _ reference =>
    [("fileName", name), ("mimeType", mimeType)] ++
      if reference.isTrue then [("contentRef", reference)] else []
  | link url => [("url", url)]
  | permission scope resource => [("resource", resource), ("scope", scope)]

/-- A payload with all its fields. -/
def toDocument (p : Payload) : Document :=
  .object (("kind", .text p.kind.name) :: match p with
    | message text => [("text", text)]
    | file name mimeType content reference =>
      [("file_name", name), ("mime_type", mimeType), ("content", content.toDocument),
        ("content_ref", reference)]
    | link url => [("url", url)]
    | permission scope resource => [("scope", scope), ("resource", resource)])

/-- The bytes of a value that has to be text. -/
def textContent : Document → Except Fault FileContent
  | .text s =>
    match Text.encode s with
    | .ok bytes => .ok (.bytes bytes)
    | .error defect => .error (.notEncodable defect)
  | _ => .error .noPart

/-- What is sealed. -/
def content : Payload → Except Fault FileContent
  | message text => textContent text
  | file _ _ content _ => .ok content
  | link url => textContent url
  | p@(permission _ _) => (Document.object p.descriptor).canonical.map fun s => .bytes (Text.utf8 s)

/-- A field as text, whatever its type. -/
def textField (fields : List (String × Document)) (name : String) : Document :=
  .text ((Document.field? fields name).getD (.text "")).shown

/-- The names of a payload's fields, of which the first ones have to be given, and how many those
are. -/
def fieldNames : ObjectKind → List String × Nat
  | .message => (["text"], 1)
  | .file => (["file_name", "mime_type", "content", "content_ref"], 1)
  | .link => (["url"], 1)
  | .permission => (["scope", "resource"], 2)

/-- A payload whose fields are taken as they are: all that are needed and no others. -/
def ofRaw (kind : Document) (given : List (String × Document)) (content : FileContent) :
    Except Fault Payload := do
  let kind ← ObjectKind.ofName kind
  let (names, needed) := fieldNames kind
  let value (name : String) (default : Document) := (Document.field? given name).getD default
  if !(names.take needed).all (fun n => (Document.field? given n).isSome) ||
      !given.all (fun f => names.contains f.1) then
    throw .wrongType
  match kind with
  | .message => return message (value "text" .null)
  | .file =>
    return file (value "file_name" .null) (value "mime_type" (.text defaultMimeType)) content
      (value "content_ref" .null)
  | .link => return link (value "url" .null)
  | .permission => return permission (value "scope" .null) (value "resource" .null)

/-- The content of a file as a document gives it. -/
def contentField (fields : List (String × Document)) : Except Fault FileContent :=
  match Document.field? fields "content" with
  | none => .ok (.bytes [])
  | some (.text s) => textContent (.text s)
  | some d => .ok (.other d)

/-- The payload of a kind from the fields of a document. -/
def ofFields (kind : ObjectKind) (fields : List (String × Document)) : Except Fault Payload := do
  match kind with
  | .message => return message (textField fields "text")
  | .file =>
    let content ← contentField fields
    let mimeType := match Document.field? fields "mimeType" with
      | some d => if d.isTrue then d.shown else defaultMimeType
      | none => defaultMimeType
    return file (textField fields "fileName") (.text mimeType) content
      ((Document.field? fields "contentRef").getD .null)
  | .link => return link (textField fields "url")
  | .permission => return permission (textField fields "scope") (textField fields "resource")

/-- The payload of a kind from a document. -/
def ofDocument (kind : ObjectKind) : Document → Except Fault Payload
  | .object fields => ofFields kind fields
  | _ => .error .noPart

end Payload

end RuleBound
