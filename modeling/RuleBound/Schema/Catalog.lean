import RuleBound.Schema.Basic
import RuleBound.Disk

/-!
The schemas of the two documents that cross the library's border: intents, which creators write,
and metadata, which is stored beside the ciphertext.
-/

namespace RuleBound.Schema

/-- Any text. -/
def string : Schema := .ofType .string

/-- A whole number that is not negative. -/
def count : Schema := .all [.ofType .integer, .minimum 0]

/-- The schema of a payload: texts under known names. -/
def payload : Schema :=
  let names :=
    ["text", "fileName", "mimeType", "contentRef", "content", "url", "scope", "resource"]
  .all (.ofType .object :: names.map (.property · string) ++ [.only names])

/-- The schema of intents. -/
def intent : Schema :=
  .all [.ofType .object,
    .required ["type", "name", "payload"],
    .only ["type", "name", "description", "payload", "allowedUsers", "forbiddenActions",
      "expirySeconds", "violationAction", "maxUses", "requireIdentity", "whitelist"],
    .property "type" (.oneOf ["MESSAGE", "FILE", "LINK", "PERMISSION"]),
    .property "name" (.all [string, .minLength 1, .maxLength 256]),
    .property "description" (.all [string, .maxLength 4096]),
    .property "payload" payload,
    .property "allowedUsers" (.oneOf ["ANY", "LINK", "LIST", "CREATOR_ONLY", "SINGLE_USE"]),
    .property "forbiddenActions"
      (.all [.ofType .array, .items (.oneOf ["FORWARD", "COPY", "EXPORT"])]),
    .property "expirySeconds" count,
    .property "violationAction" (.oneOf ["REFUSE", "LOCK"]),
    .property "maxUses" count,
    .property "requireIdentity" (.oneOf ["ALWAYS", "CONDITIONAL", "NEVER"]),
    .property "whitelist" (.all [.ofType .array, .items (.all [string, .minLength 1])])]

/-- The schema of metadata documents. -/
def metadata : Schema :=
  .all [.ofType .object,
    .required ["name", "description", "image", "properties"],
    .property "name" string,
    .property "description" string,
    .property "image" string,
    .property "properties"
      (.all [.ofType .object,
        .required ["rulesHash", "encryptedContentCID", "iv", "createdAt"],
        .property "rulesHash" (.all [string, .hexText 64]),
        .property "encryptedContentCID" (.all [string, .minLength 1]),
        .property "iv" (.all [string, .hexText 24]),
        .property "createdAt" count])]

/-- The directory that the schemas stand in. -/
def directory : String := "rdo/schemas"

/-- The path of the schema of a name, which may lead out of the directory and back. -/
def path (name : String) : String := Path.join directory (name ++ ".schema.json")

/-- The tree that schemas are looked up in. -/
def catalog : Disk := (({} : Disk).place (path "intent") []).place (path "metadata") []

/-- The schema of a name. A name that no scalar could be is of the wrong type. -/
def named (name : Document) : Except Fault Schema := do
  if !name.isScalar then throw .wrongType
  let path := path name.shown
  match catalog.exists? path, catalog.locate path with
  | .error fault, _ => throw (.disk fault)
  | .ok true, .ok place =>
    return if place.getLast? = some "intent.schema.json" then intent else metadata
  | _, _ => throw (.noSchema path)

end RuleBound.Schema
