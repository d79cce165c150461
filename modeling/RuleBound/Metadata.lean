import RuleBound.Schema.Catalog

/-!
Metadata: the public document that is stored beside the ciphertext. It names the rules by their
hash and says where the ciphertext is and under which nonce it was sealed.
-/

namespace RuleBound

/-- What is publicly known of an object's content. -/
structure Metadata where
  name : String
  description : String
  image : Document
  rulesHash : String
  pointer : String
  nonce : String
  /-- A whole number; a document may write it as a double. -/
  createdAt : Document
  deriving DecidableEq

namespace Metadata

/-- The image of an object that has none of its own. -/
def defaultImage : String := "ipfs://bafkreidmvnotre7527r4jjk3v3i5h3qaqy2q2f22cbe62g3aa22a4z3w7u"

/-- Metadata as a document. -/
def toDocument (m : Metadata) : Document :=
  .object [("name", .text m.name), ("description", .text m.description), ("image", m.image),
    ("properties", .object [("rulesHash", .text m.rulesHash),
      ("encryptedContentCID", .text m.pointer), ("iv", .text m.nonce),
      ("createdAt", m.createdAt)])]

/-- The parts of metadata side by side. -/
def toFields (m : Metadata) : List (String × Document) :=
  [("name", .text m.name), ("description", .text m.description), ("image", m.image),
    ("rules_hash", .text m.rulesHash), ("content_pointer", .text m.pointer),
    ("iv", .text m.nonce), ("created_at", m.createdAt)]

/-- Read metadata from a document, which has to fit the schema. -/
def ofDocument (d : Document) : Except Fault Metadata :=
  match Schema.metadata.report d with
  | [] =>
    let properties := d.getD "properties"
    .ok {
      name := d.textAt "name"
      description := d.textAt "description"
      image := d.getD "image"
      rulesHash := properties.textAt "rulesHash"
      pointer := properties.textAt "encryptedContentCID"
      nonce := properties.textAt "iv"
      createdAt := properties.getD "createdAt" }
  | lines => .error (.invalid (lines.map fun l => ⟨"metadata", l⟩))

end Metadata

end RuleBound
