import RuleBound.Cipher.Gcm
import RuleBound.Document.Coercion

/-!
Content keys: their exported text, and sealing and opening content under them.

A key is exported as a JSON Web Key with sorted fields and no blanks. Import takes any document
that names the right kind of key; fields that it does not need are ignored. Opening either
returns what was sealed under the same key and nonce or fails, and does not tell a wrong key from
altered content.
-/

namespace RuleBound

/-- A key of 256 bits. -/
structure ContentKey where
  bytes : Bytes
  size_eq : bytes.length = 32
  deriving DecidableEq

namespace ContentKey

/-- A key from its bytes. -/
def ofBytes (bytes : Bytes) : Except Fault ContentKey :=
  if h : bytes.length = 32 then .ok ⟨bytes, h⟩ else .error (.key (.size (8 * bytes.length)))

/-- The algorithm that exported keys name. -/
def algorithm : String := "A256GCM"

/-- The document that an exported key is. -/
def toDocument (key : ContentKey) : Document :=
  .object [("alg", .text algorithm), ("ext", .bool true),
    ("k", .text (Text.toBase64Url key.bytes)), ("key_ops", .ofTexts ["encrypt", "decrypt"]),
    ("kty", .text "oct")]

/-- The exported text of a key. -/
def exported (key : ContentKey) : String := key.toDocument.toJson .compact

/-- The key that a document exports. -/
def ofDocument (d : Document) : Except KeyFault ContentKey :=
  match d.get? "kty" with
  | some (.text "oct") =>
    match d.getD "alg" with
    | .null => material
    | alg => if alg = .text algorithm then material else .error (.algorithm alg.shown)
  | _ => .error .notOctets
where
  /-- The key material of the document. -/
  material : Except KeyFault ContentKey :=
    match d.get? "k" with
    | some (.text k) =>
      match Text.fromBase64Url k with
      | .error _ => .error .material
      | .ok bytes =>
        if h : bytes.length = 32 then .ok ⟨bytes, h⟩ else .error (.size (8 * bytes.length))
    | _ => .error .missing

/-- The key that a text exports. -/
def importText (text : String) : Except KeyFault ContentKey :=
  match Document.read text with
  | .error _ => .error .notDocument
  | .ok d => ofDocument d

/-- What a key shows of itself. -/
def shown : String := "SymmetricKey(<redacted>)"

end ContentKey

/-- The number of bytes of a nonce. -/
def nonceSize : Nat := 12

/-- Sealed content: nonce and ciphertext with its tag, in hexadecimal. -/
structure Sealed where
  nonce : String
  ciphertext : String
  deriving DecidableEq, Repr

/-- Seal content under a key and a nonce. -/
def ContentKey.seal (key : ContentKey) (nonce content : Bytes) : Sealed :=
  ⟨Text.toHex nonce, Text.toHex (Gcm.encrypt key.bytes nonce content)⟩

/-- Open sealed content. -/
def ContentKey.unseal (key : ContentKey) (content : Sealed) : Except OpenFault Bytes :=
  match Text.fromHex? content.nonce, Text.fromHex? content.ciphertext with
  | some nonce, some ciphertext =>
    if nonce.length ≠ nonceSize then .error .nonceSize
    else
      match Gcm.decrypt? key.bytes nonce ciphertext with
      | some bytes => .ok bytes
      | none => .error .forged
  | _, _ => .error .notHex

/-- Open content whose nonce and ciphertext are given as documents; only texts can be opened. -/
def ContentKey.unsealDocument (key : ContentKey) (nonce ciphertext : Document) :
    Except OpenFault Bytes :=
  match nonce, ciphertext with
  | .text nonce, .text ciphertext => key.unseal ⟨nonce, ciphertext⟩
  | _, _ => .error .notHex

end RuleBound
