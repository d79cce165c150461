import RuleBound.Cipher.Aes

/-!
AES-256 in Galois/counter mode with nonces of twelve bytes, tags of sixteen bytes and no
associated data.

Encryption adds a key stream to the message, byte by byte, so adding it again decrypts. The tag
is a polynomial hash of the ciphertext, masked by the first block of the key stream.
-/

namespace RuleBound.Gcm

-- Powers are those of the core library, whichever others are known.
attribute [local instance (high)] instPowNat

/-- Multiply `z + x·v` out in the field of `2^128` elements, where bit `index - 1` of `x` is the
next coefficient and `v` its factor. Bits count from the high end. -/
def multiplyFrom (x : Nat) : (index z v : Nat) → Nat
  | 0, z, _ => z
  | index + 1, z, v =>
    let z := if x.testBit index then z ^^^ v else z
    let v := if v.testBit 0 then (v / 2) ^^^ (0xe1 * 2 ^ (120 : Nat)) else v / 2
    multiplyFrom x index z v

/-- The product in the field of `2^128` elements. -/
def multiply (x y : Nat) : Nat := multiplyFrom x 128 0 y

/-- Hash the blocks of a message, the last one filled up with zeros, onto a value; `count` bounds
their number. -/
def hashBlocks (subkey : Nat) : (count value : Nat) → Bytes → Nat
  | 0, value, _ => value
  | count + 1, value, bytes =>
    let block := bytes.take 16
    let filled := block ++ List.replicate (16 - block.length) 0
    hashBlocks subkey count (multiply (value ^^^ natOfBytes filled) subkey) (bytes.drop 16)

/-- The polynomial hash of a ciphertext and its length. -/
def hash (subkey : Nat) (ciphertext : Bytes) : Nat :=
  let value := hashBlocks subkey ((ciphertext.length + 15) / 16) 0 ciphertext
  multiply (value ^^^ (8 * ciphertext.length)) subkey

/-- The counter block of a nonce. -/
def counterBlock (nonce : Bytes) (counter : Nat) : Bytes :=
  nonce ++ bytesOfNat 4 (counter % 2 ^ (32 : Nat))

/-- `count` blocks of key stream from a counter on. -/
def keyStream (keys : List Bytes) (nonce : Bytes) : (count counter : Nat) → Bytes
  | 0, _ => []
  | count + 1, counter =>
    Aes.encryptWith keys (counterBlock nonce counter) ++ keyStream keys nonce count (counter + 1)

/-- Add the key stream to a message. -/
def crypt (keys : List Bytes) (nonce message : Bytes) : Bytes :=
  Aes.xorBytes message (keyStream keys nonce ((message.length + 15) / 16) 2)

/-- The tag of a ciphertext. -/
def tag (keys : List Bytes) (nonce ciphertext : Bytes) : Bytes :=
  let subkey := natOfBytes (Aes.encryptWith keys (List.replicate 16 0))
  Aes.xorBytes (bytesOfNat 16 (hash subkey ciphertext))
    (Aes.encryptWith keys (counterBlock nonce 1))

/-- Encrypt a message; the tag follows the ciphertext. -/
def encrypt (key nonce message : Bytes) : Bytes :=
  let keys := Aes.roundKeys key
  let ciphertext := crypt keys nonce message
  ciphertext ++ tag keys nonce ciphertext

/-- Decrypt a ciphertext with its tag; `none` if the tag is missing or wrong. -/
def decrypt? (key nonce sealed : Bytes) : Option Bytes :=
  if sealed.length < 16 then none
  else
    let keys := Aes.roundKeys key
    let ciphertext := sealed.take (sealed.length - 16)
    if tag keys nonce ciphertext = sealed.drop (sealed.length - 16) then
      some (crypt keys nonce ciphertext)
    else none

end RuleBound.Gcm
