import RuleBound.Key
import RuleBound.Proofs.Cipher.Gcm
import RuleBound.Proofs.Document.Sameness
import RuleBound.Proofs.Text.Base64
import RuleBound.Proofs.Text.Hex
import RuleBound.Fault

/-!
Content keys. A key that was exported is imported as the same key, and so is any document that names
its kind and its material; no other text is imported.

Sealing and opening are inverse to each other. Content comes only out of a nonce and of the bytes that
it seals to under that nonce, however both are spelt; any two other texts end in a fault, and whoever
sorts faults by their family sees one fault only.
-/

namespace RuleBound

open Document (Every IsReadable HasWholeTexts)

theorem Text.isWhole_toBase64Url (bytes : Bytes) : IsWhole (toBase64Url bytes) := by
  intro c mem
  rw [toList_toBase64Url] at mem
  obtain ⟨n, within, rfl⟩ := List.mem_map.mp mem
  have small := toNat_addressChar_lt n (sextets_lt bytes n within)
  exact Document.isStandIn_eq_false_of_lt (by omega)

namespace ContentKey

section Text

open Document (JsonStyle bracketed jsonText write write_object fieldText)

/-- The exported text of a key, field by field. -/
theorem exported_eq (key : ContentKey) : key.exported =
    bracketed .compact 0 "\x7b" "\x7d" [
      jsonText true "alg" ++ ":" ++ jsonText true algorithm, jsonText true "ext" ++ ":true",
      jsonText true "k" ++ ":" ++ jsonText true (Text.toBase64Url key.bytes),
      jsonText true "key_ops" ++ ":" ++ write .compact 1 (.ofTexts ["encrypt", "decrypt"]),
      jsonText true "kty" ++ ":" ++ jsonText true "oct"] := by
  have fields : JsonStyle.compact.order [("alg", Document.text algorithm), ("ext", .bool true),
      ("k", .text (Text.toBase64Url key.bytes)), ("key_ops", .ofTexts ["encrypt", "decrypt"]),
      ("kty", .text "oct")] = [("alg", Document.text algorithm), ("ext", .bool true),
      ("k", .text (Text.toBase64Url key.bytes)), ("key_ops", .ofTexts ["encrypt", "decrypt"]),
      ("kty", .text "oct")] :=
    JsonStyle.order_eq rfl (.refl _) (by simp only [List.map]; decide)
  rw [exported, Document.toJson, toDocument, write_object, fields]
  simp only [List.map, fieldText]
  rfl

end Text

theorem readable_toDocument (key : ContentKey) : Document.Readable key.toDocument := by
  have names : ∀ name ∈ ["alg", "ext", "k", "key_ops", "kty"], Text.IsWhole name := by decide
  simp only [List.forall_mem_cons] at names
  simp [toDocument, Document.ofTexts, IsReadable, names]

/-- What an exported key is read back as names the same kind of key and the same material. -/
theorem ofDocument_reread (key : ContentKey) :
    ofDocument (key.toDocument.reread .compact) = .ok key := by
  have readable := key.readable_toDocument
  have kind := Document.get?_reread .compact readable "kty" rfl
  have named := Document.get?_reread .compact readable "alg" rfl
  have material := Document.get?_reread .compact readable "k" rfl
  have octets : Text.IsWhole "oct" := by decide
  have algorithm' : Text.IsWhole algorithm := by decide
  rw [Document.reread, octets.reread_eq] at kind
  rw [Document.reread, algorithm'.reread_eq] at named
  rw [Document.reread, (Text.isWhole_toBase64Url key.bytes).reread_eq] at material
  unfold ofDocument ofDocument.material
  simp only [kind, Document.getD, named, Option.getD_some, if_true, material,
    Text.fromBase64Url_toBase64Url, dif_pos key.size_eq]

/-- A key comes back from its exported text. -/
theorem importText_exported (key : ContentKey) : importText key.exported = .ok key := by
  have parsed := Document.parse_toJson Document.JsonStyle.isSeparating_compact
    key.readable_toDocument
  unfold importText exported
  rw [Document.read_of_parse parsed]
  exact key.ofDocument_reread

/-! ## Exports of any kind -/

section Import

variable {d : Document} {key : ContentKey}

end Import

/-- What was sealed under a key and a nonce is opened. -/
theorem unseal_seal (key : ContentKey) {nonce : Bytes} (size : nonce.length = nonceSize)
    (content : Bytes) : key.unseal (key.seal nonce content) = .ok content := by
  unfold ContentKey.unseal ContentKey.seal
  simp only [Text.fromHex?_toHex, size, ne_eq, not_true_eq_false, if_false,
    Gcm.decrypt?_encrypt size key.size_eq]

open Text (SpellsHex)

/-- What two texts come to under a key, by the bytes that they spell. -/
inductive Opens (key : ContentKey) (given : Sealed) : Except OpenFault Bytes → Prop
  /-- One of them spells no bytes. -/
  | unspelt
      (none : ∀ nonce ciphertext,
        ¬(SpellsHex given.nonce nonce ∧ SpellsHex given.ciphertext ciphertext)) :
      Opens key given (.error .notHex)
  /-- The nonce has the wrong size. -/
  | nonceSize {nonce ciphertext : Bytes} (first : SpellsHex given.nonce nonce)
      (second : SpellsHex given.ciphertext ciphertext) (odd : nonce.length ≠ RuleBound.nonceSize) :
      Opens key given (.error .nonceSize)
  /-- No content is sealed to these bytes. -/
  | forged {nonce ciphertext : Bytes} (first : SpellsHex given.nonce nonce)
      (second : SpellsHex given.ciphertext ciphertext) (size : nonce.length = RuleBound.nonceSize)
      (none : ∀ content, Gcm.encrypt key.bytes nonce content ≠ ciphertext) :
      Opens key given (.error .forged)
  /-- Some content is sealed to these bytes. -/
  | content {nonce content : Bytes} (first : SpellsHex given.nonce nonce)
      (size : nonce.length = RuleBound.nonceSize)
      (second : SpellsHex given.ciphertext (Gcm.encrypt key.bytes nonce content)) :
      Opens key given (.ok content)

section Opening

variable {key : ContentKey} {given : Sealed}

/-- What opening does with spelt bytes. -/
theorem unseal_of_spelt {nonce ciphertext : Bytes} (first : SpellsHex given.nonce nonce)
    (second : SpellsHex given.ciphertext ciphertext) : key.unseal given =
      if nonce.length ≠ nonceSize then .error .nonceSize
      else (Gcm.decrypt? key.bytes nonce ciphertext).elim (.error .forged) .ok := by
  unfold ContentKey.unseal
  rw [Text.fromHex?_eq_some_iff.mpr first, Text.fromHex?_eq_some_iff.mpr second]
  simp only
  split
  · rfl
  · split <;> rename_i opened <;> rw [opened] <;> rfl

theorem Opens.unseal_eq {result : Except OpenFault Bytes} (opens : Opens key given result) :
    key.unseal given = result := by
  cases opens with
  | unspelt none =>
    unfold ContentKey.unseal
    split
    · rename_i nonce ciphertext first second
      exact absurd ⟨Text.fromHex?_eq_some_iff.mp first, Text.fromHex?_eq_some_iff.mp second⟩
        (none nonce ciphertext)
    · rfl
  | nonceSize first second odd => rw [unseal_of_spelt first second, if_pos odd]
  | @forged nonce ciphertext first second size none =>
    have shut : Gcm.decrypt? key.bytes nonce ciphertext = .none := by
      rw [Option.eq_none_iff_forall_ne_some]
      intro content opened
      exact none content (Gcm.encrypt_of_decrypt? size key.size_eq opened)
    rw [unseal_of_spelt first second, if_neg (not_not_intro size), shut, Option.elim_none]
  | content first size second =>
    rw [unseal_of_spelt first second, if_neg (not_not_intro size),
      Gcm.decrypt?_encrypt size key.size_eq, Option.elim_some]

/-- Any two texts come to something. -/
theorem exists_opens (key : ContentKey) (given : Sealed) : ∃ result, Opens key given result := by
  by_cases spelt : ∃ nonce ciphertext,
      SpellsHex given.nonce nonce ∧ SpellsHex given.ciphertext ciphertext
  · obtain ⟨nonce, ciphertext, first, second⟩ := spelt
    by_cases size : nonce.length = nonceSize
    · by_cases sealed : ∃ content, Gcm.encrypt key.bytes nonce content = ciphertext
      · obtain ⟨content, rfl⟩ := sealed
        exact ⟨_, .content first size second⟩
      · exact ⟨_, .forged first second size fun content same => sealed ⟨content, same⟩⟩
    · exact ⟨_, .nonceSize first second size⟩
  · exact ⟨_, .unspelt fun nonce ciphertext both => spelt ⟨nonce, ciphertext, both⟩⟩

/-- Opening is described by `Opens`. -/
theorem unseal_eq_iff {result : Except OpenFault Bytes} :
    key.unseal given = result ↔ Opens key given result := by
  refine ⟨fun same => ?_, Opens.unseal_eq⟩
  obtain ⟨result', opens⟩ := exists_opens key given
  rw [← same, opens.unseal_eq]
  exact opens

end Opening

/-- Content that is sealed under a nonce grows by the sixteen bytes of its tag and is opened again.
Any two texts come to what their bytes say, so content comes only out of the bytes that it is sealed
to under the given nonce, and all else belongs to one family of faults. -/
theorem unseal_exact (key : ContentKey) {nonce : Bytes} (size : nonce.length = nonceSize)
    (content : Bytes) (given : Sealed) :
    (key.unseal (key.seal nonce content) = .ok content ∧
      SpellsHex (key.seal nonce content).nonce nonce ∧
      ∃ ciphertext, SpellsHex (key.seal nonce content).ciphertext ciphertext ∧
        ciphertext.length = content.length + 16) ∧
    (∀ result, key.unseal given = result ↔ Opens key given result) ∧
    ∀ fault, (Fault.sealed fault).code = "DecryptionError" := by
  have grown := Gcm.length_encrypt size key.size_eq content
  refine ⟨⟨unseal_seal key size content, Text.spellsHex_toHex nonce, _, Text.spellsHex_toHex _, grown⟩,
    fun result => unseal_eq_iff, fun fault => rfl⟩

/-- A key of 32 sevens. -/
def sevens : ContentKey := ⟨List.replicate 32 7, rfl⟩

/-- Two bytes under a nonce of zeros, and a short nonce spelt in either case with a blank. -/
theorem unseal_exact_hi :
    sevens.unseal (sevens.seal (List.replicate 12 0) [0x68, 0x69]) = .ok [0x68, 0x69] ∧
      sevens.unseal ⟨"aB 0c", ""⟩ = .error .nonceSize := by
  have size : (List.replicate 12 (0 : UInt8)).length = nonceSize := rfl
  have short : SpellsHex "aB 0c" [0xab, 0x0c] := Text.fromHex?_eq_some_iff.mp (by decide)
  obtain ⟨⟨opened, -⟩, exactly, -⟩ := unseal_exact sevens size [0x68, 0x69] ⟨"aB 0c", ""⟩
  have odd : [(0xab : UInt8), 0x0c].length ≠ nonceSize := by decide
  exact ⟨opened, (exactly _).mpr (.nonceSize short .done odd)⟩

end ContentKey

end RuleBound
