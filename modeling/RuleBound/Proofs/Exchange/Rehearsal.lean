import Mathlib.Data.Set.Function
import RuleBound.Proofs.Exchange.Progress
import RuleBound.Proofs.Rules.Decoding
import RuleBound.Proofs.Text.Blank

/-!
Rehearsals. A client whose texts, keys and nonces are numbered makes notes, at moment zero; so what
a note puts into a store is known beforehand: the sealed note and the metadata. A store that takes
both makes an object of the note, which everybody may read.
-/

namespace RuleBound

open Document (IsShort)
open Sha256 (ofBytes)

variable {σ : Type}

/-! ## Notes -/

namespace Intent

/-- A note for everybody who has its link. -/
def note (text : String) : Intent where
  kind := .member .message
  name := .text "Note"
  payload := .message (.text text)

/-- What a note says in terms of the vocabularies. -/
def noteTerms : Terms := ⟨.message, .link, [.forward], .refuse, .never⟩

/-- The sheet of a note. -/
def noteSheet (text : String) : RuleSheet where
  kind := .message
  payload := .ofFields [("text", .text text)]
  scope := .link
  forbidden := [.text "FORWARD"]
  expiry := 0
  maxUses := 0
  lockOnViolation := false
  identity := .never

/-- The rules of a note. -/
theorem compile_note {text : String} (whole : Text.IsWhole text) (now : Int) :
    (note text).compile (.integer now) =
      .ok ⟨(noteSheet text).canonicalText, Sha256.ofText (noteSheet text).canonicalText,
        noteSheet text⟩ := by
  have made : (note text).sheet (.integer now) = .ok (noteSheet text) := by rfl
  have here : (noteSheet text).IsOver [("text", .text text)] :=
    ⟨rfl, by simp, ⟨by simp, by simp [Document.HasDistinctNames]⟩, ["FORWARD"], rfl⟩
  refine compile_of_sheet made
    (here.canonical_of_texts ?_ ?_ Document.isShort_zero Document.isShort_zero)
  · exact List.forall_mem_singleton.mpr ⟨show Text.IsWhole "text" by decide, text, rfl, whole⟩
  · exact List.forall_mem_singleton.mpr ⟨_, rfl, by decide⟩

theorem content_note {text : String} (whole : Text.IsWhole text) :
    (note text).payload.content = .ok (.bytes (Text.utf8 text)) := by
  have encoded : Text.encode text = .ok (Text.utf8 text) := by
    unfold Text.encode
    rw [(Text.surrogateDefect?_eq_none_iff text).mpr whole]
  change Payload.textContent (.text text) = _
  simp only [Payload.textContent, encoded]

theorem hasTerms_note (text : String) : (note text).HasTerms noteTerms := ⟨rfl, rfl, rfl, rfl, rfl⟩

end Intent

/-- Everybody may read an object that was made of a note. -/
theorem Making.IsOf.isOpenTo_read {k : Making} {c : Client} {store : ContentStore σ}
    {s s' : Session σ} {o : CreatedObject} {text : String}
    (made : k.IsOf c store (Intent.note text) s s' o) (whole : Text.IsWhole text) :
    k.minting.IsOpenTo .read := by
  obtain ⟨compiled, compiles, -, compact⟩ := made.rules
  cases (Intent.compile_note whole _).symm.trans compiles
  have rules := Except.ok.inj compact
  refine ⟨fun actor => ?_, ?_, fun now => ?_, ?_, ?_⟩
  · unfold Minting.outOfScope?
    rw [← rules]
    rfl
  all_goals
    rw [← rules]
    rfl

/-- The metadata of a note has a canonical text, if the client shows the usual image and the clock is
short. -/
theorem Client.canonical_metadataOf_note {c : Client} (image : c.image = .text Metadata.defaultImage)
    (clock : IsShort (.integer c.surroundings.now)) (text : String)
    {rulesHash pointer nonce : String} (rulesHash' : Text.IsWhole rulesHash)
    (pointer' : Text.IsWhole pointer) (nonce' : Text.IsWhole nonce) :
    (c.metadataOf (.note text) rulesHash pointer nonce).toDocument.canonical =
      .ok (c.metadataOf (.note text) rulesHash pointer nonce).canonicalText := by
  refine Metadata.canonical_toDocument image rfl clock ?_
  simp only [List.forall_mem_cons, List.not_mem_nil, false_implies, implies_true, and_true]
  exact ⟨(by decide : Text.IsWhole "Note"), (by decide : Text.IsWhole ""),
    (by decide : Text.IsWhole Metadata.defaultImage), rulesHash', pointer', nonce'⟩

/-! ## What a rehearsal draws -/

namespace Source

theorem length_nonce_numbered (n : Nat) : (numbered.nonce n).length = nonceSize := by
  change ((Sha256.digest _).take nonceSize).length = nonceSize
  rw [List.length_take, Sha256.length_digest]
  rfl

end Source

namespace Rehearsal

/-- A client of a rehearsal, at moment zero and without a correlation. -/
def client (origin identity : String) : Client where
  origin := origin
  identity := identity
  image := .text Metadata.defaultImage
  policy := .standard
  share := .integer 0
  surroundings := ⟨0, "", .null, .numbered⟩

/-- The session over a store before anything is done. -/
def opening (st : σ) : Session σ where
  registry := {}
  store := st

/-- A note as it is sealed after some draws. -/
def ciphertext (text : String) (d : Draws) : Bytes :=
  Gcm.encrypt (Source.numbered.key d.keys).bytes (Source.numbered.nonce d.nonces) (Text.utf8 text)

/-- The metadata of a note that is sealed after some draws. -/
def metadata (text : String) (d : Draws) : Metadata :=
  (client "" "").metadataOf (.note text) (Sha256.ofText (Intent.noteSheet text).canonicalText)
    (ofBytes (ciphertext text d)) (Text.toHex (Source.numbered.nonce d.nonces))

/-- The metadata of a note as it is put into a store. -/
def description (text : String) (d : Draws) : Bytes :=
  Text.utf8 (metadata text d).canonicalText

theorem canonical_metadata (text : String) (d : Draws) :
    (metadata text d).toDocument.canonical = .ok (metadata text d).canonicalText :=
  Client.canonical_metadataOf_note rfl Document.isShort_zero text (Sha256.isHex_ofBytes _).isWhole
    (Sha256.isHex_ofBytes _).isWhole (Text.isHex_toHex _).isWhole

section Creates

variable {store : ContentStore σ} {s : Session σ} {text : String}
  (accepted : (Intent.note text).review = .ok (.accepted (.note text) [])) (whole : Text.IsWhole text)
  (origin : String) {identity : String} (named : Text.isBlankText identity = false)
  (put : (store.put s.store (ciphertext text s.draws)).result =
    .ok (ofBytes (ciphertext text s.draws)))
  (put' : (store.put (store.put s.store (ciphertext text s.draws)).state
    (description text s.draws)).result = .ok (ofBytes (description text s.draws)))

include accepted whole named put put'

/-- A note takes the next identifier if the store takes what is put there: the sealed note and its
metadata. It makes an object exactly if its creator is a whole text and the identifier not too
long. -/
theorem exists_ends_note {p : RetryPolicy} {n : Nat} (count : p.attemptCount = .ok n) :
    ∃ r w, (((client origin identity).under p).create store.watched (.note text)).Ends s.watched
        r w ∧
      w.store = ((store.put (store.put s.store (ciphertext text s.draws)).state
          (description text s.draws)).state,
        [.put (ciphertext text s.draws), .put (description text s.draws)]) ∧
      w.registry.nextId = s.registry.nextId + 1 ∧
      ∀ o, r = .ok o ↔ o = ⟨s.registry.nextId, CapabilityLink.build
          ⟨origin, .integer s.registry.nextId, Source.numbered.key s.draws.keys⟩,
          Sha256.ofText (Intent.noteSheet text).canonicalText, ofBytes (description text s.draws),
          ofBytes (ciphertext text s.draws)⟩ ∧
        IsShort (.integer s.registry.nextId) ∧ Text.IsWhole identity := by
  have sealed : (store.watched.put s.watched.store (ciphertext text s.draws)).result =
      .ok (ofBytes (ciphertext text s.draws)) := put
  have told : (store.watched.put (store.watched.put s.watched.store (ciphertext text s.draws)).state
      (description text s.draws)).result = .ok (ofBytes (description text s.draws)) := put'
  obtain ⟨r, w, ends, left, next, answers⟩ := Client.exists_ends_create
    (c := (client origin identity).under p) (s := s.watched) (Intent.hasTerms_note text) accepted
    (Intent.compile_note whole 0) (Int.le_refl 0) (Intent.content_note whole) named count rfl rfl
    sealed rfl (canonical_metadata text s.draws) told rfl (Text.isBlankText_ofBytes _)
    (Source.isWritten_numbered 0 .null)
  refine ⟨r, w, ends, left, next, fun o => (answers o).trans ?_⟩
  have pointer : Text.IsWhole (ofBytes (description text s.draws)) :=
    (Sha256.isHex_ofBytes _).isWhole
  exact ⟨fun all => ⟨all.1, all.2.1, all.2.2.1⟩, fun all => ⟨all.1, all.2.1, all.2.2, pointer⟩⟩

variable (whole' : Text.IsWhole identity) (short : IsShort (.integer s.registry.nextId))

include whole' short

/-- A note of a creator that is a whole text makes an object. -/
theorem exists_ends_create_note :
    ∃ w, ((client origin identity).create store.watched (.note text)).Ends s.watched
        (.ok ⟨s.registry.nextId, CapabilityLink.build ⟨origin, .integer s.registry.nextId,
            Source.numbered.key s.draws.keys⟩, Sha256.ofText (Intent.noteSheet text).canonicalText,
          ofBytes (description text s.draws), ofBytes (ciphertext text s.draws)⟩) w ∧
      w.store = ((store.put (store.put s.store (ciphertext text s.draws)).state
          (description text s.draws)).state,
        [.put (ciphertext text s.draws), .put (description text s.draws)]) ∧
      w.registry.nextId = s.registry.nextId + 1 := by
  have count : RetryPolicy.standard.attemptCount = .ok 3 := rfl
  obtain ⟨r, w, ends, left, next, answers⟩ :=
    exists_ends_note accepted whole origin named put put' count
  rw [(answers _).mpr ⟨rfl, short, whole'⟩] at ends
  exact ⟨w, ends, left, next⟩

/-- Making an object of a note puts nothing else. -/
theorem eq_of_puts_note {origin : String} {content : Bytes}
    (puts : (client origin identity).Puts store (.note text) s content) :
    content = ciphertext text s.draws ∨ content = description text s.draws := by
  obtain ⟨w, ends, left, -⟩ :=
    exists_ends_create_note accepted whole origin named put put' whole' short
  obtain ⟨r, w', ends', mem⟩ := puts
  obtain ⟨-, rfl⟩ := ends.unique ends'
  rw [left] at mem
  simpa using mem

/-- If the sealed note and its metadata differ in their digests, and there was nothing before, then
no two contents have one digest. -/
theorem injOn_of_create_note {origin : String}
    (empty : ∀ pointer b, (store.get s.store pointer).result ≠ .ok b)
    (differ : ofBytes (ciphertext text s.draws) ≠ ofBytes (description text s.draws)) :
    Set.InjOn ofBytes {b | (∃ pointer, (store.get s.store pointer).result = .ok b) ∨
      (client origin identity).Puts store (.note text) s b} := by
  have known : ∀ b, ((∃ pointer, (store.get s.store pointer).result = .ok b) ∨
      (client origin identity).Puts store (.note text) s b) →
      b = ciphertext text s.draws ∨ b = description text s.draws := by
    rintro b (⟨pointer, got⟩ | puts)
    · exact absurd got (empty pointer b)
    · exact eq_of_puts_note accepted whole named put put' whole' short puts
  intro a held b held' same
  rcases known a held with rfl | rfl <;> rcases known b held' with rfl | rfl
  · rfl
  · exact absurd same differ
  · exact absurd same.symm differ
  · rfl

end Creates

/-! ### A first note -/

theorem accepted_hi : (Intent.note "hi").review = .ok (.accepted (.note "hi") []) := by rfl

/-- What the first note of a rehearsal is sealed to, written out so that its digest can be taken
without sealing it again. -/
theorem ciphertext_hi : ciphertext "hi" {} =
    [131, 213, 52, 214, 100, 55, 52, 2, 104, 126, 233, 54, 226, 66, 183, 86, 7, 214] := by
  decide +kernel

theorem ofBytes_ciphertext_hi : ofBytes (ciphertext "hi" {}) =
    "da901006979c2cd236c60f7122c28b3ad3db240a6eaafcdcdbe40c26a387438b" := by
  rw [ciphertext_hi]
  decide +kernel

theorem ofBytes_description_hi : ofBytes (description "hi" {}) =
    "46fad7199b6c4ee707553993c054892152cf45bba1a2b7628052a697477e711b" := by
  rw [description, metadata, ofBytes_ciphertext_hi]
  decide +kernel

theorem ofBytes_ne_hi : ofBytes (ciphertext "hi" {}) ≠ ofBytes (description "hi" {}) := by
  rw [ofBytes_ciphertext_hi, ofBytes_description_hi]
  decide

end Rehearsal

end RuleBound
