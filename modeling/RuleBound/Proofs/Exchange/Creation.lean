import RuleBound.Proofs.Exchange.Course
import RuleBound.Proofs.Registry.Growth

/-!
What a created object is made of. If creating an object is answered, the content was sealed and put
into the store, metadata that points to it was put there too, and an object was minted that points
to the metadata; the answer has the link that carries the key.
-/

namespace RuleBound

variable {σ α β : Type}

/-- Whether a payload carries some bytes. Content that was given as a text is the bytes of the
text. -/
def Payload.Carries (p : Payload) (content : Bytes) : Prop :=
  p.content = .ok (.bytes content) ∨
    ∃ s, p.content = .ok (.other (.text s)) ∧ textContent (.text s) = .ok (.bytes content)

theorem Payload.Carries.unique {p : Payload} {content content' : Bytes} (carries : p.Carries content)
    (carries' : p.Carries content') : content = content' := by
  rcases carries with given | ⟨s, given, spelled⟩
  · rcases carries' with given' | ⟨s', given', -⟩
    · cases given.symm.trans given'
      rfl
    · cases given.symm.trans given'
  · rcases carries' with given' | ⟨s', given', spelled'⟩
    · cases given.symm.trans given'
    · cases given.symm.trans given'
      cases spelled.symm.trans spelled'
      rfl

/-! ## Tasks that are answered -/

namespace Task

variable {s s' : Session σ} {c : Client}

theorem ends_bind_ok_iff {t : Task σ α} {f : α → Task σ β} {b : β} :
    (t >>= f).Ends s (.ok b) s' ↔ ∃ a u, t.Ends s (.ok a) u ∧ (f a).Ends u (.ok b) s' := by
  rw [ends_bind_iff]
  constructor
  · rintro (answered | ⟨e, -, failed⟩)
    · exact answered
    · cases failed
  · exact .inl

theorem ends_ofExcept_bind_ok_iff {x : Except Fault α} {f : α → Task σ β} {b : β} :
    (ofExcept x >>= f).Ends s (.ok b) s' ↔ ∃ a, x = .ok a ∧ (f a).Ends s (.ok b) s' := by
  rw [ends_ofExcept_bind_iff]
  constructor
  · rintro (answered | ⟨e, -, failed, -⟩)
    · exact answered
    · cases failed
  · exact .inl

theorem ends_drawKey_iff {r : Except Fault ContentKey} :
    (drawKey c : Task σ ContentKey).Ends s r s' ↔
      r = .ok (c.surroundings.source.key s.draws.keys) ∧
      s' = noted { s with draws := { s.draws with keys := s.draws.keys + 1 } } c
        [ContentKey.freshNote] := by
  unfold drawKey
  rw [ends_get_bind_iff, ends_set_bind_iff, ends_note_bind_iff, ends_pure_iff]

theorem ends_drawNonce_iff {r : Except Fault Bytes} :
    (drawNonce c : Task σ Bytes).Ends s r s' ↔
      r = .ok (c.surroundings.source.nonce s.draws.nonces) ∧
      s' = { s with draws := { s.draws with nonces := s.draws.nonces + 1 } } := by
  unfold drawNonce
  rw [ends_get_bind_iff, ends_set_bind_iff, ends_pure_iff]

/-- What was sealed is what a payload with that content carries, under a nonce that was drawn. -/
theorem ends_sealContent {key : ContentKey} {content : FileContent} {ciphertext : Bytes}
    {written : String}
    (ends : (sealContent c key content : Task σ (Bytes × String)).Ends s (.ok (ciphertext, written))
      s') :
    (∃ n bytes, (∀ p : Payload, p.content = .ok content → p.Carries bytes) ∧
      ciphertext = Gcm.encrypt key.bytes (c.surroundings.source.nonce n) bytes ∧
      written = Text.toHex (c.surroundings.source.nonce n)) ∧
    s'.registry = s.registry ∧ s'.store = s.store := by
  unfold sealContent at ends
  extract_lets seal' at ends
  obtain ⟨content', given, ends⟩ : ∃ content', (∀ p : Payload, p.content = .ok content →
      ∀ bytes, content' = .bytes bytes → p.Carries bytes) ∧
      (seal' content').Ends s (.ok (ciphertext, written)) s' := by
    split at ends
    · next text =>
      obtain ⟨content', spelled, ends⟩ := ends_ofExcept_bind_ok_iff.mp ends
      refine ⟨content', fun p is bytes same => .inr ⟨text, is, ?_⟩, ends⟩
      rw [spelled, same]
    · obtain ⟨content', u, same, ends⟩ := ends_bind_ok_iff.mp ends
      obtain ⟨is, rfl⟩ := ends_pure_iff.mp same
      cases is
      exact ⟨content, fun p is bytes same => .inl (is.trans (same ▸ rfl)), ends⟩
  rw [ends_bind_iff_of_ends (ends_drawNonce_iff.mpr ⟨rfl, rfl⟩)] at ends
  cases content' with
  | other d => cases (ends_throw_iff.mp ends).1
  | bytes bytes =>
    simp only [ends_note_bind_iff] at ends
    obtain ⟨answer, rfl⟩ := ends_pure_iff.mp ends
    cases answer
    exact ⟨⟨s.draws.nonces, bytes, fun p is => given p is bytes rfl, rfl, rfl⟩, rfl, rfl⟩

/-- A store operation that is answered was answered at some attempt. -/
theorem ends_throughStore_ok {what : String} {operation : σ → Reply σ α} {a : α}
    (ends : (throughStore c what operation).Ends s (.ok a) s') :
    s'.registry = s.registry ∧ ∃ st, Reply.Leads operation s.store st ∧
      s'.store = (operation st).state ∧ (operation st).result = .ok a := by
  obtain ⟨registry, -, ⟨st, leads, after, tried⟩ | ⟨-, f, -, g, failed, -⟩⟩ := ends_throughStore ends
  · refine ⟨registry, st, leads, after, ?_⟩
    generalize (operation st).result = attempt at tried ⊢
    cases tried with
    | same => rfl
  · cases failed

/-- An object that was minted stands under the next identifier, and nothing else was added. -/
theorem ends_mint_ok {m : MintRequest} {kind : ObjectKind} {id : Int}
    (ends : (mint c m kind : Task σ Int).Ends s (.ok id) s') :
    s'.store = s.store ∧ ∃ minting, m.check = .ok minting ∧ id = s.registry.nextId ∧
      s'.registry.HasMinted id minting ∧ Document.IsShort (.integer id) ∧
      s.registry.Grows s'.registry id c.surroundings.now minting := by
  unfold mint at ends
  rw [ends_get_bind_iff] at ends
  generalize created : s.registry.create c.surroundings s.draws m = answer at ends
  obtain ⟨draws, registry, answer⟩ := answer
  rw [ends_set_bind_iff] at ends
  obtain ⟨⟨key, event⟩, rfl, answers⟩ := ends_ofExcept_bind_ok_iff.mp ends
  dsimp only at answers
  rw [ends_note_bind_iff] at answers
  obtain ⟨same, rfl⟩ := ends_pure_iff.mp answers
  cases same
  obtain ⟨minting, checked, next, minted, short⟩ := Registry.hasMinted_of_create created
  exact ⟨rfl, minting, checked, next, minted, short, Registry.grows_of_create created checked⟩

end Task

/-! ## What an object is made of -/

/-- Whether content was put into a store on the way from one state to another, and answered with a
pointer. -/
def ContentStore.Stores (store : ContentStore σ) (st st' : σ) (content : Bytes) (pointer : String) :
    Prop :=
  ∃ u, store.Leads st u ∧ (store.put u content).result = .ok pointer ∧
    store.Leads (store.put u content).state st'

/-- A document that was put into a store has a canonical text, and the text was put there. -/
theorem ContentStore.exists_of_putDocument {store : ContentStore σ} {st : σ} {d : Document}
    {pointer : String} (answered : (store.putDocument st d).result = .ok pointer) :
    ∃ text, d.canonical = .ok text ∧ (store.put st (Text.utf8 text)).result = .ok pointer ∧
      (store.putDocument st d).state = (store.put st (Text.utf8 text)).state := by
  unfold putDocument at answered ⊢
  cases written : d.canonical with
  | error f =>
    rw [written] at answered
    cases answered
  | ok text =>
    rw [written] at answered
    exact ⟨text, rfl, answered, rfl⟩

/-- The parts of an object that was created. -/
structure Making where
  key : ContentKey
  nonce : Bytes
  content : Bytes
  /-- The canonical text of the metadata. -/
  description : String
  minting : Minting

namespace Making

/-- The content as it was put into the store. -/
def ciphertext (k : Making) : Bytes := Gcm.encrypt k.key.bytes k.nonce k.content

/-- The metadata as it was put into the store. -/
def metadata (k : Making) : Bytes := Text.utf8 k.description

/-- Whether an object that was created between two sessions is made of some parts. -/
structure IsOf (k : Making) (c : Client) (store : ContentStore σ) (intent : Intent)
    (s s' : Session σ) (o : CreatedObject) : Prop where
  link : o.link = CapabilityLink.build ⟨c.origin, .integer o.id, k.key⟩
  carries : intent.payload.Carries k.content
  nonce : ∃ n, k.nonce = c.surroundings.source.nonce n
  written : (c.metadataOf intent k.minting.rulesHash o.contentPointer
    (Text.toHex k.nonce)).toDocument.canonical = .ok k.description
  ciphertext : store.Stores s.store s'.store k.ciphertext o.contentPointer
  metadata : store.Stores s.store s'.store k.metadata o.metadataPointer
  minted : s'.registry.HasMinted o.id k.minting
  digest : Text.isDigest k.minting.rulesHash = true
  pointer : k.minting.pointer = o.metadataPointer
  rules : ∃ compiled, intent.compile (.integer c.surroundings.now) = .ok compiled ∧
    compiled.digest = k.minting.rulesHash ∧ compiled.sheet.toCompact = .ok k.minting.rules
  next : o.id = s.registry.nextId
  short : Document.IsShort (.integer o.id)
  creator : k.minting.creator = c.identity
  rulesHash : o.rulesHash = k.minting.rulesHash
  grows : s.registry.Grows s'.registry o.id c.surroundings.now k.minting

end Making

/-- Rules that were compiled are plain. -/
theorem RuleSheet.isPlain_of_toCompact {sheet : RuleSheet} {rules : CompactRules}
    (compact : sheet.toCompact = .ok rules) : rules.IsPlain := by
  unfold toCompact at compact
  by_cases scalars : sheet.forbidden.all Document.isScalar = true
  · rw [if_pos scalars] at compact
    cases compact
    exact ⟨rfl, rfl⟩
  · rw [if_neg scalars] at compact
    cases compact

theorem Making.IsOf.plain {k : Making} {c : Client} {store : ContentStore σ} {intent : Intent}
    {s s' : Session σ} {o : CreatedObject} (made : k.IsOf c store intent s s' o) :
    k.minting.rules.IsPlain := by
  obtain ⟨compiled, -, -, compact⟩ := made.rules
  exact RuleSheet.isPlain_of_toCompact compact

namespace Client

variable {c : Client} {store : ContentStore σ} {intent : Intent} {s s' : Session σ}
  {o : CreatedObject}

theorem exists_making_of_createWithin
    (ends : (c.createWithin store intent).Ends s (.ok o) s') :
    ∃ k : Making, k.IsOf c store intent s s' o := by
  unfold createWithin at ends
  obtain ⟨-, -, ends⟩ := Task.ends_ofExcept_bind_ok_iff.mp ends
  obtain ⟨compiled, compiles, ends⟩ := Task.ends_ofExcept_bind_ok_iff.mp ends
  rw [Task.ends_note_bind_iff,
    Task.ends_bind_iff_of_ends (Task.ends_drawKey_iff.mpr ⟨rfl, rfl⟩)] at ends
  generalize c.surroundings.source.key _ = key at ends
  obtain ⟨content, given, ends⟩ := Task.ends_ofExcept_bind_ok_iff.mp ends
  obtain ⟨⟨ciphertext, written⟩, u, sealed, ends⟩ := Task.ends_bind_ok_iff.mp ends
  obtain ⟨⟨n, bytes, carries, is, rfl⟩, registry, stored⟩ := Task.ends_sealContent sealed
  obtain ⟨contentPointer, v, put, ends⟩ := Task.ends_bind_ok_iff.mp ends
  obtain ⟨registry', st, leads, after, pointed⟩ := Task.ends_throughStore_ok put
  obtain ⟨metadataPointer, w, put', ends⟩ := Task.ends_bind_ok_iff.mp ends
  obtain ⟨registry'', st', leads', after', pointed'⟩ := Task.ends_throughStore_ok put'
  obtain ⟨text, canonical, pointed', same⟩ := ContentStore.exists_of_putDocument pointed'
  obtain ⟨rules, compact, ends⟩ := Task.ends_ofExcept_bind_ok_iff.mp ends
  obtain ⟨id, x, mints, ends⟩ := Task.ends_bind_ok_iff.mp ends
  obtain ⟨store', minting, checked, next, minted, short, grows⟩ := Task.ends_mint_ok mints
  obtain ⟨answer, rfl⟩ := Task.ends_pure_iff.mp ends
  cases answer
  obtain ⟨creates, cites, ruled, points⟩ := MintRequest.eq_of_check checked
  obtain ⟨-, digest, -⟩ := MintRequest.exists_of_check checked
  have hash : compiled.digest = minting.rulesHash := Document.text.inj cites
  have same' : rules = minting.rules := Given.member.inj ruled
  have sealing : store.Leads s.store st := by
    have begun : u.store = s.store := stored
    rw [← begun]
    exact .of_attempts leads fun st => ContentStore.leads_put st _
  have describing : store.Leads (store.put st ciphertext).state st' := by
    rw [← after]
    exact .of_attempts leads' fun st => ContentStore.leads_putDocument st _
  have left : s'.store = (store.put st' (Text.utf8 text)).state := by
    rw [store', after', same]
  have kept : w.registry = s.registry := by
    rw [registry'', registry', registry]
    rfl
  subst is
  refine ⟨⟨key, c.surroundings.source.nonce n, bytes, text, minting⟩, ?_⟩
  exact {
    link := rfl
    carries := carries _ given
    nonce := ⟨n, rfl⟩
    written := hash ▸ canonical
    ciphertext := ⟨st, sealing, pointed, by
      rw [left]
      exact describing.trans (ContentStore.leads_put st' _)⟩
    metadata := ⟨st', (sealing.trans (ContentStore.leads_put st _)).trans describing, pointed', by
      rw [left]
      exact .refl⟩
    minted := minted
    digest := digest
    pointer := (Request.eq_of_identity? points).symm
    rules := ⟨compiled, compiles, hash, same' ▸ compact⟩
    next := next.trans (congrArg Registry.nextId kept)
    short := short
    creator := (Request.eq_of_identity? creates).symm
    rulesHash := hash
    grows := kept ▸ grows }

/-- An object that was created has its parts. -/
theorem exists_making (ends : (c.create store intent).Ends s (.ok o) s') :
    ∃ k : Making, k.IsOf c store intent s s' o := by
  unfold create at ends
  rw [Task.ends_bind_iff_of_ends (Task.ends_correlate_iff.mpr ⟨rfl, rfl⟩)] at ends
  obtain ⟨created, u, made, ends⟩ := Task.ends_bind_ok_iff.mp ends
  rw [Task.ends_note_bind_iff] at ends
  obtain ⟨answer, rfl⟩ := Task.ends_pure_iff.mp ends
  cases answer
  obtain ⟨k, parts⟩ := exists_making_of_createWithin made
  exact ⟨k, parts.link, parts.carries, parts.nonce, parts.written, parts.ciphertext, parts.metadata,
    parts.minted, parts.digest, parts.pointer, parts.rules, parts.next, parts.short, parts.creator,
    parts.rulesHash, parts.grows⟩

end Client

end RuleBound
