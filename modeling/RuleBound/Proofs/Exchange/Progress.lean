import RuleBound.Proofs.Exchange.Creation
import RuleBound.Proofs.Exchange.Footprint
import RuleBound.Proofs.Registry.Policy

/-!
Creating succeeds. An accepted intent that compiles comes to be minted, whoever its terms are for,
as soon as the store takes the sealed content and then the metadata that points to it; and then it
makes an object exactly if the event of that can be told.
-/

namespace RuleBound

variable {σ : Type}

/-- Drawing a correlation draws no key. -/
theorem Surroundings.correlate_keys (s : Surroundings) (d : Draws) :
    (s.correlate d).2.keys = d.keys := by
  unfold correlate
  split <;> rfl

/-- Drawing a correlation draws no nonce. -/
theorem Surroundings.correlate_nonces (s : Surroundings) (d : Draws) :
    (s.correlate d).2.nonces = d.nonces := by
  unfold correlate
  split <;> rfl

theorem Client.isWritten_within {c : Client} (written : c.surroundings.IsWritten)
    (correlation : Document) : (c.within correlation).surroundings.IsWritten :=
  ⟨written.timestamp, written.eventId, written.correlationId⟩

namespace Task

variable {s : Session σ} {c : Client}

/-- A mint request that passes its checks takes the next identifier, and is answered exactly if its
texts can be told. -/
theorem exists_ends_mint {m : MintRequest} {minting : Minting} (kind : ObjectKind)
    (checked : m.check = .ok minting) (written : c.surroundings.IsWritten) :
    ∃ r u, (mint c m kind : Task σ Int).Ends s r u ∧ u.store = s.store ∧
      u.registry.nextId = s.registry.nextId + 1 ∧
      ∀ id, r = .ok id ↔ id = s.registry.nextId ∧
        Document.IsShort (.integer s.registry.nextId) ∧ Text.IsWhole minting.creator ∧
        Text.IsWhole minting.pointer := by
  obtain ⟨draws, registry, answer, created, next, told⟩ :=
    s.registry.exists_create written s.draws checked
  obtain ⟨r, u, ends⟩ := exists_ends (mint c m kind : Task σ Int) s
  obtain ⟨store, answer', created', rfl⟩ := ends_mint ends
  cases created.symm.trans created'
  exact ⟨_, u, ends, store, next, told⟩

/-- Bytes are sealed under the next nonce. -/
theorem exists_ends_sealContent (c : Client) (key : ContentKey) (bytes : Bytes) (s : Session σ) :
    ∃ u, (sealContent c key (.bytes bytes) : Task σ (Bytes × String)).Ends s
      (.ok (Gcm.encrypt key.bytes (c.surroundings.source.nonce s.draws.nonces) bytes,
        Text.toHex (c.surroundings.source.nonce s.draws.nonces))) u ∧
      u.registry = s.registry ∧ u.store = s.store := by
  refine ⟨noted { s with draws := { s.draws with nonces := s.draws.nonces + 1 } } c
    [sealedNote bytes.length], ?_, rfl, rfl⟩
  unfold sealContent
  dsimp only
  rw [ends_bind_iff_of_ends (ends_pure_iff.mpr ⟨rfl, rfl⟩),
    ends_bind_iff_of_ends (ends_drawNonce_iff.mpr ⟨rfl, rfl⟩)]
  dsimp only
  rw [ends_note_bind_iff]
  exact ends_pure_iff.mpr ⟨rfl, rfl⟩

end Task

namespace Client

variable {c : Client} {store : ContentStore σ} {s : Session σ} {intent : Intent} {t : Intent.Terms}

/-- Creating an object ends as creating it within its correlation does. -/
theorem exists_ends_create_of_within {r : Except Fault CreatedObject} {u : Session σ}
    (created : ((c.within (c.surroundings.correlate s.draws).1).createWithin store intent).Ends
      { s with draws := (c.surroundings.correlate s.draws).2 } r u) :
    ∃ u', (c.create store intent).Ends s r u' ∧ u'.registry = u.registry ∧ u'.store = u.store := by
  have begun : ∀ {r' : Except Fault CreatedObject} {u' : Session σ},
      (do
        let created ← (c.within (c.surroundings.correlate s.draws).1).createWithin store intent
        Task.note c [Note.ended .exchange "create_object" (.real (Binary64.zero false)) true
          [("rdo_id", .integer created.id), ("rules_hash", .text created.rulesHash)]]
        return created : Task σ CreatedObject).Ends
          { s with draws := (c.surroundings.correlate s.draws).2 } r' u' →
      (c.create store intent).Ends s r' u' :=
    fun ends => Task.Ends.bind (Task.ends_correlate_iff.mpr ⟨rfl, rfl⟩) ends
  cases r with
  | error f => exact ⟨u, begun (Task.ends_bind_iff.mpr (.inr ⟨f, created, rfl⟩)), rfl, rfl⟩
  | ok o =>
    refine ⟨Task.noted u c [Note.ended .exchange "create_object" (.real (Binary64.zero false)) true
      [("rdo_id", .integer o.id), ("rules_hash", .text o.rulesHash)]], begun (created.bind ?_),
      rfl, rfl⟩
    rw [Task.ends_note_bind_iff]
    exact Task.ends_pure_iff.mpr ⟨rfl, rfl⟩

section Succeeds

variable (members : intent.HasTerms t) {warnings : List String}
  (accepted : intent.review = .ok (.accepted intent warnings)) {compiled : CompiledRules}
  (compiles : intent.compile (.integer c.surroundings.now) = .ok compiled)
  (clock : 0 ≤ c.surroundings.now) {content : Bytes}
  (carries : intent.payload.content = .ok (.bytes content))
  (named : Text.isBlankText c.identity = false) {n : Nat} (count : c.policy.attemptCount = .ok n)
  {key : ContentKey} (drawn : c.surroundings.source.key s.draws.keys = key)
  {nonce : Bytes} (drawn' : c.surroundings.source.nonce s.draws.nonces = nonce)
  {pointer pointer' text : String} {st st' : σ}
  (put : (store.put s.store (Gcm.encrypt key.bytes nonce content)).result = .ok pointer)
  (left : (store.put s.store (Gcm.encrypt key.bytes nonce content)).state = st)
  (described :
    (c.metadataOf intent compiled.digest pointer (Text.toHex nonce)).toDocument.canonical = .ok text)
  (put' : (store.put st (Text.utf8 text)).result = .ok pointer')
  (left' : (store.put st (Text.utf8 text)).state = st')
  (placed : Text.isBlankText pointer' = false) (written : c.surroundings.IsWritten)

include members accepted compiles clock carries named count drawn drawn' put left described put'
  left' placed

/-- An accepted intent comes to be minted if the store takes its content and its metadata, and then
creating an object ends as the mint. -/
theorem exists_mint_of_createWithin :
    ∃ request minting w, request.check = .ok minting ∧ minting.creator = c.identity ∧
      minting.pointer = pointer' ∧ minting.rules = intent.compactRules t c.surroundings.now ∧
      w.registry = s.registry ∧ w.store = st' ∧
      ∀ r s', (Task.mint c request compiled.sheet.kind).Ends w r s' →
        (c.createWithin store intent).Ends s (r.map fun id => ⟨id, CapabilityLink.build
          ⟨c.origin, .integer id, key⟩, compiled.digest, pointer', pointer⟩) s' := by
  have sound := Intent.sound_of_accepted members.scope accepted
  obtain ⟨compact, message, hashed⟩ := Intent.toCompact_of_compile members sound compiles
  obtain ⟨texts, checked, -⟩ := Intent.check_mintRequest members sound clock hashed named placed
  have reviewed : (intent.review >>= Review.toExcept) = .ok intent := by rw [accepted]; rfl
  obtain ⟨u, sealed, registry, stored⟩ := Task.exists_ends_sealContent c key content
    (Task.noted { Task.noted s c [compiled.note] with
      draws := { s.draws with keys := s.draws.keys + 1 } } c [ContentKey.freshNote])
  change u.registry = s.registry at registry
  change u.store = s.store at stored
  change Task.Ends _ _ (.ok (Gcm.encrypt key.bytes (c.surroundings.source.nonce s.draws.nonces)
    content, Text.toHex (c.surroundings.source.nonce s.draws.nonces))) u at sealed
  rw [drawn'] at sealed
  have answered : (store.put u.store (Gcm.encrypt key.bytes nonce content)).result =
      .ok pointer := by
    rw [stored, put]
  obtain ⟨v, uploaded, registry', stored'⟩ :=
    Task.exists_ends_throughStore "ciphertext upload" (fun st => store.put st _) count answered
  rw [stored, left] at stored'
  have answered' : (store.putDocument v.store
      (c.metadataOf intent compiled.digest pointer (Text.toHex nonce)).toDocument).result =
      .ok pointer' := by
    unfold ContentStore.putDocument
    rw [described, stored']
    exact put'
  obtain ⟨w, uploaded', registry'', stored''⟩ :=
    Task.exists_ends_throughStore "metadata upload" (fun st => store.putDocument st _) count
      answered'
  refine ⟨_, _, w, checked, rfl, rfl, rfl, by rw [registry'', registry', registry], ?_, ?_⟩
  · rw [stored'']
    unfold ContentStore.putDocument
    rw [described, stored']
    exact left'
  intro r s' mints
  unfold createWithin
  refine Task.ends_ofExcept_bind_iff.mpr (.inl ⟨intent, reviewed, ?_⟩)
  refine Task.ends_ofExcept_bind_iff.mpr (.inl ⟨compiled, compiles, ?_⟩)
  rw [Task.ends_note_bind_iff]
  refine Task.Ends.bind (Task.ends_drawKey_iff.mpr ⟨congrArg Except.ok drawn.symm, rfl⟩) ?_
  refine Task.ends_ofExcept_bind_iff.mpr (.inl ⟨.bytes content, carries, ?_⟩)
  refine Task.Ends.bind sealed (Task.Ends.bind uploaded (Task.Ends.bind uploaded' ?_))
  refine Task.ends_ofExcept_bind_iff.mpr (.inl ⟨_, compact, ?_⟩)
  cases r with
  | ok id => exact mints.bind (Task.ends_pure_iff.mpr ⟨rfl, rfl⟩)
  | error f => exact Task.ends_bind_iff.mpr (.inr ⟨f, mints, rfl⟩)

include written in
theorem exists_ends_createWithin :
    ∃ r u, (c.createWithin store intent).Ends s r u ∧ u.store = st' ∧
      u.registry.nextId = s.registry.nextId + 1 ∧
      ∀ o, r = .ok o ↔ o = ⟨s.registry.nextId, CapabilityLink.build
          ⟨c.origin, .integer s.registry.nextId, key⟩, compiled.digest, pointer', pointer⟩ ∧
        Document.IsShort (.integer s.registry.nextId) ∧ Text.IsWhole c.identity ∧
        Text.IsWhole pointer' := by
  obtain ⟨request, minting, w, checked, creator, points, -, registry, stored, created⟩ :=
    exists_mint_of_createWithin members accepted compiles clock carries named count drawn drawn'
      put left described put' left' placed
  obtain ⟨r, u, ends, kept, next, told⟩ :=
    Task.exists_ends_mint (s := w) compiled.sheet.kind checked written
  rw [registry] at next told
  rw [creator, points] at told
  refine ⟨_, u, created r u ends, kept.trans stored, next, fun o => ?_⟩
  cases r with
  | error f =>
    refine ⟨fun failed => (by cases failed), fun all => ?_⟩
    cases (told _).mpr ⟨rfl, all.2⟩
  | ok id =>
    obtain ⟨rfl, told'⟩ := (told id).mp rfl
    exact ⟨fun same => ⟨(Except.ok.inj same).symm, told'⟩,
      fun all => congrArg Except.ok all.1.symm⟩

include written in
/-- An accepted intent takes the next identifier if the store takes its content and its metadata.
The object is created exactly if the event of that can be told: if the identifier is not too long,
and who creates it and the pointer to its metadata are whole texts. -/
theorem exists_ends_create :
    ∃ r u, (c.create store intent).Ends s r u ∧ u.store = st' ∧
      u.registry.nextId = s.registry.nextId + 1 ∧
      ∀ o, r = .ok o ↔ o = ⟨s.registry.nextId, CapabilityLink.build
          ⟨c.origin, .integer s.registry.nextId, key⟩, compiled.digest, pointer', pointer⟩ ∧
        Document.IsShort (.integer s.registry.nextId) ∧ Text.IsWhole c.identity ∧
        Text.IsWhole pointer' := by
  have key' : c.surroundings.source.key (c.surroundings.correlate s.draws).2.keys = key := by
    rw [Surroundings.correlate_keys, drawn]
  have nonce' :
      c.surroundings.source.nonce (c.surroundings.correlate s.draws).2.nonces = nonce := by
    rw [Surroundings.correlate_nonces, drawn']
  obtain ⟨r, u, created, stored, next, told⟩ := exists_ends_createWithin
    (c := c.within (c.surroundings.correlate s.draws).1)
    (s := { s with draws := (c.surroundings.correlate s.draws).2 }) members accepted compiles clock
    carries named count key' nonce' put left described put' left' placed
    (isWritten_within written _)
  obtain ⟨u', ends, registry, store'⟩ := exists_ends_create_of_within created
  exact ⟨r, u', ends, store'.trans stored, registry ▸ next, told⟩

/-- An accepted intent is minted if the store takes its content and its metadata, whether the event
of that can be told or not. -/
theorem exists_mint_of_create :
    ∃ minting draws r u, (c.create store intent).Ends s r u ∧ minting.IsChecked ∧
      minting.creator = c.identity ∧ minting.pointer = pointer' ∧
      minting.rules = intent.compactRules t c.surroundings.now ∧
      u.registry = (s.registry.mint c.surroundings.now (c.surroundings.stamp draws) minting).1 ∧
      u.store = st' := by
  have key' : c.surroundings.source.key (c.surroundings.correlate s.draws).2.keys = key := by
    rw [Surroundings.correlate_keys, drawn]
  have nonce' :
      c.surroundings.source.nonce (c.surroundings.correlate s.draws).2.nonces = nonce := by
    rw [Surroundings.correlate_nonces, drawn']
  obtain ⟨request, minting, w, checked, creator, points, rules, registry, stored, created⟩ :=
    exists_mint_of_createWithin
      (c := c.within (c.surroundings.correlate s.draws).1)
      (s := { s with draws := (c.surroundings.correlate s.draws).2 }) members accepted compiles
      clock carries named count key' nonce' put left described put' left' placed
  obtain ⟨r, v, mints⟩ := Task.exists_ends
    (Task.mint (c.within (c.surroundings.correlate s.draws).1) request compiled.sheet.kind) w
  obtain ⟨kept, answer, minted, -⟩ := Task.ends_mint mints
  obtain ⟨u, ends, registry', store'⟩ := exists_ends_create_of_within (created r v mints)
  rw [Registry.create, checked, registry, Prod.mk.injEq] at minted
  refine ⟨minting, w.draws, _, u, ends, ⟨request, checked⟩, creator, points, rules, ?_,
    store'.trans (kept.trans stored)⟩
  exact registry'.trans (congrArg Prod.fst minted.2).symm

end Succeeds

end Client

end RuleBound
