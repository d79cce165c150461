import RuleBound.Proofs.Exchange.Delivery
import RuleBound.Proofs.Exchange.Footprint
import RuleBound.Proofs.Rules.Decoding

/-!
Creating is all or nothing. Everything that comes before the mint leaves the registry, and a mint
whose event can be told fails only in its checks, before it changes anything; so creating an object
that fails leaves the registry as it was. If it is answered, the registry grew by one record and one
event, and the record, the metadata in the store and the answer commit to the same rules.

An event that cannot be told fails too late: the record stands already.
-/

namespace RuleBound

open Document (Every HasDistinctNames IsShort)

variable {σ α β : Type}

/-! ## Tasks that fail without a trace -/

namespace Task

variable {reg : Registry}

/-- Whether a task that fails over a registry leaves it. -/
def IsAtomic (reg : Registry) (t : Task σ α) : Prop :=
  ∀ s f s', s.registry = reg → t.Ends s (.error f) s' → s'.registry = reg

/-- A task that leaves the registry may come before one that fails without a trace. -/
theorem IsAside.bind_isAtomic {t : Task σ α} {f : α → Task σ β} (first : t.IsAside)
    (rest : ∀ a s s', t.Ends s (.ok a) s' → (f a).IsAtomic reg) : (t >>= f).IsAtomic reg := by
  intro s e s' start ends
  rcases ends_bind_iff.mp ends with ⟨a, u, answers, ends⟩ | ⟨e', fails, -⟩
  · exact rest a s u answers u e s' ((first s _ u answers).trans start) ends
  · exact (first s _ s' fails).trans start

/-- What cannot fail may come after a task that fails without a trace. -/
theorem IsAtomic.bind {t : Task σ α} {f : α → Task σ β} (first : t.IsAtomic reg)
    (rest : ∀ a s e s', ¬ (f a).Ends s (.error e) s') : (t >>= f).IsAtomic reg := by
  intro s e s' start ends
  rcases ends_bind_iff.mp ends with ⟨a, u, -, ends⟩ | ⟨e', fails, -⟩
  · exact absurd ends (rest a u e s')
  · exact first s e' s' start fails

/-- A mint whose event can be told fails in its checks only. -/
theorem isAtomic_mint {c : Client} (written : c.surroundings.IsWritten)
    (short : IsShort (.integer reg.nextId)) {m : MintRequest}
    (told : ∀ minting, m.check = .ok minting →
      Text.IsWhole minting.creator ∧ Text.IsWhole minting.pointer) (kind : ObjectKind) :
    (mint c m kind : Task σ Int).IsAtomic reg := by
  intro s f s' start ends
  subst start
  obtain ⟨-, answer, created, failed⟩ := ends_mint ends
  cases checked : m.check with
  | error g =>
    rw [Registry.create, checked] at created
    exact (congrArg (fun x => x.2.1) created).symm
  | ok minting =>
    obtain ⟨draws, registry, answer', created', -, answers⟩ :=
      s.registry.exists_create written s.draws checked
    obtain ⟨creator, pointer⟩ := told minting checked
    cases created.symm.trans created'
    cases failed.trans ((answers s.registry.nextId).mpr ⟨rfl, short, creator, pointer⟩)

end Task

/-! ## Creating objects -/

namespace Client

/-- Whether a client can tell of what it creates: the next identifier is not too long, and its
identity, what it draws and the pointers that the store answers are whole texts. -/
structure CanTell (c : Client) (store : ContentStore σ) (reg : Registry) : Prop where
  written : c.surroundings.IsWritten
  short : IsShort (.integer reg.nextId)
  identity : Text.IsWhole c.identity
  pointer : ∀ st content pointer, (store.put st content).result = .ok pointer →
    Text.IsWhole pointer

variable {c : Client} {store : ContentStore σ} {reg : Registry}

theorem isAtomic_createWithin (telling : c.CanTell store reg) (intent : Intent) :
    (c.createWithin store intent).IsAtomic reg := by
  unfold createWithin
  refine (Task.isStill_ofExcept _).isAside.bind_isAtomic fun _ _ _ _ => ?_
  refine (Task.isStill_ofExcept _).isAside.bind_isAtomic fun compiled _ _ _ => ?_
  refine (Task.isStill_note c _).isAside.bind_isAtomic fun _ _ _ _ => ?_
  refine (Task.isAside_drawKey c).bind_isAtomic fun key _ _ _ => ?_
  refine (Task.isStill_ofExcept _).isAside.bind_isAtomic fun content _ _ _ => ?_
  refine (Task.isAside_sealContent c key content).bind_isAtomic fun ciphertext _ _ _ => ?_
  refine (Task.isStill_throughStore c _ _).isAside.bind_isAtomic fun contentPointer _ _ _ => ?_
  refine (Task.isStill_throughStore c _ _).isAside.bind_isAtomic fun metadataPointer u v put => ?_
  refine (Task.isStill_ofExcept _).isAside.bind_isAtomic fun rules _ _ _ => ?_
  apply (Task.isAtomic_mint telling.written telling.short _ _).bind
  · intro id s e s' ends
    cases (Task.ends_pure_iff.mp ends).1
  · intro minting checked
    obtain ⟨creates, -, -, points⟩ := MintRequest.eq_of_check checked
    obtain ⟨-, st, -, -, pointed⟩ := Task.ends_throughStore_ok put
    obtain ⟨text, -, pointed, -⟩ := ContentStore.exists_of_putDocument pointed
    rw [← Request.eq_of_identity? creates, ← Request.eq_of_identity? points]
    exact ⟨telling.identity, telling.pointer st _ _ pointed⟩

/-- Creating an object that can be told of fails without a trace in the registry. -/
theorem isAtomic_create (telling : c.CanTell store reg) (intent : Intent) :
    (c.create store intent).IsAtomic reg := by
  refine (Task.isAside_correlate c).bind_isAtomic fun correlation _ _ _ => ?_
  have telling' : (c.within correlation).CanTell store reg :=
    ⟨isWritten_within telling.written _, telling.short, telling.identity, telling.pointer⟩
  apply (isAtomic_createWithin telling' intent).bind
  intro created s e s' ends
  rw [Task.ends_note_bind_iff] at ends
  cases (Task.ends_pure_iff.mp ends).1

/-- Whether a client that created an object between two sessions committed to the same rules
everywhere: in the record, which with its event is all that the registry grew by, in the metadata
that was put into the store, and in the answer. The rules are those of a canonical text. -/
structure Commits (c : Client) (store : ContentStore σ) (s s' : Session σ) (o : CreatedObject)
    (m : Minting) (d : Metadata) (canonical : String) : Prop where
  next : o.id = s.registry.nextId
  grown : ∃ l reference,
    s'.registry = s.registry.grown (Registry.newRecord o.id c.surroundings.now m) l ∧
      l.Tells (Registry.createdBody o.id m) reference
  creator : m.creator = c.identity
  pointer : m.pointer = o.metadataPointer
  recorded : m.rulesHash = o.rulesHash
  described : d.rulesHash = o.rulesHash
  stored : ∃ text, d.toDocument.canonical = .ok text ∧
    store.Stores s.store s'.store (Text.utf8 text) o.metadataPointer
  verified : verifyDigest canonical (.text o.rulesHash) = .ok true
  rules : ∃ sheet, AnySheet.ofJson canonical = .ok sheet ∧ sheet.toCompact = .ok m.rules

end Client

/-- The parts of an object that was created commit to the rules that its intent compiles to. -/
theorem Making.IsOf.exists_commits {k : Making} {c : Client} {store : ContentStore σ}
    {intent : Intent} {s s' : Session σ} {o : CreatedObject} (made : k.IsOf c store intent s s' o)
    (numbered : s.registry.IsNumbered)
    (distinct : ∀ f ∈ intent.payload.descriptor, Every HasDistinctNames f.2) :
    ∃ d canonical, c.Commits store s s' o k.minting d canonical := by
  obtain ⟨compiled, compiles, digest, compact⟩ := made.rules
  obtain ⟨is, written, hashed⟩ := Intent.exists_sheet_of_compile compiles
  have here := is.isOver distinct
  have hash : o.rulesHash = Sha256.ofText compiled.canonical := by
    rw [made.rulesHash, ← digest, hashed]
  refine ⟨c.metadataOf intent k.minting.rulesHash o.contentPointer (Text.toHex k.nonce),
    compiled.canonical, ?_⟩
  exact {
    next := made.next
    grown := made.grows numbered
    creator := made.creator
    pointer := made.pointer
    recorded := made.rulesHash.symm
    described := made.rulesHash.symm
    stored := ⟨k.description, made.written, made.metadata⟩
    verified := hash ▸ here.verifyDigest_canonical written
    rules := ⟨_, here.ofJson_canonical written, compact⟩ }

/-- Creating an object is all or nothing for the registry. If it fails, and what it does can be
told, the registry is as it was. If it is answered, the registry grew by one record and one event,
and the record, the metadata and the answer commit to the same rules. -/
theorem create_atomic {c : Client} {store : ContentStore σ} {s s' : Session σ}
    (numbered : s.registry.IsNumbered) {intent : Intent}
    (distinct : ∀ f ∈ intent.payload.descriptor, Every HasDistinctNames f.2)
    {r : Except Fault CreatedObject} (ends : (c.create store intent).Ends s r s') :
    (∀ f, r = .error f → c.CanTell store s.registry → s'.registry = s.registry) ∧
      ∀ o, r = .ok o → ∃ m d canonical, c.Commits store s s' o m d canonical := by
  refine ⟨fun f failed telling => ?_, fun o answered => ?_⟩
  · subst failed
    exact Client.isAtomic_create telling intent s f s' rfl ends
  · subst answered
    obtain ⟨k, made⟩ := Client.exists_making ends
    exact ⟨k.minting, made.exists_commits numbered distinct⟩

open Rehearsal

/-- Nothing that is shown of a note has a name twice. -/
theorem distinct_note (text : String) :
    ∀ f ∈ (Intent.note text).payload.descriptor, Every HasDistinctNames f.2 := by
  intro f mem
  cases List.mem_singleton.mp mem
  exact (Every.text_iff _).mpr trivial

/-- A first note is the first record. -/
theorem create_atomic_hi :
    ∃ o s', ((client "http://h" "alice").create MemoryStore.store (.note "hi")).Ends (opening {})
        (.ok o) s' ∧ o.id = 1 ∧ ∃ m d canonical, (client "http://h" "alice").Commits
          MemoryStore.store (opening {}) s' o m d canonical := by
  obtain ⟨o, s', ends, -⟩ := exists_ends_create_hi
  obtain ⟨-, commits⟩ := create_atomic (s := opening ({} : MemoryStore)) Registry.isNumbered_empty
    (distinct_note "hi") ends
  obtain ⟨m, d, canonical, all⟩ := commits o rfl
  exact ⟨o, s', ends, all.next, m, d, canonical, all⟩

/-- Somebody whose name is half of a pair cannot create a note, but the registry has it all the
same. -/
theorem create_half_name :
    ∃ f s', ((client "http://h" Registry.halfName).create MemoryStore.store (.note "hi")).Ends
        (opening {}) (.error f) s' ∧ s'.registry ≠ (opening ({} : MemoryStore)).registry := by
  have named : Text.isBlankText Registry.halfName = false := by decide
  have half : ¬ Text.IsWhole Registry.halfName := by decide
  have put : ∀ st content, (MemoryStore.store.put st content).result =
      .ok (Sha256.ofBytes content) := fun _ _ => rfl
  have count : RetryPolicy.standard.attemptCount = .ok 3 := rfl
  obtain ⟨r, w, ends, -, next, answers⟩ := exists_ends_note (s := opening ({} : MemoryStore))
    accepted_hi (by decide) "http://h" named (put _ _) (put _ _) count
  have ends' := Client.mirrors_create _ _ _ _ _ ends
  rw [Session.view_watched] at ends'
  cases r with
  | ok o => exact absurd ((answers o).mp rfl).2.2 half
  | error f =>
    refine ⟨f, _, ends', fun same => ?_⟩
    have next' := congrArg Registry.nextId same
    change w.registry.nextId = 1 at next'
    rw [next] at next'
    cases next'

end RuleBound
