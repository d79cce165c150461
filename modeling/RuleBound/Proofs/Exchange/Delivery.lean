import Mathlib.Data.Set.Function
import RuleBound.Proofs.Exchange.Rehearsal
import RuleBound.Proofs.Key
import RuleBound.Proofs.Link
import RuleBound.Proofs.Registry.History
import RuleBound.Proofs.Store

/-!
Delivery: what was created can be accessed. From the moment an object is created over a store that
keeps what it is given, its record points to its metadata, the metadata to its content, and both can
be got; nothing that is done with the session takes that away. So an access through the link is
answered, and it is answered with the content unless it is refused.

The one way to fail is an event that cannot be recorded: one whose actor or correlation has no
canonical text.
-/

namespace RuleBound

open Document (IsShort)
open Sha256 (ofBytes)

variable {σ : Type}

/-! ## Stores that keep what they are given -/

section Keeping

variable {store : ContentStore σ} {own : σ → Prop}

/-- What a pointer gets it gets wherever puts and gets lead. -/
theorem Keeping.get_leads (keeping : Keeping store own) {st st' : σ} (kept : own st)
    (leads : store.Leads st st') :
    own st' ∧ ∀ pointer b, (store.get st pointer).result = .ok b →
      (store.get st' pointer).result = .ok b := by
  induction leads with
  | refl => exact ⟨kept, fun _ _ got => got⟩
  | tail _ next ih =>
    obtain ⟨kept', gets⟩ := ih
    rcases next with ⟨content, rfl⟩ | ⟨pointer, rfl⟩
    · exact ⟨keeping.put kept' content, fun pointer b got =>
        keeping.get_put kept' (gets pointer b got) content⟩
    · rw [keeping.state_get]
      exact ⟨kept', gets⟩

/-- What can be got from a watched store could be got at the start or was put since; and what was
put before was put. -/
theorem Keeping.get_watched (keeping : Keeping store own) {st st' : σ × List Query}
    (leads : store.watched.Leads st st') (kept : own st.1) :
    own st'.1 ∧ (∀ q ∈ st.2, q ∈ st'.2) ∧
      ∀ pointer b, (store.get st'.1 pointer).result = .ok b →
        (store.get st.1 pointer).result = .ok b ∨ .put b ∈ st'.2 := by
  induction leads with
  | refl => exact ⟨kept, fun _ mem => mem, fun _ _ got => .inl got⟩
  | @tail u w _ next ih =>
    obtain ⟨kept', known, gets⟩ := ih
    rcases next with ⟨content, rfl⟩ | ⟨pointer, rfl⟩
    · refine ⟨keeping.put kept' content, fun q mem => List.mem_append_left _ (known q mem),
        fun pointer b got => ?_⟩
      rcases keeping.get_of_put kept' got with rfl | got
      · exact .inr (List.mem_append_right _ List.mem_cons_self)
      · exact (gets pointer b got).imp_right fun mem => List.mem_append_left _ mem
    · have same : (store.watched.get u pointer).state = (u.1, u.2 ++ [.get pointer]) :=
        Prod.ext (keeping.state_get u.1 pointer) rfl
      rw [same]
      exact ⟨kept', fun q mem => List.mem_append_left _ (known q mem), fun pointer b got =>
        (gets pointer b got).imp_right fun mem => List.mem_append_left _ mem⟩

theorem ContentStore.Leads.of_watched {st st' : σ × List Query}
    (leads : store.watched.Leads st st') : store.Leads st.1 st'.1 := by
  refine leads.lift Prod.fst fun u w next => ?_
  rcases next with ⟨content, rfl⟩ | ⟨pointer, rfl⟩
  · exact .inl ⟨content, rfl⟩
  · exact .inr ⟨pointer, rfl⟩

/-- Content that a watched store was given is got from it, unless there was other content of the
same digest. -/
theorem Keeping.get_of_stores (keeping : Keeping store own) {st : σ} (kept : own st)
    {w : σ × List Query} {content : Bytes} {pointer : String}
    (stores : store.watched.Stores (st, []) w content pointer)
    (faithful : Set.InjOn ofBytes
      {b | (∃ pointer, (store.get st pointer).result = .ok b) ∨ .put b ∈ w.2}) :
    pointer = ofBytes content ∧ (store.get w.1 (.text pointer)).result = .ok content := by
  obtain ⟨u, before, answered, after⟩ := stores
  have kept' := (keeping.get_watched before kept).1
  obtain ⟨rfl, b, same, got⟩ := keeping.stored kept' answered
  have kept'' := keeping.put kept' content
  obtain ⟨-, known, -⟩ := keeping.get_watched after kept''
  have got' := (keeping.get_leads kept'' after.of_watched).2 _ _ got
  have all : store.watched.Leads (st, []) w :=
    (before.trans (ContentStore.leads_put u content)).trans after
  obtain ⟨-, -, sources⟩ := keeping.get_watched all kept
  have put : Query.put content ∈ w.2 :=
    known _ (List.mem_append_right _ List.mem_cons_self)
  have held : (∃ pointer, (store.get st pointer).result = .ok b) ∨ Query.put b ∈ w.2 :=
    (sources _ _ got').imp_left fun got => ⟨_, got⟩
  rw [faithful held (.inr put) same] at got'
  exact ⟨rfl, got'⟩

end Keeping

/-! ## Events that can be recorded -/

namespace Client

variable {c : Client}

theorem isTellable_within_iff (written : c.surroundings.IsWritten) (d : Draws) :
    (c.within (c.surroundings.correlate d).1).surroundings.IsTellable ↔
      c.surroundings.IsTellable := by
  rw [← Surroundings.exists_canonical_correlate_iff written d]
  refine ⟨fun tellable => ?_, fun written _ => written⟩
  unfold Surroundings.correlate at tellable ⊢
  by_cases given : c.surroundings.correlation.isTrue = true
  · rw [if_pos given] at tellable ⊢
    exact tellable given
  · rw [if_neg given]
    exact Document.exists_canonical_text (written.correlationId _)

end Client

namespace Task

variable {s s' : Session σ} {c : Client}

/-- A request on an object that was minted under plain rules is decided, and it is answered, with
the verdict, exactly if the actor and the correlation can be told. -/
theorem ends_request_of_minted {id : Int} {m : Minting} (minted : s.registry.HasMinted id m)
    (plain : m.rules.IsPlain) (short : IsShort (.integer id)) (written : c.surroundings.IsWritten)
    (filled : Text.isBlankText c.identity = false) {a : Action} {context : Bytes}
    {r : Except Fault Outcome}
    (ends : (request c (.integer id) (.integer a.number) (.member context) (.text c.identity) :
      Task σ Outcome).Ends s r s') :
    s'.store = s.store ∧ ∃ record refusal, s.registry.record? id = some record ∧
      record.refusal? c.surroundings.now a c.identity = .ok refusal ∧
      ((∃ o, r = .ok o) ↔ Text.IsWhole c.identity ∧ c.surroundings.IsTellable) ∧
      ∀ o, r = .ok o → o.refusal = refusal := by
  obtain ⟨store, ran⟩ := ends_request ends
  have checked : Request.check (.integer a.number) (.member context) (.text c.identity) =
      .ok ⟨a, context, c.identity⟩ := by
    have named : Action.ofDocument (.integer a.number) = .ok a := by cases a <;> rfl
    unfold Request.check
    rw [named, ok_bind, Request.identity?, filled, if_neg Bool.false_ne_true]
    rfl
  exact ⟨store, minted.exists_verdict plain short written checked ran⟩

end Task

/-! ## Objects that can be delivered -/

/-- What makes an object one that can be delivered, whatever becomes of the session: its rules can be
decided, its events can be recorded, and its metadata fits the schema and says where and how the
content is kept. -/
structure Making.IsSound (k : Making) (o : CreatedObject) : Prop where
  plain : k.minting.rules.IsPlain
  short : IsShort (.integer o.id)
  pointer : k.minting.pointer = o.metadataPointer
  size : k.nonce.length = nonceSize
  described : ∃ m : Metadata, m.Fits ∧ m.toDocument.canonical = .ok k.description ∧
    m.rulesHash = k.minting.rulesHash ∧ m.pointer = o.contentPointer ∧ m.nonce = Text.toHex k.nonce

/-- Whether an object is at hand in a session: it was minted, its metadata can be got by the pointer
of its record, and its content by the pointer that the metadata names. -/
structure Making.IsAtHand (k : Making) (store : ContentStore σ) (s : Session σ) (o : CreatedObject) :
    Prop where
  minted : s.registry.HasMinted o.id k.minting
  metadata : (store.get s.store (.text k.minting.pointer)).result = .ok k.metadata
  ciphertext : (store.get s.store (.text o.contentPointer)).result = .ok k.ciphertext

namespace Making

variable {k : Making} {c : Client} {store : ContentStore σ} {own : σ → Prop} {intent : Intent}
  {s s' : Session σ} {o : CreatedObject}

/-- What is at hand stays at hand. -/
theorem IsAtHand.leads (keeping : Keeping store own) (kept : own s.store)
    (atHand : k.IsAtHand store s o) (leads : s.Leads store s') : k.IsAtHand store s' o := by
  obtain ⟨-, gets⟩ := keeping.get_leads kept leads.store
  exact ⟨atHand.minted.leads leads.registry, gets _ _ atHand.metadata, gets _ _ atHand.ciphertext⟩

section Made

variable (keeping : Keeping store own) (kept : own s.store) {w : Session (σ × List Query)}
  (made : k.IsOf c store.watched intent s.watched w o)
  (faithful : Set.InjOn ofBytes
    {b | (∃ pointer, (store.get s.store pointer).result = .ok b) ∨ .put b ∈ w.store.2})

include keeping kept made faithful

/-- An object that was created over a store that keeps what it is given is at hand. -/
theorem IsOf.isAtHand : own w.store.1 ∧ k.IsAtHand store (w.view Prod.fst) o := by
  obtain ⟨-, metadata⟩ := keeping.get_of_stores kept made.metadata faithful
  obtain ⟨-, ciphertext⟩ := keeping.get_of_stores kept made.ciphertext faithful
  obtain ⟨u, before, -, after⟩ := made.metadata
  have kept' := (keeping.get_watched
    ((before.trans (ContentStore.leads_put u _)).trans after) kept).1
  refine ⟨kept', made.minted, ?_, ciphertext⟩
  rw [made.pointer]
  exact metadata

/-- An object whose image is a text, and that was created not before zero and under a nonce of the
right size, can be delivered. -/
theorem IsOf.isSound {image : String} (pictured : c.image = .text image)
    (nonneg : 0 ≤ c.surroundings.now) (size : k.nonce.length = nonceSize) : k.IsSound o := by
  obtain ⟨pointed, -⟩ := keeping.get_of_stores kept made.ciphertext faithful
  have some : o.contentPointer ≠ "" := by
    rw [pointed]
    intro none
    have length := Sha256.length_ofBytes k.ciphertext
    rw [none] at length
    cases length
  have digits : Text.isHexText 24 (Text.toHex k.nonce) = true :=
    Text.isHexText_toHex (n := 12) size
  refine ⟨made.plain, made.short, made.pointer, size,
    c.metadataOf intent k.minting.rulesHash o.contentPointer (Text.toHex k.nonce), ?_,
    made.written, rfl, rfl, rfl⟩
  exact ⟨⟨image, pictured⟩, made.digest, some, digits, ⟨c.surroundings.now, rfl, nonneg⟩⟩

end Made

end Making

namespace Client

variable {c : Client} {store : ContentStore σ} {own : σ → Prop} {k : Making} {s s' : Session σ}
  {o : CreatedObject} {n : Nat}

/-- Whether an access by a client was answered exactly if it could be told, and then as the verdict
says: with the content, or with the reason of the refusal and no content. -/
structure IsServed (c : Client) (content : Bytes) (refusal : Option Refusal)
    (r : Except Fault AccessResult) : Prop where
  answered : (∃ result, r = .ok result) ↔ Text.IsWhole c.identity ∧ c.surroundings.IsTellable
  allowed : ∀ result, r = .ok result → refusal = none →
    result.allowed = true ∧ result.content = some content
  refused : ∀ result why, r = .ok result → refusal = some why →
    result.allowed = false ∧ result.reason = why.reason ∧ result.content = none

theorem isServed_error {content : Bytes} {refusal : Option Refusal} {f : Fault}
    (untold : ¬ (Text.IsWhole c.identity ∧ c.surroundings.IsTellable)) :
    c.IsServed content refusal (.error f) :=
  ⟨⟨fun ⟨_, same⟩ => (by cases same), fun told => absurd told untold⟩,
    fun _ same => (by cases same), fun _ _ same => by cases same⟩

section AtHand

variable (keeping : Keeping store own) (sound : k.IsSound o) (count : c.policy.attemptCount = .ok n)

include keeping sound count

/-- The metadata of an object is fetched if the store has it. -/
theorem ends_fetchMetadata_of_get
    (got : (store.get s.store (.text k.minting.pointer)).result = .ok k.metadata)
    {r : Except Fault Metadata}
    (ends : (c.fetchMetadata store (.text k.minting.pointer)).Ends s r s') :
    s'.registry = s.registry ∧ s'.store = s.store ∧ ∃ m, r = .ok m ∧
      m.rulesHash = k.minting.rulesHash ∧ m.pointer = o.contentPointer ∧
      m.nonce = Text.toHex k.nonce := by
  obtain ⟨m, fits, written, rulesHash, pointer, nonce⟩ := sound.described
  obtain ⟨m', read⟩ := fits.exists_of_reread written
  obtain ⟨rulesHash', pointer', nonce'⟩ :=
    Metadata.eq_of_ofDocument_reread written fits.isDistinct read
  have decoded : (store.getDocument s.store (.text k.minting.pointer)).result =
      .ok (m.toDocument.reread .canonical) := by
    have bytes := documentOfBytes_canonical written fits.isDistinct.toDocument
      (.text k.minting.pointer)
    unfold ContentStore.getDocument Reply.bind
    rw [got]
    exact bytes
  unfold fetchMetadata at ends
  rcases Task.ends_bind_iff.mp ends with ⟨d, u, fetched, ends⟩ | ⟨f, failed, -⟩
  · obtain ⟨same, registry, left⟩ := Task.ends_throughStore_of_ok count decoded fetched
    cases same
    rw [read] at ends
    obtain ⟨rfl, rfl⟩ := Task.ends_ofExcept_iff.mp ends
    refine ⟨registry, left.trans (keeping.state_get _ _), m', rfl, rulesHash'.trans rulesHash,
      pointer'.trans pointer, nonce'.trans nonce⟩
  · obtain ⟨same, -⟩ := Task.ends_throughStore_of_ok count decoded failed
    cases same

variable (atHand : k.IsAtHand store s o)

include atHand

/-- An access to an object at hand, through a link that carries its key, serves the client as the
verdict on the record says. -/
theorem ends_accessWithin_of_isAtHand (written : c.surroundings.IsWritten)
    (filled : Text.isBlankText c.identity = false) {link : CapabilityLink}
    (named : link.objectId = .integer o.id) (unlocks : link.key = k.key) {a : Action}
    {context : Bytes} {r : Except Fault AccessResult}
    (ends : (c.accessWithin store link a (.member context)).Ends s r s') :
    ∃ record refusal, s.registry.record? o.id = some record ∧
      record.refusal? c.surroundings.now a c.identity = .ok refusal ∧
      c.IsServed k.content refusal r := by
  obtain ⟨record, found, cites, points⟩ := atHand.minted.exists_record
  have known : s.registry.find link.objectId = .ok (o.id, record) := by
    rw [named, Registry.find]
    simp only [found]
  unfold accessWithin at ends
  rw [Task.ends_get_bind_iff, known] at ends
  rw [Task.ends_bind_iff_of_ends (Task.ends_ofExcept_iff.mpr ⟨rfl, rfl⟩)] at ends
  dsimp only at ends
  rw [points] at ends
  rcases Task.ends_bind_iff.mp ends with ⟨m, u, fetched, ends⟩ | ⟨f, failed, -⟩
  swap
  · obtain ⟨-, -, m, same, -⟩ := ends_fetchMetadata_of_get keeping sound count atHand.metadata failed
    cases same
  obtain ⟨registry, left, m', same, rulesHash, pointer, nonce⟩ :=
    ends_fetchMetadata_of_get keeping sound count atHand.metadata fetched
  cases same
  have agrees : ¬ Document.text m.rulesHash ≠ record.rulesHash := by
    rw [rulesHash, cites, not_not]
  rw [if_neg agrees] at ends
  have given : contextBytes (.member context) = .ok context := rfl
  rw [given, Task.ends_bind_iff_of_ends (Task.ends_ofExcept_iff.mpr ⟨rfl, rfl⟩)] at ends
  have minted : u.registry.HasMinted o.id k.minting := registry ▸ atHand.minted
  rw [← registry]
  rcases Task.ends_bind_iff.mp ends with ⟨outcome, v, decided, ends⟩ | ⟨f, failed, rfl⟩
  swap
  · obtain ⟨-, record, refusal, found, breaks, told, -⟩ :=
      Task.ends_request_of_minted minted sound.plain sound.short written filled failed
    refine ⟨record, refusal, found, breaks, isServed_error fun tellable => ?_⟩
    obtain ⟨outcome, same⟩ := told.mpr tellable
    cases same
  obtain ⟨left', record, refusal, found, breaks, told, verdict⟩ :=
    Task.ends_request_of_minted minted sound.plain sound.short written filled decided
  refine ⟨record, refusal, found, breaks, ?_⟩
  have recorded := told.mp ⟨outcome, rfl⟩
  have verdict := verdict outcome rfl
  cases refusal with
  | some why =>
    have refused : outcome.allowed = false := by rw [Outcome.allowed, verdict]; rfl
    have reason : outcome.reason = why.reason := by rw [Outcome.reason, verdict]; rfl
    rw [refused, reason] at ends
    change Task.Ends (do Task.note c [refusedNote outcome]; pure _) v r s' at ends
    rw [Task.ends_note_bind_iff, Task.ends_pure_iff] at ends
    obtain ⟨rfl, -⟩ := ends
    refine ⟨⟨fun _ => recorded, fun _ => ⟨_, rfl⟩⟩, fun _ _ same => (by cases same), ?_⟩
    intro result why' answer same
    cases answer
    cases same
    exact ⟨rfl, rfl, rfl⟩
  | none =>
    have allowed : outcome.allowed = true := by rw [Outcome.allowed, verdict]; rfl
    have got : (store.get v.store (.text m.pointer)).result = .ok k.ciphertext := by
      rw [left', left, pointer]
      exact atHand.ciphertext
    rw [allowed, if_neg (by simp)] at ends
    rcases Task.ends_bind_iff.mp ends with ⟨ciphertext, x, fetched, ends⟩ | ⟨f, failed, -⟩
    swap
    · cases (Task.ends_throughStore_of_ok count got failed).1
    cases (Task.ends_throughStore_of_ok count got fetched).1
    have opens : link.key.unseal ⟨m.nonce, Text.toHex k.ciphertext⟩ = .ok k.content := by
      rw [unlocks, nonce]
      exact k.key.unseal_seal sound.size k.content
    rcases Task.ends_bind_iff.mp ends with ⟨content, y, unsealed, ends⟩ | ⟨f, failed, -⟩
    swap
    · obtain ⟨same, -⟩ := Task.ends_openContent failed
      rw [opens] at same
      cases same
    obtain ⟨same, -⟩ := Task.ends_openContent unsealed
    rw [opens] at same
    cases same
    obtain ⟨rfl, -⟩ := Task.ends_pure_iff.mp ends
    refine ⟨⟨fun _ => recorded, fun _ => ⟨_, rfl⟩⟩, ?_, fun _ _ _ same => by cases same⟩
    intro result answer _
    cases answer
    exact ⟨rfl, rfl⟩

/-- An access to an object at hand serves the client also if a correlation has to be drawn. -/
theorem ends_accessThrough_of_isAtHand (written : c.surroundings.IsWritten)
    (filled : Text.isBlankText c.identity = false) {link : CapabilityLink}
    (named : link.objectId = .integer o.id) (unlocks : link.key = k.key) {action : Document}
    {a : Action} (known : Action.ofDocument action = .ok a) {context : Bytes}
    {r : Except Fault AccessResult}
    (ends : (c.accessThrough store link action (.member context)).Ends s r s') :
    ∃ record refusal, s.registry.record? o.id = some record ∧
      record.refusal? c.surroundings.now a c.identity = .ok refusal ∧
      c.IsServed k.content refusal r := by
  unfold accessThrough at ends
  rw [known, Task.ends_bind_iff_of_ends (Task.ends_ofExcept_iff.mpr ⟨rfl, rfl⟩),
    Task.ends_bind_iff_of_ends (Task.ends_correlate_iff.mpr ⟨rfl, rfl⟩)] at ends
  have tellable := isTellable_within_iff written s.draws
  have written' := isWritten_within written (c.surroundings.correlate s.draws).1
  generalize (c.surroundings.correlate s.draws).1 = correlation at ends tellable written'
  generalize (c.surroundings.correlate s.draws).2 = draws at ends
  have atHand' : k.IsAtHand store { s with draws := draws } o :=
    ⟨atHand.minted, atHand.metadata, atHand.ciphertext⟩
  have told : Text.IsWhole c.identity ∧ (c.within correlation).surroundings.IsTellable ↔
      Text.IsWhole c.identity ∧ c.surroundings.IsTellable := and_congr_right fun _ => tellable
  rcases Task.ends_bind_iff.mp ends with ⟨result, u, answered, ends⟩ | ⟨f, failed, rfl⟩
  · have same : r = .ok result := by
      dsimp only at ends
      split at ends
      · rw [Task.ends_note_bind_iff, Task.ends_pure_iff] at ends
        exact ends.1
      · exact (Task.ends_pure_iff.mp ends).1
    obtain ⟨record, refusal, found, breaks, served⟩ := ends_accessWithin_of_isAtHand
      (c := c.within correlation) keeping sound count atHand' written' filled named unlocks answered
    rw [same]
    exact ⟨record, refusal, found, breaks, served.answered.trans told, served.allowed, served.refused⟩
  · obtain ⟨record, refusal, found, breaks, served⟩ := ends_accessWithin_of_isAtHand
      (c := c.within correlation) keeping sound count atHand' written' filled named unlocks failed
    refine ⟨record, refusal, found, breaks, isServed_error fun tellable => ?_⟩
    obtain ⟨result, same⟩ := served.answered.mpr (told.mpr tellable)
    cases same

end AtHand

end Client

/-! ## From the creation to the access -/

/-- Whether a client can create objects that can be delivered. -/
structure Client.IsCreator (c : Client) : Prop where
  image : ∃ s, c.image = .text s
  origin : CapabilityLink.IsOrigin c.origin
  clock : 0 ≤ c.surroundings.now
  nonce : ∀ n, (c.surroundings.source.nonce n).length = nonceSize

/-- Whether a client can ask for objects: it has a name, attempts to make, and texts to stamp events
with. -/
structure Client.IsReader (c : Client) : Prop where
  named : Text.isBlankText c.identity = false
  attempts : ∃ n, c.policy.attemptCount = .ok n
  written : c.surroundings.IsWritten

section Created

variable {store : ContentStore σ} {own : σ → Prop} (keeping : Keeping store own)
  {s s₁ : Session σ} (kept : own s.store) (numbered : 0 < s.registry.nextId) {c : Client}
  (creator : c.IsCreator) {intent : Intent} {o : CreatedObject}
  (created : (c.create store intent).Ends s (.ok o) s₁)
  (faithful : Set.InjOn ofBytes
    {b | (∃ pointer, (store.get s.store pointer).result = .ok b) ∨ c.Puts store intent s b})

include keeping kept numbered creator created faithful

/-- An object that was created is at hand after anything that leaves the store to the session, and
its link names it and carries its key. -/
theorem exists_atHand_of_create {ops : List (Operation σ)}
    (asked : ∀ x ∈ ops, x.isExchange = false) :
    ∃ k : Making, intent.payload.Carries k.content ∧ k.IsSound o ∧
      k.IsAtHand store (s₁.run store ops) o ∧
      ∃ origin, CapabilityLink.parse (.text o.link) = .ok ⟨origin, .integer o.id, k.key⟩ := by
  obtain ⟨w, watched, rfl⟩ := Client.exists_watched_of_create created
  obtain ⟨k, made⟩ := Client.exists_making watched
  have faithful' : Set.InjOn ofBytes
      {b | (∃ pointer, (store.get s.store pointer).result = .ok b) ∨ .put b ∈ w.store.2} :=
    faithful.mono fun b held => held.imp_right fun put => ⟨_, w, watched, put⟩
  obtain ⟨image, pictured⟩ := creator.image
  have size : k.nonce.length = nonceSize := by
    obtain ⟨n, drawn⟩ := made.nonce
    rw [drawn, creator.nonce n]
  have sound := made.isSound keeping kept faithful' pictured creator.clock size
  obtain ⟨kept', atHand⟩ := made.isAtHand keeping kept faithful'
  refine ⟨k, made.carries, sound, atHand.leads keeping kept' (Session.leads_run asked _), ?_⟩
  have numbered' : 0 < o.id := by
    rw [made.next]
    exact numbered
  obtain ⟨n, id⟩ := Int.eq_ofNat_of_zero_le (Int.le_of_lt numbered')
  have named : (⟨c.origin, .integer o.id, k.key⟩ : CapabilityLink).objectId = .integer n :=
    congrArg Document.integer id
  have short : IsShort (.integer n) := id ▸ sound.short
  obtain ⟨origin, read⟩ := CapabilityLink.exists_of_parseText_build named (by omega) short
    creator.origin
  refine ⟨origin, ?_⟩
  rw [made.link, id]
  rw [id] at read
  exact read

/-- An object can be accessed through its link, after any objects that are created and accessed and
any content that is put into the store: by any client that can ask, for any action that is known.
The access is answered as the verdict on the record says, with the content of the intent or with a
refusal; it fails exactly if the actor or the correlation has no canonical text. -/
theorem access_serves {ops : List (Operation σ)} (asked : ∀ x ∈ ops, x.isExchange = false)
    {c' : Client} (reader : c'.IsReader) {action : Document} {a : Action}
    (known : Action.ofDocument action = .ok a) (context : Bytes) {r : Except Fault AccessResult}
    {s' : Session σ}
    (ends : (c'.access store (.text o.link) action (.member context)).Ends (s₁.run store ops) r s') :
    ∃ content record refusal, intent.payload.Carries content ∧
      (s₁.run store ops).registry.record? o.id = some record ∧
      record.refusal? c'.surroundings.now a c'.identity = .ok refusal ∧
      c'.IsServed content refusal r := by
  obtain ⟨k, carries, sound, atHand, origin, read⟩ :=
    exists_atHand_of_create keeping kept numbered creator created faithful asked
  obtain ⟨n, count⟩ := reader.attempts
  unfold Client.access at ends
  rw [read, Task.ends_bind_iff_of_ends (Task.ends_ofExcept_iff.mpr ⟨rfl, rfl⟩)] at ends
  obtain ⟨record, refusal, found, breaks, served⟩ := Client.ends_accessThrough_of_isAtHand keeping
    sound count atHand reader.written reader.named rfl rfl known ends
  exact ⟨k.content, record, refusal, carries, found, breaks, served⟩

end Created

/-! ## A note -/

namespace Rehearsal

theorem isOrigin_http : CapabilityLink.IsOrigin "http://h" :=
  ⟨['h', 't', 't', 'p'], ['h'], [], rfl, .inl rfl, by decide, by decide, .inl rfl, by
    simp [Web.IsPlainChar]⟩

theorem isCreator {origin identity : String} (fine : CapabilityLink.IsOrigin origin) :
    (client origin identity).IsCreator :=
  ⟨⟨_, rfl⟩, fine, Int.le_refl 0, Source.length_nonce_numbered⟩

theorem isReader {origin identity : String} (named : Text.isBlankText identity = false) :
    (client origin identity).IsReader :=
  ⟨named, ⟨3, rfl⟩, Source.isWritten_numbered 0 .null⟩

/-- A note is created over an empty store in memory. -/
theorem exists_ends_create_hi :
    ∃ o s, ((client "http://h" "alice").create MemoryStore.store (.note "hi")).Ends (opening {})
        (.ok o) s ∧
      Set.InjOn ofBytes {b | (∃ pointer, (MemoryStore.store.get {} pointer).result = .ok b) ∨
        (client "http://h" "alice").Puts MemoryStore.store (.note "hi") (opening {}) b} ∧
      o.metadataPointer = ofBytes (description "hi" {}) ∧
      o.contentPointer = ofBytes (ciphertext "hi" {}) := by
  have whole : Text.IsWhole "hi" := by decide
  have named : Text.isBlankText "alice" = false := by decide
  have whole' : Text.IsWhole "alice" := by decide
  have short : IsShort (.integer (opening ({} : MemoryStore)).registry.nextId) := Document.isShort_one
  have put : ∀ st content, (MemoryStore.store.put st content).result = .ok (ofBytes content) :=
    fun _ _ => rfl
  have empty : ∀ pointer b, (MemoryStore.store.get {} pointer).result ≠ .ok b := by
    intro pointer b got
    obtain ⟨digest, -, found⟩ := MemoryStore.get_eq_ok_iff.mp got
    cases found
  obtain ⟨w, ends, -⟩ := exists_ends_create_note accepted_hi whole "http://h" named (put _ _)
    (put _ _) whole' short
  have ends' := Client.mirrors_create _ _ _ _ _ ends
  rw [Session.view_watched] at ends'
  exact ⟨_, _, ends', injOn_of_create_note accepted_hi whole named (put _ _) (put _ _) whole' short
    empty ofBytes_ne_hi, rfl, rfl⟩

section Read

variable {store : ContentStore σ} {k : Making} {s s₁ t : Session σ} {o : CreatedObject}

/-- Nobody is refused to read an object that was created of a note. -/
theorem refusal?_of_create_note {c : Client} {text : String} (whole : Text.IsWhole text)
    (created : (c.create store (.note text)).Ends s (.ok o) s₁)
    (leads : Registry.Leads s₁.registry t.registry) {record : Record}
    (found : t.registry.record? o.id = some record) (now : Int) (actor : String) :
    record.refusal? now .read actor = .ok none := by
  obtain ⟨k, made⟩ := Client.exists_making created
  exact (made.minted.leads leads).refusal?_eq_none made.plain (made.isOpenTo_read whole) found now
    actor

/-- An object at hand is read through a link that names it and carries its key, unless the reader is
refused. -/
theorem exists_ends_read {own : σ → Prop} (keeping : Keeping store own) (sound : k.IsSound o)
    (atHand : k.IsAtHand store t o) {link origin : String}
    (parsed : CapabilityLink.parse (.text link) = .ok ⟨origin, .integer o.id, k.key⟩)
    (origin' : String) {identity : String} (named : Text.isBlankText identity = false)
    (whole : Text.IsWhole identity)
    (open' : ∀ record, t.registry.record? o.id = some record →
      record.refusal? 0 .read identity = .ok none) :
    ∃ result t', ((client origin' identity).access store (.text link) (.text "READ")
        (.member [])).Ends t (.ok result) t' ∧
      result.allowed = true ∧ result.content = some k.content := by
  obtain ⟨r, t', ends⟩ := Task.exists_ends ((client origin' identity).access store (.text link)
    (.text "READ") (.member [])) t
  have through := ends
  unfold Client.access at through
  rw [parsed, Task.ends_bind_iff_of_ends (Task.ends_ofExcept_iff.mpr ⟨rfl, rfl⟩)] at through
  obtain ⟨record, refusal, found, breaks, served⟩ := Client.ends_accessThrough_of_isAtHand keeping
    sound rfl atHand (Source.isWritten_numbered 0 .null) named rfl rfl (a := .read) (by rfl) through
  obtain ⟨result, rfl⟩ := served.answered.mpr ⟨whole, fun here => by cases here⟩
  cases (open' record found).symm.trans breaks
  exact ⟨result, t', ends, served.allowed result rfl rfl⟩

/-- A note that was created is read through its link. -/
theorem exists_ends_read_note {own : σ → Prop} (keeping : Keeping store own) (kept : own s.store)
    (numbered : 0 < s.registry.nextId) {origin identity text : String}
    (fine : CapabilityLink.IsOrigin origin) (whole : Text.IsWhole text)
    (created : ((client origin identity).create store (.note text)).Ends s (.ok o) s₁)
    (faithful : Set.InjOn ofBytes {b | (∃ pointer, (store.get s.store pointer).result = .ok b) ∨
      (client origin identity).Puts store (.note text) s b})
    {ops : List (Operation σ)} (asked : ∀ x ∈ ops, x.isExchange = false) (origin' : String)
    {reader : String} (named : Text.isBlankText reader = false) (whole' : Text.IsWhole reader) :
    ∃ result t', ((client origin' reader).access store (.text o.link) (.text "READ")
        (.member [])).Ends (s₁.run store ops) (.ok result) t' ∧
      result.allowed = true ∧ result.content = some (Text.utf8 text) := by
  obtain ⟨k, carries, sound, atHand, origin'', parsed⟩ :=
    exists_atHand_of_create keeping kept numbered (isCreator fine) created faithful asked
  rw [← carries.unique (.inl (Intent.content_note whole))]
  exact exists_ends_read keeping sound atHand parsed origin' named whole' fun record found =>
    refusal?_of_create_note whole created (Session.registry_leads_run s₁ ops) found 0 reader

end Read

end Rehearsal

open Rehearsal (client opening exists_ends_create_hi isCreator isReader isOrigin_http)

/-- A note that was created is read by somebody else. -/
theorem access_serves_hi :
    ∃ o s result s', ((client "http://h" "alice").create MemoryStore.store (.note "hi")).Ends
        (opening {}) (.ok o) s ∧
      ((client "http://h" "bob").access MemoryStore.store (.text o.link) (.text "READ")
        (.member [])).Ends s (.ok result) s' ∧
      result.allowed = true ∧ result.content = some (Text.utf8 "hi") := by
  obtain ⟨o, s, created, faithful, -⟩ := exists_ends_create_hi
  obtain ⟨r, s', ends⟩ := Task.exists_ends ((client "http://h" "bob").access MemoryStore.store
    (.text o.link) (.text "READ") (.member [])) s
  obtain ⟨content, record, refusal, carries, found, breaks, served⟩ := access_serves .memory
    MemoryStore.isOwn_empty (by decide) (isCreator isOrigin_http) created faithful
    (List.forall_mem_nil _) (isReader (by decide)) (a := .read) (by rfl) [] ends
  obtain ⟨result, rfl⟩ := served.answered.mpr ⟨by decide, fun here => by cases here⟩
  obtain ⟨k, made⟩ := Client.exists_making created
  have allowed : refusal = none := by
    rw [made.minted.refusal?_eq_none made.plain (made.isOpenTo_read (by decide)) found] at breaks
    exact (Except.ok.inj breaks).symm
  have carried : (Intent.note "hi").payload.Carries (Text.utf8 "hi") := .inl (by decide +kernel)
  rw [carries.unique carried] at served
  exact ⟨o, s, result, s', created, ends, served.allowed result rfl allowed⟩

open Registry (halfName) in
/-- Who has half of a pair for a name gets no answer, although the note is at hand. -/
theorem not_answered_half_name :
    (client "http://h" "alice").IsCreator ∧ (client "http://h" halfName).IsReader ∧
    ∃ o s, ((client "http://h" "alice").create MemoryStore.store (.note "hi")).Ends (opening {})
        (.ok o) s ∧
      Set.InjOn ofBytes {b | (∃ pointer, (MemoryStore.store.get {} pointer).result = .ok b) ∨
        (client "http://h" "alice").Puts MemoryStore.store (.note "hi") (opening {}) b} ∧
      ∃ f s', ((client "http://h" halfName).access MemoryStore.store (.text o.link) (.text "READ")
        (.member [])).Ends s (.error f) s' := by
  have named : Text.isBlankText halfName = false := by decide
  obtain ⟨o, s, created, faithful, -⟩ := exists_ends_create_hi
  obtain ⟨k, -, sound, atHand, origin, read⟩ := exists_atHand_of_create .memory
    MemoryStore.isOwn_empty (by decide) (isCreator isOrigin_http) created faithful
    (List.forall_mem_nil _)
  obtain ⟨r, s', ends⟩ := Task.exists_ends ((client "http://h" halfName).access MemoryStore.store
    (.text o.link) (.text "READ") (.member [])) s
  refine ⟨isCreator isOrigin_http, isReader named, o, s, created, faithful, ?_⟩
  have ends' := ends
  unfold Client.access at ends
  rw [read, Task.ends_bind_iff_of_ends (Task.ends_ofExcept_iff.mpr ⟨rfl, rfl⟩)] at ends
  obtain ⟨record, refusal, -, -, served⟩ := Client.ends_accessThrough_of_isAtHand .memory sound
    rfl atHand (Source.isWritten_numbered 0 .null) named rfl rfl (a := .read) (by rfl) ends
  cases r with
  | error f => exact ⟨f, s', ends'⟩
  | ok result =>
    obtain ⟨told, -⟩ := served.answered.mp ⟨result, rfl⟩
    exact absurd told (by decide)

end RuleBound
