import RuleBound.Proofs.Exchange.Audit
import RuleBound.Proofs.Registry.Traceless

/-!
Outages: what a store that fails costs. An access that ends because the store failed leaves the
registry as it was, unless the request was allowed before. The content is fetched only then, and the
allowed request stays on record: the event that tells of it, and the use that it took. A refusal, a
violation or a lock never comes with a fault of the store.
-/

namespace RuleBound

variable {σ : Type}

/-- What has no canonical text is no failure of a store. -/
theorem Fault.IsUntold.isIn_storage {f : Fault} (untold : f.IsUntold) :
    f.isIn .storage = false := by
  cases untold <;> rfl

/-- An allowed request takes a use from a record that counts them, and nothing else. -/
theorem Record.exists_of_after_none {r r' : Record} (after : r.after none = .ok r') :
    ∃ rules left, r.compactRules = .ok rules ∧
      (if rules.limitsUses then r.usesRemaining.minus (.integer 1) = .ok left
        else left = r.usesRemaining) ∧
      r' = { r with usesRemaining := left } := by
  obtain ⟨rules, ruled, after⟩ := bind_eq_ok_iff.mp after
  split at after
  · next limited =>
    obtain ⟨left, taken, is⟩ := bind_eq_ok_iff.mp after
    cases is
    exact ⟨rules, left, ruled, by rwa [if_pos limited], rfl⟩
  · next unlimited =>
    cases after
    exact ⟨rules, r.usesRemaining, ruled, by rw [if_neg unlimited], rfl⟩

/-- The registry after an allowed request on a record: at most a use of the record is taken, one
event is appended, and nothing else has changed. -/
def Registry.IsCharged (reg reg' : Registry) (id : Int) (record : Record) (l : LogRecord) : Prop :=
  ∃ rules left, record.compactRules = .ok rules ∧
    (if rules.limitsUses then record.usesRemaining.minus (.integer 1) = .ok left
      else left = record.usesRemaining) ∧
    reg' = {
      records := putRecord reg.records id { record with usesRemaining := left }
      nextId := reg.nextId
      log := ⟨reg.log.records ++ [l], reg.log.sequence + 1⟩ }

theorem Registry.IsMoved.isCharged {reg reg' : Registry} {o : Outcome} {r : Record} {l : LogRecord}
    (moved : reg.IsMoved reg' o r l) (allowed : o.refusal = none) :
    reg.IsCharged reg' o.objectId r l := by
  obtain ⟨r', after, records⟩ := moved.after
  rw [allowed] at after
  obtain ⟨rules, left, ruled, taken, rfl⟩ := Record.exists_of_after_none after
  refine ⟨rules, left, ruled, taken, ?_⟩
  rw [← records, ← moved.nextId, ← moved.log]

namespace Client

variable {c : Client} {store : ContentStore σ} {s s' : Session σ} {f : Fault}

/-- Whether the content of an object was withheld: its metadata was got and cites the rules of its
record, but the store failed when it was asked for the content that the metadata names. -/
def IsWithheld (c : Client) (store : ContentStore σ) (record : Record) (f : Fault)
    (s' : Session σ) : Prop :=
  ∃ (m : Metadata) (v : Session σ), Document.text m.rulesHash = record.rulesHash ∧
    (Task.throughStore c "ciphertext fetch" fun st => store.get st (.text m.pointer)).Ends v
      (.error f) s'

/-- What an access leaves that was allowed and recorded but did not get the content: all of the
registry but at most one use of the record, and one event, which tells that it was allowed. -/
def IsStranded (c : Client) (store : ContentStore σ) (s s' : Session σ) (f : Fault) (id : Int)
    (a : Action) (bytes : Bytes) : Prop :=
  ∃ record l reference, s.registry.record? id = some record ∧
    s.registry.IsCharged s'.registry id record l ∧
    l.Tells (.allowed (.integer id) (.text c.identity) (.integer a.number)
      (.text (a.digest bytes))) reference ∧
    c.IsWithheld store record f s'

/-- The store fails before the request is decided, or when an allowed request comes for its
content. -/
theorem ends_accessWithin_storage {link : CapabilityLink} {a : Action} {context : Given Bytes}
    (keyed : s.registry.IsKeyed) (ends : (c.accessWithin store link a context).Ends s (.error f) s')
    (failed : f.isIn .storage = true) :
    s'.registry = s.registry ∨ ∃ id bytes, link.objectId = .integer id ∧
      contextBytes context = .ok bytes ∧ c.IsStranded store s s' f id a bytes := by
  unfold accessWithin at ends
  rw [Task.ends_get_bind_iff, Task.ends_ofExcept_bind_iff] at ends
  rcases ends with ⟨⟨id, record⟩, found, ends⟩ | ⟨-, -, -, rfl⟩
  swap
  · exact .inl rfl
  rcases Task.ends_bind_iff.mp ends with ⟨metadata, u, fetched, ends⟩ | ⟨g, unfetched, -⟩
  swap
  · exact .inl (ends_fetchMetadata unfetched).1
  obtain ⟨kept, -⟩ := ends_fetchMetadata fetched
  dsimp only at ends
  by_cases differ : Document.text metadata.rulesHash ≠ record.rulesHash
  · rw [if_pos differ] at ends
    obtain ⟨-, rfl⟩ := Task.ends_throw_bind_iff.mp ends
    exact .inl kept
  rw [if_neg differ, Task.ends_ofExcept_bind_iff] at ends
  rcases ends with ⟨bytes, given, ends⟩ | ⟨-, -, -, rfl⟩
  swap
  · exact .inl kept
  rcases Task.ends_bind_iff.mp ends with ⟨o, v, decided, ends⟩ | ⟨g, undecided, same⟩
  swap
  · cases same
    obtain ⟨-, ran⟩ := Task.ends_request undecided
    rcases Registry.eq_or_isUntold_of_request ran with same | untold
    · exact .inl (same.trans kept)
    · rw [untold.isIn_storage] at failed
      cases failed
  obtain ⟨-, ran⟩ := Task.ends_request decided
  rw [kept] at ran
  rcases Registry.request_cases keyed ran with ⟨o', req, r, l, same, moved, told⟩ | ⟨g, same, -⟩
  swap
  · cases same
  cases same
  obtain ⟨checked, named, recorded, tells⟩ := told
  cases named
  cases eq_of_check checked
  obtain ⟨named, there⟩ := Registry.eq_of_find found
  cases there.symm.trans recorded
  cases verdict : o.refusal with
  | some why =>
    have refused : o.allowed = false := by rw [Outcome.allowed, verdict]; rfl
    rw [refused] at ends
    change Task.Ends (do Task.note c [refusedNote o]; pure _) v _ s' at ends
    rw [Task.ends_note_bind_iff, Task.ends_pure_iff] at ends
    cases ends.1
  | none =>
    have allowed : o.allowed = true := by rw [Outcome.allowed, verdict]; rfl
    rw [allowed, if_neg (by simp)] at ends
    rw [verdict] at tells
    rcases Task.ends_bind_iff.mp ends with ⟨ciphertext, w, got, ends⟩ | ⟨g, withheld, same⟩
    · -- Content that was got can only fail to be opened.
      rcases Task.ends_bind_iff.mp ends with ⟨content, x, unsealed, ends⟩ | ⟨g, unopened, same⟩
      · cases (Task.ends_pure_iff.mp ends).1
      · cases same
        obtain ⟨opened, -⟩ := Task.ends_openContent unopened
        cases tried : link.key.unseal ⟨metadata.nonce, Text.toHex ciphertext⟩ with
        | ok content =>
          rw [tried] at opened
          cases opened
        | error g =>
          rw [tried] at opened
          cases opened
          cases failed
    · cases same
      have left := (Task.keeps_of_ends_throughStore withheld).1
      refine .inr ⟨o.objectId, bytes, named, given, record, l, o.reference, there, ?_, tells,
        metadata, v, not_not.mp differ, withheld⟩
      rw [left]
      exact moved.isCharged verdict

/-- An access within a correlation that is drawn first fails as the one within it does. -/
theorem ends_accessThrough_storage {link : CapabilityLink} {action : Document}
    {context : Given Bytes} (keyed : s.registry.IsKeyed)
    (ends : (c.accessThrough store link action context).Ends s (.error f) s')
    (failed : f.isIn .storage = true) :
    s'.registry = s.registry ∨ ∃ id a bytes, link.objectId = .integer id ∧
      Action.ofDocument action = .ok a ∧ contextBytes context = .ok bytes ∧
      ∃ correlation, (c.within correlation).IsStranded store s s' f id a bytes := by
  unfold accessThrough at ends
  rw [Task.ends_ofExcept_bind_iff] at ends
  rcases ends with ⟨a, named, ends⟩ | ⟨-, -, -, rfl⟩
  swap
  · exact .inl rfl
  rw [Task.ends_bind_iff_of_ends (Task.ends_correlate_iff.mpr ⟨rfl, rfl⟩)] at ends
  generalize (c.surroundings.correlate s.draws).1 = correlation at ends
  generalize (c.surroundings.correlate s.draws).2 = draws at ends
  rcases Task.ends_bind_iff.mp ends with ⟨result, u, answered, ends⟩ | ⟨g, unanswered, same⟩
  · dsimp only at ends
    split at ends
    · rw [Task.ends_note_bind_iff, Task.ends_pure_iff] at ends
      cases ends.1
    · cases (Task.ends_pure_iff.mp ends).1
  · cases same
    rcases ends_accessWithin_storage (s := { s with draws := draws }) keyed unanswered failed with
      same | ⟨id, bytes, objectId, given, stranded⟩
    · exact .inl same
    · exact .inr ⟨id, a, bytes, objectId, named, given, correlation, stranded⟩

end Client

/-- What an access that ends because the store failed leaves of the registry: all of it, or all but
one allowed request, which was recorded before the store was asked for the content. -/
theorem access_outage {store : ContentStore σ} {c : Client} {s : Session σ}
    (keyed : s.registry.IsKeyed) {link : Given CapabilityLink} {action : Document}
    {context : Given Bytes} {f : Fault} {s' : Session σ}
    (ends : (c.accessGiven store link action context).Ends s (.error f) s')
    (failed : f.isIn .storage = true) :
    s'.registry = s.registry ∨ ∃ id a bytes, IsAsked link action context id a bytes ∧
      ∃ correlation, (c.within correlation).IsStranded store s s' f id a bytes := by
  have through : ∀ l, CapabilityLink.ofGiven link = .ok l →
      (c.accessThrough store l action context).Ends s (.error f) s' →
      s'.registry = s.registry ∨ ∃ id a bytes, IsAsked link action context id a bytes ∧
        ∃ correlation, (c.within correlation).IsStranded store s s' f id a bytes := by
    intro l read ends
    rcases Client.ends_accessThrough_storage keyed ends failed with
      same | ⟨id, a, bytes, objectId, named, given, stranded⟩
    · exact .inl same
    · exact .inr ⟨id, a, bytes, ⟨⟨l, read, objectId⟩, named, given⟩, stranded⟩
  cases link with
  | member l => exact through l rfl ends
  | other d =>
    change (c.access store d action context).Ends s (.error f) s' at ends
    unfold Client.access at ends
    rw [Task.ends_ofExcept_bind_iff] at ends
    rcases ends with ⟨l, read, ends⟩ | ⟨-, -, -, rfl⟩
    · exact through l read ends
    · exact .inl rfl

/-! ## An object that lost its content -/

/-- Whether an object has lost its content in a session: it was minted and its metadata can be got,
but the store fails when it is asked for the content. -/
structure Making.IsBereft (k : Making) (store : ContentStore σ) (s : Session σ) (o : CreatedObject)
    (g : Fault) : Prop where
  minted : s.registry.HasMinted o.id k.minting
  metadata : (store.get s.store (.text k.minting.pointer)).result = .ok k.metadata
  ciphertext : (store.get s.store (.text o.contentPointer)).result = .error g
  failing : g.isIn .storage = true

namespace Client

section Bereft

variable {c : Client} {store : ContentStore σ} {own : σ → Prop} {k : Making} {s s' : Session σ}
  {o : CreatedObject} {g : Fault} {a : Action} {r : Except Fault AccessResult}
  (keeping : Keeping store own) (sound : k.IsSound o) (once : c.policy.attemptCount = .ok 1)
  (keyed : s.registry.IsKeyed) (bereft : k.IsBereft store s o g)
  (filled : Text.isBlankText c.identity = false) (whole : Text.IsWhole c.identity)
  (open' : ∀ record, s.registry.record? o.id = some record →
    record.refusal? c.surroundings.now a c.identity = .ok none)

include keeping sound once keyed bereft filled whole open'

/-- An access that is allowed, by a client that tries once, fails if the object has lost its
content; and the registry has moved on. -/
theorem ends_accessWithin_of_isBereft (written : c.surroundings.IsWritten)
    (tellable : c.surroundings.IsTellable) {link : CapabilityLink}
    (named : link.objectId = .integer o.id) {context : Bytes}
    (ends : (c.accessWithin store link a (.member context)).Ends s r s') :
    ∃ f, r = .error f ∧ f.isIn .storage = true ∧ s'.registry ≠ s.registry := by
  obtain ⟨record, found, cites, points⟩ := bereft.minted.exists_record
  have known : s.registry.find link.objectId = .ok (o.id, record) := by
    rw [named, Registry.find]
    simp only [found]
  unfold accessWithin at ends
  rw [Task.ends_get_bind_iff, known] at ends
  rw [Task.ends_bind_iff_of_ends (Task.ends_ofExcept_iff.mpr ⟨rfl, rfl⟩)] at ends
  dsimp only at ends
  rw [points] at ends
  rcases Task.ends_bind_iff.mp ends with ⟨m, u, fetched, ends⟩ | ⟨f, failed, -⟩
  swap
  · obtain ⟨-, -, m, same, -⟩ := ends_fetchMetadata_of_get keeping sound once bereft.metadata failed
    cases same
  obtain ⟨registry, left, m', same, rulesHash, pointer, -⟩ :=
    ends_fetchMetadata_of_get keeping sound once bereft.metadata fetched
  cases same
  have agrees : ¬ Document.text m.rulesHash ≠ record.rulesHash := by
    rw [rulesHash, cites, not_not]
  rw [if_neg agrees] at ends
  have given : contextBytes (.member context) = .ok context := rfl
  rw [given, Task.ends_bind_iff_of_ends (Task.ends_ofExcept_iff.mpr ⟨rfl, rfl⟩)] at ends
  rcases Task.ends_bind_iff.mp ends with ⟨outcome, v, decided, ends⟩ | ⟨f, failed, rfl⟩
  swap
  · obtain ⟨-, _, _, -, -, told, -⟩ := Task.ends_request_of_minted (registry ▸ bereft.minted)
      sound.plain sound.short written filled failed
    obtain ⟨outcome, same⟩ := told.mpr ⟨whole, tellable⟩
    cases same
  obtain ⟨left', record', refusal, found', breaks, -, verdict⟩ := Task.ends_request_of_minted
    (registry ▸ bereft.minted) sound.plain sound.short written filled decided
  rw [registry] at found'
  cases (open' record' found').symm.trans breaks
  obtain ⟨-, ran⟩ := Task.ends_request decided
  rw [registry] at ran
  rcases Registry.request_cases keyed ran with ⟨_, _, _, l, -, moved, -⟩ | ⟨f, same, -⟩
  swap
  · cases same
  have allowed : outcome.allowed = true := by rw [Outcome.allowed, verdict outcome rfl]; rfl
  have gone : (store.get v.store (.text m.pointer)).result = .error g := by
    rw [left', left, pointer]
    exact bereft.ciphertext
  rw [allowed, if_neg (by simp)] at ends
  rcases Task.ends_bind_iff.mp ends with ⟨ciphertext, w, got, -⟩ | ⟨f, withheld, rfl⟩
  · obtain ⟨-, same | ⟨attempts, last, same⟩⟩ := Task.ends_throughStore_of_error once gone got
    · cases same
    · cases same
  · obtain ⟨registry', spent⟩ := Task.ends_throughStore_of_error once gone withheld
    refine ⟨f, rfl, ?_, fun same => ?_⟩
    · rcases spent with same | ⟨attempts, last, same⟩
      · cases same
        exact bereft.failing
      · cases same
        rfl
    · have grown := congrArg (fun reg => reg.log.records.length) (registry'.symm.trans same)
      simp only [moved.log, List.length_append, List.length_singleton] at grown
      omega

/-- Such an access fails also if a correlation has to be drawn. -/
theorem ends_accessThrough_of_isBereft (written : c.surroundings.IsWritten)
    (tellable : c.surroundings.IsTellable) {link : CapabilityLink}
    (named : link.objectId = .integer o.id) {action : Document}
    (known : Action.ofDocument action = .ok a) {context : Bytes}
    (ends : (c.accessThrough store link action (.member context)).Ends s r s') :
    ∃ f, r = .error f ∧ f.isIn .storage = true ∧ s'.registry ≠ s.registry := by
  unfold accessThrough at ends
  rw [known, Task.ends_bind_iff_of_ends (Task.ends_ofExcept_iff.mpr ⟨rfl, rfl⟩),
    Task.ends_bind_iff_of_ends (Task.ends_correlate_iff.mpr ⟨rfl, rfl⟩)] at ends
  have tellable' := (isTellable_within_iff written s.draws).mpr tellable
  have written' := isWritten_within written (c.surroundings.correlate s.draws).1
  generalize (c.surroundings.correlate s.draws).1 = correlation at ends tellable' written'
  generalize (c.surroundings.correlate s.draws).2 = draws at ends
  have bereft' : k.IsBereft store { s with draws := draws } o g :=
    ⟨bereft.minted, bereft.metadata, bereft.ciphertext, bereft.failing⟩
  rcases Task.ends_bind_iff.mp ends with ⟨result, u, answered, -⟩ | ⟨f, failed, rfl⟩
  · obtain ⟨f, same, -⟩ := ends_accessWithin_of_isBereft (c := c.within correlation)
      (s := { s with draws := draws }) keeping sound once keyed bereft' filled whole open' written'
      tellable' named answered
    cases same
  · obtain ⟨f', same, storage, moved⟩ := ends_accessWithin_of_isBereft (c := c.within correlation)
      (s := { s with draws := draws }) keeping sound once keyed bereft' filled whole open' written'
      tellable' named failed
    cases same
    exact ⟨f, rfl, storage, moved⟩

end Bereft

end Client

namespace Rehearsal

/-- Somebody who tries each operation once. -/
def hasty (identity : String) : Client :=
  { client "http://h" identity with
    policy := { RetryPolicy.standard with maxAttempts := .integer 1 } }

/-- A note whose content is lost after it was made is read: that is allowed, recorded, and fails. -/
theorem exists_ends_outage_hi :
    ∃ o s f s', ((client "http://h" "alice").create MemoryStore.store (.note "hi")).Ends
        (opening {}) (.ok o) s ∧ s.registry.IsKeyed ∧
      ((hasty "bob").accessGiven MemoryStore.store (.other (.text o.link)) (.text "READ")
        (.member [])).Ends { s with store := s.store.erase o.contentPointer } (.error f) s' ∧
      f.isIn .storage = true ∧ s'.registry ≠ s.registry := by
  obtain ⟨o, s, created, faithful, pointer', pointer⟩ := exists_ends_create_hi
  obtain ⟨k, -, sound, atHand, origin, parsed⟩ := exists_atHand_of_create
    (s := opening ({} : MemoryStore)) .memory MemoryStore.isOwn_empty (by decide)
    (isCreator isOrigin_http) created faithful (List.forall_mem_nil _)
  have keyed : s.registry.IsKeyed := Registry.isKeyed_empty.leads
    (Client.isLawful_create _ _ _ _ _ _ created).registry
  have bob : Text.isBlankText "bob" = false := by decide
  have bob' : Text.IsWhole "bob" := by decide
  obtain ⟨r, s', ends⟩ := Task.exists_ends ((hasty "bob").accessGiven MemoryStore.store
    (.other (.text o.link)) (.text "READ") (.member []))
    { s with store := s.store.erase o.contentPointer }
  have through := ends
  change ((hasty "bob").access MemoryStore.store (.text o.link) (.text "READ") (.member [])).Ends
    _ r s' at through
  unfold Client.access at through
  rw [parsed, Task.ends_bind_iff_of_ends (Task.ends_ofExcept_iff.mpr ⟨rfl, rfl⟩)] at through
  have bereft : k.IsBereft MemoryStore.store { s with store := s.store.erase o.contentPointer } o
      (.storage (.absent o.contentPointer) (.text o.contentPointer)) := by
    have digest : digestOfPointer (.text o.contentPointer) = .ok o.contentPointer := by
      rw [pointer]
      exact digestOfPointer_ofBytes _
    refine ⟨atHand.minted, ?_, ?_, rfl⟩
    · obtain ⟨key, spelled, found⟩ := MemoryStore.get_eq_ok_iff.mp atHand.metadata
      refine MemoryStore.get_eq_ok_iff.mpr ⟨key, spelled, ?_⟩
      rw [sound.pointer, pointer', digestOfPointer_ofBytes] at spelled
      have same := Except.ok.inj spelled
      have apart : key ≠ o.contentPointer := by
        rw [← same, pointer]
        exact ofBytes_ne_hi.symm
      rw [MemoryStore.blob?_erase, if_neg apart]
      exact found
    · change (digestOfPointer (.text o.contentPointer) >>= _) = _
      rw [digest, ok_bind, MemoryStore.blob?_erase, if_pos rfl]
      rfl
  have open' : ∀ record, s.registry.record? o.id = some record →
      record.refusal? 0 .read "bob" = .ok none := fun record found =>
    refusal?_of_create_note (by decide) created .refl found 0 "bob"
  obtain ⟨f, rfl, storage, moved⟩ := Client.ends_accessThrough_of_isBereft (c := hasty "bob")
    (s := { s with store := s.store.erase o.contentPointer }) (a := .read) .memory sound rfl keyed
    bereft bob bob' open' (Source.isWritten_numbered 0 .null) (fun here => by cases here) rfl (by rfl)
    through
  exact ⟨o, s, f, s', created, keyed, ends, storage, moved⟩

end Rehearsal

open Rehearsal

/-- That the store fails does not mean that the registry is left alone. -/
theorem not_registry_kept : ¬ ∀ (c : Client) (s s' : Session MemoryStore)
    (link : Given CapabilityLink) (action : Document) (context : Given Bytes) (f : Fault),
    s.registry.IsKeyed → (c.accessGiven MemoryStore.store link action context).Ends s (.error f) s' →
    f.isIn .storage = true → s'.registry = s.registry := by
  intro kept
  obtain ⟨o, s, f, s', -, keyed, ends, storage, moved⟩ := exists_ends_outage_hi
  exact moved (kept _ { s with store := s.store.erase o.contentPointer } _ _ _ _ _ keyed ends
    storage)

/-- Who comes for a note that lost its content is told of as somebody who was allowed to read it. -/
theorem access_outage_hi :
    ∃ o s f s', ((client "http://h" "alice").create MemoryStore.store (.note "hi")).Ends
        (opening {}) (.ok o) s ∧
      ((hasty "bob").accessGiven MemoryStore.store (.other (.text o.link)) (.text "READ")
        (.member [])).Ends { s with store := s.store.erase o.contentPointer } (.error f) s' ∧
      f.isIn .storage = true ∧ ∃ id a bytes correlation,
        IsAsked (.other (.text o.link)) (.text "READ") (.member []) id a bytes ∧
        ((hasty "bob").within correlation).IsStranded MemoryStore.store
          { s with store := s.store.erase o.contentPointer } s' f id a bytes := by
  obtain ⟨o, s, f, s', created, keyed, ends, storage, moved⟩ := exists_ends_outage_hi
  rcases access_outage (s := { s with store := s.store.erase o.contentPointer }) keyed ends storage
    with same | ⟨id, a, bytes, asked, correlation, stranded⟩
  · exact absurd same moved
  · exact ⟨o, s, f, s', created, ends, storage, id, a, bytes, correlation, asked, stranded⟩

end RuleBound
