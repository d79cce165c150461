import RuleBound.Proofs.Registry.Keyed
import RuleBound.Proofs.Registry.Lasting
import RuleBound.Proofs.Registry.Persistence
import RuleBound.Proofs.Registry.Saving

/-!
How a registry grows. The identifiers in use are below the next one, in a registry that was read
from a snapshot and in every one that mints and verdicts make of it; so what is minted stands behind
all other records, and a mint that is answered adds one record and one event and nothing else.

What stands in the way of writing a registry is a number that is too long, in what it counts, in a
record or in an event. A mint brings in the next identifier, the number of an event, and the numbers
of the rules that it is given.
-/

namespace RuleBound

open Document (Every IsShort)

namespace Registry

variable {reg reg' : Registry}

/-- Whether all identifiers in use are below the next one. -/
def IsNumbered (reg : Registry) : Prop := ∀ e ∈ reg.records, e.1 < reg.nextId

theorem isNumbered_empty : IsNumbered {} := List.forall_mem_nil _

/-- The next identifier is not in use. -/
theorem IsNumbered.nextId_not_mem (numbered : reg.IsNumbered) :
    reg.nextId ∉ reg.records.map Prod.fst := by
  intro mem
  obtain ⟨e, known, same⟩ := List.mem_map.mp mem
  exact absurd (same ▸ numbered e known) (Int.lt_irrefl _)

theorem IsNumbered.record?_nextId (numbered : reg.IsNumbered) : reg.record? reg.nextId = none := by
  rw [record?, Option.map_eq_none_iff, List.find?_eq_none]
  intro e known here
  exact absurd (beq_iff_eq.mp here) (Int.ne_of_lt (numbered e known))

theorem mem_putRecord {records : List (Int × Record)} {id : Int} {r : Record} {e : Int × Record}
    (mem : e ∈ putRecord records id r) : e = (id, r) ∨ e ∈ records := by
  induction records with
  | nil => exact .inl (List.mem_singleton.mp mem)
  | cons s records ih =>
    rw [putRecord] at mem
    split_ifs at mem with here
    · rcases List.mem_cons.mp mem with new | later
      · exact .inl new
      · exact .inr (List.mem_cons_of_mem _ later)
    · rcases List.mem_cons.mp mem with rfl | later
      · exact .inr List.mem_cons_self
      · exact (ih later).imp_right (List.mem_cons_of_mem _)

theorem IsNumbered.happens (numbered : reg.IsNumbered) {d : Deed} (happens : Happens reg d reg') :
    reg'.IsNumbered := by
  intro e mem
  cases happens with
  | mint now checked stamp =>
    rw [emit_records] at mem
    rw [emit_nextId]
    rcases mem_putRecord mem with rfl | known
    · exact Int.lt_succ _
    · exact Int.lt_trans (numbered e known) (Int.lt_succ _)
  | verdict found breaks after correlation stamp =>
    rw [emit_records] at mem
    rw [emit_nextId]
    rcases mem_putRecord mem with rfl | known
    · obtain ⟨s, there, -⟩ := Option.map_eq_some_iff.mp found
      have same := List.find?_some there
      rw [← beq_iff_eq.mp same]
      exact numbered s (List.mem_of_find?_eq_some there)
    · exact numbered e known

/-- Identifiers stay below the next one whatever deeds are done. -/
theorem IsNumbered.leads (numbered : reg.IsNumbered) (leads : Leads reg reg') :
    reg'.IsNumbered := by
  induction leads with
  | refl => exact numbered
  | tail _ next ih =>
    obtain ⟨d, happens⟩ := next
    exact ih.happens happens

theorem lt_freeId {records : List (Int × Record)} {e : Int × Record} (mem : e ∈ records) :
    e.1 < freeId records := by
  have reach : ∀ (ids : List Int) (id k : Int), k = id ∨ k ∈ ids → k ≤ ids.foldl max id := by
    intro ids
    induction ids with
    | nil =>
      intro id k held
      rcases held with rfl | mem
      · exact Int.le_refl _
      · cases mem
    | cons n ids ih =>
      intro id k held
      rw [List.foldl_cons]
      rcases held with rfl | mem
      · exact Int.le_trans (le_max_left _ n) (ih _ _ (.inl rfl))
      · rcases List.mem_cons.mp mem with rfl | later
        · exact Int.le_trans (le_max_right id _) (ih _ _ (.inl rfl))
        · exact ih _ _ (.inr later)
  have named := List.mem_map_of_mem (f := Prod.fst) mem
  unfold freeId
  cases ids : records.map Prod.fst with
  | nil =>
    rw [ids] at named
    cases named
  | cons id rest =>
    rw [ids, List.mem_cons] at named
    exact Int.lt_add_one_of_le (reach rest id e.1 named)

/-- The identifiers in use in a registry that was read from a snapshot are below the next one. -/
theorem isNumbered_of_restore {s : Surroundings} {drawn drawn' : Nat} {d : Document}
    (restored : restore s drawn d = (drawn', .ok reg)) : reg.IsNumbered := by
  obtain ⟨log, parts⟩ := exists_ofParts_of_restore restored
  obtain ⟨given, -, parts⟩ := bind_eq_ok_iff.mp parts
  obtain ⟨items, -, parts⟩ := bind_eq_ok_iff.mp parts
  obtain ⟨read, -, parts⟩ := bind_eq_ok_iff.mp parts
  obtain ⟨next, -, parts⟩ := bind_eq_ok_iff.mp parts
  obtain ⟨nextId, -, parts⟩ := bind_eq_ok_iff.mp parts
  cases parts
  exact fun e mem => Int.lt_of_lt_of_le (lt_freeId mem) (le_max_right ..)

/-! ## Mints that are answered -/

/-- The registry with a record that was minted and the event of that. -/
def grown (reg : Registry) (r : Record) (l : LogRecord) : Registry where
  records := reg.records ++ [(reg.nextId, r)]
  nextId := reg.nextId + 1
  log := ⟨reg.log.records ++ [l], reg.log.sequence + 1⟩

/-- What an event tells of a mint. -/
def createdBody (id : Int) (m : Minting) : EventBody :=
  .created (.integer id) (.text m.creator) (.integer m.kind.number) (.text m.rulesHash)
    (.text m.pointer)

/-- Whether a registry grew by an object that was minted under an identifier: by its record, and by
an event that tells of it. -/
def Grows (reg reg' : Registry) (id now : Int) (m : Minting) : Prop :=
  reg.IsNumbered → ∃ l reference,
    reg' = reg.grown (newRecord id now m) l ∧ l.Tells (createdBody id m) reference

/-- A mint that is answered adds a record and an event that tells of it, and nothing else. -/
theorem grows_of_create {s : Surroundings} {d d' : Draws} {request : MintRequest} {id : Int}
    {event : Event} {m : Minting} (created : reg.create s d request = (d', reg', .ok (id, event)))
    (checked : request.check = .ok m) : reg.Grows reg' id s.now m := by
  intro numbered
  rw [create, checked] at created
  have answer : (reg.mint s.now (s.stamp d) m).2 = .ok (id, event) :=
    congrArg (fun x => x.2.2) created
  have left : (reg.mint s.now (s.stamp d) m).1 = reg' := congrArg (fun x => x.2.1) created
  rw [mint_snd] at answer
  rw [mint_fst] at left
  obtain ⟨recorded, emitted, named⟩ := map_eq_ok_iff.mp answer
  cases named
  rcases emit_cases ({ reg with
      records := putRecord reg.records reg.nextId (newRecord reg.nextId s.now m)
      nextId := reg.nextId + 1 } : Registry) reg.nextId (createdEvent reg.nextId m (s.stamp d)) with
    ⟨reference, -, digest, told⟩ | ⟨f, -, failed⟩
  · refine ⟨nextLogRecord reg.log reg.nextId (createdEvent reg.nextId m (s.stamp d)) reference,
      reference, ?_, rfl, rfl, digest⟩
    rw [← left, told]
    unfold grown
    rw [putRecord_of_not_mem _ numbered.nextId_not_mem]
  · rw [failed] at emitted
    cases emitted

end Registry

/-! ## Registries that can be written -/

/-- Whether no number in rules is too long to be written. -/
structure CompactRules.IsBrief (r : CompactRules) : Prop where
  expiry : IsShort r.expiry
  maxUses : IsShort r.maxUses
  version : IsShort r.version

theorem CompactRules.IsTyped.every_isShort {r : CompactRules} (typed : r.IsTyped) (brief : r.IsBrief)
    {d : Document} (made : r.toDocument = .ok d) : Every IsShort d := by
  obtain ⟨⟨expiry, maxUses⟩, ⟨scope, is⟩, ⟨copy, isCopy⟩, ⟨forward, isForward⟩,
    ⟨exported, isExport⟩, ⟨lock, isLock⟩, ⟨identity, isIdentity⟩, ⟨version, isVersion⟩⟩ := typed
  obtain ⟨short, short', short''⟩ := brief
  unfold toDocument at made
  rw [is] at made
  cases made
  rw [expiry] at short ⊢
  rw [maxUses] at short' ⊢
  rw [isVersion] at short'' ⊢
  simp [isCopy, isForward, isExport, isLock, isIdentity, short, short', short'']

namespace Registry

variable {reg : Registry} {es : List Entry}

/-- Whether no number of a registry is too long to be written. -/
structure IsBrief (reg : Registry) : Prop where
  next : IsShort (.integer reg.nextId)
  records : ∀ s ∈ reg.records, ∀ d, s.2.toDocument = .ok d → Every IsShort d
  events : ∀ r ∈ reg.log.records, Every IsShort r.toDocument

theorem isBrief_empty : IsBrief {} where
  next := Document.isShort_one
  records := List.forall_mem_nil _
  events := List.forall_mem_nil _

/-- A registry can be written exactly if none of its numbers is too long. -/
theorem Holds.written_iff_isBrief (holds : reg.Holds es) :
    (∃ text, reg.saved = .ok text) ↔ reg.IsBrief := by
  have entries : (∀ s ∈ reg.records, ∀ d, s.2.toDocument = .ok d → Every IsShort d) ↔
      ∀ e ∈ es, Every IsShort e.document := by
    rw [holds.records, List.forall_mem_map]
    refine forall₂_congr fun e mem => ?_
    have made := (e.ofDocument_document (holds.typed e mem)).1
    refine ⟨fun all => all _ made, fun short d made' => ?_⟩
    cases made.symm.trans made'
    exact short
  have parts : Every IsShort (reg.document es) ↔ IsShort (.integer reg.nextId) ∧
      (∀ e ∈ es, Every IsShort e.document) ∧
      ∀ r ∈ reg.log.records, Every IsShort r.toDocument := by
    simp [document, EventLog.toDocument]
  rw [holds.written_iff, Document.hasLongNumeral_eq_false_iff, parts, ← entries]
  exact ⟨fun all => ⟨all.1, all.2.1, all.2.2⟩, fun brief => ⟨brief.next, brief.records,
    brief.events⟩⟩

/-- The record of a new object has a document of short numbers. -/
theorem every_isShort_newRecord {id now : Int} {m : Minting} (typed : m.IsTyped)
    (brief : m.rules.IsBrief) (short : IsShort (.integer id)) (clock : IsShort (.integer now))
    {d : Document} (made : (newRecord id now m).toDocument = .ok d) : Every IsShort d := by
  obtain ⟨rules, ruled, -⟩ := typed.rules.exists_document
  obtain ⟨texts, -, whitelist⟩ := typed.whitelist
  have plain := typed.rules.toIsPlain
  have uses : IsShort (.integer m.rules.maxUses.value) := by
    rw [← plain.maxUses]
    exact brief.maxUses
  rw [m.newRecord_eq plain] at made
  have entry := (Entry.mk id now m (.initial m.rules)).toDocument_record ruled whitelist
  cases entry.symm.trans made
  have within := typed.rules.every_isShort brief ruled
  simp [Entry.parts, Members.documents, Standing.initial, short, clock, uses, within]

theorem nextId_mint (reg : Registry) (now : Int) (stamp : Stamp) (m : Minting) :
    (reg.mint now stamp m).1.nextId = reg.nextId + 1 := by
  rw [mint_fst, emit_nextId]

theorem records_mint (reg : Registry) (now : Int) (stamp : Stamp) (m : Minting) :
    (reg.mint now stamp m).1.records =
      putRecord reg.records reg.nextId (newRecord reg.nextId now m) := by
  rw [mint_fst, emit_records]

/-- A mint is told of under the next number, or not at all. -/
theorem log_mint_cases (reg : Registry) (now : Int) (stamp : Stamp) (m : Minting) :
    (∃ reference, isRecordable reg.nextId (createdEvent reg.nextId m stamp) = true ∧
      (reg.mint now stamp m).1.log = ⟨reg.log.records ++ [nextLogRecord reg.log reg.nextId
        (createdEvent reg.nextId m stamp) reference], reg.log.sequence + 1⟩) ∨
    (isRecordable reg.nextId (createdEvent reg.nextId m stamp) = false ∧
      (reg.mint now stamp m).1.log = ⟨reg.log.records,
        if (Document.integer reg.nextId).hasLongNumeral then reg.log.sequence
        else reg.log.sequence + 1⟩) := by
  rw [mint_fst]
  rcases emit_cases ({ reg with
      records := putRecord reg.records reg.nextId (newRecord reg.nextId now m)
      nextId := reg.nextId + 1 } : Registry) reg.nextId (createdEvent reg.nextId m stamp) with
    ⟨reference, told, -, emitted⟩ | ⟨f, untold, emitted⟩
  · exact .inl ⟨reference, told, by rw [emitted]⟩
  · exact .inr ⟨untold, by rw [emitted]⟩

/-- A mint in short numbers leaves a registry that can be written, if it could be before. -/
theorem IsBrief.mint (before : reg.IsBrief) {m : Minting} (typed : m.IsTyped)
    (brief : m.rules.IsBrief) {now : Int} (clock : IsShort (.integer now)) (stamp : Stamp)
    (next : IsShort (.integer (reg.nextId + 1)))
    (number : IsShort (.integer (reg.log.sequence + 1)))
    (version : IsShort (.integer
      ((reg.log.stream (.text (toString reg.nextId))).length + 1))) :
    (reg.mint now stamp m).1.IsBrief where
  next := by
    rw [nextId_mint]
    exact next
  records := by
    rw [records_mint]
    intro s mem d made
    rcases mem_putRecord mem with rfl | known
    · exact every_isShort_newRecord typed brief before.next clock made
    · exact before.records s known d made
  events := by
    rcases reg.log_mint_cases now stamp m with ⟨reference, -, told⟩ | ⟨-, untold⟩
    · rw [told]
      refine List.forall_mem_append.mpr ⟨before.events, List.forall_mem_singleton.mpr ?_⟩
      have kind : IsShort (.integer m.kind.number) := Document.isShort_of_natAbs_lt (by
        cases m.kind <;> decide)
      simpa [LogRecord.toDocument, nextLogRecord, Event.toDocument, createdEvent, Event.fields,
        EventBody.fields, before.next, kind, number] using version
    · rw [untold]
      exact before.events

end Registry

end RuleBound
