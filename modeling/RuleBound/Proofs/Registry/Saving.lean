import RuleBound.Registry.Snapshot
import RuleBound.Proofs.Document.Canonical
import RuleBound.Proofs.Event.Written
import RuleBound.Proofs.Registry.Minting

/-!
Registries as documents. A registry whose records were minted under typed rules is a list of
entries beside a log: `Registry.Holds` says so, and everything that saving writes and restoring
reads is a function of the entries.

What comes back is `Entry.reread`, the entry with its texts as a reader takes them back. They are
the same texts unless one has two halves of a pair side by side.
-/

namespace RuleBound

open Document (Every IsOrderly)

/-! ## Rules -/

namespace CompactRules

/-- Whether rules hold truth values, whole numbers and a scope where they belong. -/
structure IsTyped (r : CompactRules) : Prop extends IsPlain r where
  scope : ∃ scope, r.scope = .member scope
  forbidCopy : ∃ b, r.forbidCopy = .bool b
  forbidForward : ∃ b, r.forbidForward = .bool b
  forbidExport : ∃ b, r.forbidExport = .bool b
  lockOnViolation : ∃ b, r.lockOnViolation = .bool b
  requireIdentity : ∃ b, r.requireIdentity = .bool b
  version : ∃ n, r.version = .integer n

/-- Typed rules have a document of scalars that is read as them. -/
theorem IsTyped.exists_fields {r : CompactRules} (typed : r.IsTyped) :
    ∃ fields, r.toDocument = .ok (.object fields) ∧
      CompactRules.ofDocument (.object fields) = .ok r ∧ Document.Whole (.object fields) ∧
      Every IsOrderly (.object fields) ∧ ∀ f ∈ fields, f.2.isScalar = true := by
  obtain ⟨⟨expiry, maxUses⟩, ⟨scope, is⟩, ⟨copy, isCopy⟩, ⟨forward, isForward⟩,
    ⟨exported, isExport⟩, ⟨lock, isLock⟩, ⟨identity, isIdentity⟩, ⟨version, isVersion⟩⟩ := typed
  generalize r.expiry.value = moment at expiry
  generalize r.maxUses.value = uses at maxUses
  obtain ⟨_, _, _, _, _, _, _, _, _⟩ := r
  cases is; cases isCopy; cases isForward; cases isExport; cases isLock; cases isIdentity
  cases isVersion; cases expiry; cases maxUses
  have named : Text.IsWhole scope.name := by cases scope <;> decide
  have names : ∀ name ∈ CompactRules.fieldNames, Text.IsWhole name := by decide
  refine ⟨_, rfl, ?_, ?_, ?_, ?_⟩
  · cases scope <;> rfl
  · simpa [Document.HasWholeTexts, named, CompactRules.fieldNames] using names
  · simpa [IsOrderly, CompactRules.fieldNames] using names
  · simp [Document.isScalar]

/-- Typed rules have a document that is read as them. -/
theorem IsTyped.exists_document {r : CompactRules} (typed : r.IsTyped) :
    ∃ d, r.toDocument = .ok d ∧ d.reread .line = d ∧ CompactRules.ofDocument d = .ok r ∧
      Every IsOrderly d := by
  obtain ⟨fields, made, read, whole, orderly, -⟩ := typed.exists_fields
  exact ⟨_, made, Document.reread_of_whole rfl whole, read, orderly⟩

end CompactRules

/-! ## Entries -/

theorem rereadItems_documents (style : Document.JsonStyle) (texts : List String) :
    Document.rereadItems style (Members.documents texts) =
      Members.documents (texts.map (Text.reread style.asciiOnly)) := by
  rw [Document.rereadItems_eq_map, Members.documents, Members.documents, List.map_map, List.map_map]
  rfl

namespace Minting

/-- Whether something was minted with typed rules, a set of texts and a digest. -/
structure IsTyped (m : Minting) : Prop where
  rules : m.rules.IsTyped
  whitelist : ∃ texts, texts.Nodup ∧ m.whitelist = Members.documents texts
  rulesHash : Text.isDigest m.rulesHash = true

/-- Something that was minted as it is read back: its texts as a reader takes them, and its
whitelist in order. -/
def reread (m : Minting) : Minting :=
  { m with
    creator := Text.reread true m.creator
    pointer := Text.reread true m.pointer
    whitelist := Members.documents (Members.distinct
      ((Members.sorted (Members.texts m.whitelist)).map (Text.reread true))) }

variable {m : Minting}

theorem whitelist_reread {texts : List String} (whitelist : m.whitelist = Members.documents texts) :
    m.reread.whitelist = Members.documents (Members.distinct
      ((Members.sorted texts).map (Text.reread true))) := by
  unfold reread
  simp only [whitelist, Members.texts_documents]

theorem IsChecked.isTyped (checked : m.IsChecked) (rules : m.rules.IsTyped) : m.IsTyped :=
  ⟨rules, checked.exists_texts, checked.isDigest⟩

theorem IsTyped.reread (typed : m.IsTyped) : m.reread.IsTyped :=
  ⟨typed.rules, ⟨_, Members.nodup_distinct _, rfl⟩, typed.rulesHash⟩

end Minting

/-- What stands under an identifier of a registry. -/
structure Registry.Entry where
  id : Int
  born : Int
  minting : Minting
  standing : Standing

namespace Registry.Entry

/-- The record of an entry. -/
def record (e : Entry) : Record := e.minting.recordAt e.id e.born e.standing

/-- An entry as it is read back. -/
def reread (e : Entry) : Entry := { e with minting := e.minting.reread }

/-- The document of an entry, with that of its rules and with the members of its whitelist. -/
def parts (e : Entry) (rules : Document) (members : List String) : Document :=
  .object [("id", .integer e.id), ("creator", .text e.minting.creator),
    ("rdo_type", .text e.minting.kind.name), ("rules_hash", .text e.minting.rulesHash),
    ("rules", rules), ("whitelist", .list (Members.documents members)),
    ("metadata_pointer", .text e.minting.pointer), ("created_at", .integer e.born),
    ("locked", .bool e.standing.locked), ("violation_count", .integer e.standing.violations),
    ("uses_remaining", .integer e.standing.uses)]

theorem toDocument_record (e : Entry) {rules : Document}
    (made : e.minting.rules.toDocument = .ok rules) {texts : List String}
    (whitelist : e.minting.whitelist = Members.documents texts) :
    e.record.toDocument = .ok (e.parts rules (Members.sorted texts)) := by
  have kind : e.record.kind.nameOf ObjectKind.name = .ok e.minting.kind.name := rfl
  have compact : e.record.compactRules = .ok e.minting.rules := rfl
  have sorted : e.record.sortedWhitelist = .ok (Members.documents (Members.sorted texts)) := by
    change sortedMembers e.minting.whitelist = _
    rw [whitelist, Members.sortedMembers_documents]
  unfold Record.toDocument
  simp only [kind, compact, made, sorted, ok_bind]
  rfl

theorem names_of_parts : ∀ name ∈ ["id", "creator", "rdo_type", "rules_hash", "rules", "whitelist",
    "metadata_pointer", "created_at", "locked", "violation_count", "uses_remaining"],
    Text.IsWhole name := by
  decide

theorem reread_parts (e : Entry) (digest : Text.isDigest e.minting.rulesHash = true)
    {rules : Document} (same : rules.reread .line = rules) (members : List String) :
    (e.parts rules members).reread .line =
      e.reread.parts rules (members.map (Text.reread true)) := by
  have kind : Text.IsWhole e.minting.kind.name := by cases e.minting.kind <;> decide
  have hash := Text.isWhole_of_isDigest digest
  rw [parts, Document.reread_object_of_whole rfl (by simpa using names_of_parts)]
  simp only [List.map_cons, List.map_nil, Document.reread, rereadItems_documents, same,
    kind.reread_eq, hash.reread_eq]
  rfl

theorem ofDocument_parts (e : Entry) {rules : Document}
    (read : CompactRules.ofDocument rules = .ok e.minting.rules) (members : List String) :
    Record.ofDocument (e.parts rules members) = .ok (e.id, { e with
      minting := { e.minting with
        whitelist := Members.documents (Members.distinct members) } : Entry }.record) := by
  have kind : ObjectKind.ofName (.text e.minting.kind.name) = .ok e.minting.kind := by
    cases e.minting.kind <;> rfl
  have set := Members.distinctMembers_documents members
  generalize made : e.parts rules members = d
  have required : d.require "id" = .ok (.integer e.id) ∧
      d.require "creator" = .ok (.text e.minting.creator) ∧
      d.require "rdo_type" = .ok (.text e.minting.kind.name) ∧
      d.require "rules_hash" = .ok (.text e.minting.rulesHash) ∧
      d.require "rules" = .ok rules ∧
      d.require "metadata_pointer" = .ok (.text e.minting.pointer) := by
    subst made
    exact ⟨rfl, rfl, rfl, rfl, rfl, rfl⟩
  have looked : d.lookup "whitelist" (.list []) = .ok (.list (Members.documents members)) ∧
      d.lookup "created_at" (.integer 0) = .ok (.integer e.born) ∧
      d.lookup "locked" (.bool false) = .ok (.bool e.standing.locked) ∧
      d.lookup "violation_count" (.integer 0) = .ok (.integer e.standing.violations) ∧
      d.lookup "uses_remaining" (.integer 0) = .ok (.integer e.standing.uses) := by
    subst made
    exact ⟨rfl, rfl, rfl, rfl, rfl⟩
  unfold Record.ofDocument
  simp only [required, looked, ok_bind, Document.toInteger, Document.toItems, kind, set, read]
  rfl

/-- The document of an entry whose record has one. -/
def document (e : Entry) : Document :=
  match e.record.toDocument with
  | .ok d => d
  | .error _ => .null

theorem document_eq_parts (e : Entry) {rules : Document}
    (made : e.minting.rules.toDocument = .ok rules) {texts : List String}
    (whitelist : e.minting.whitelist = Members.documents texts) :
    e.document = e.parts rules (Members.sorted texts) := by
  unfold document
  rw [e.toDocument_record made whitelist]

/-- The record of an entry under typed rules has a document, which is read as the entry with its
texts as they come back. -/
theorem ofDocument_document (e : Entry) (typed : e.minting.IsTyped) :
    e.record.toDocument = .ok e.document ∧
      Record.ofDocument (e.document.reread .line) = .ok (e.id, e.reread.record) ∧
      Every IsOrderly e.document := by
  obtain ⟨rules, made, same, read, orderly⟩ := typed.rules.exists_document
  obtain ⟨texts, -, whitelist⟩ := typed.whitelist
  have written := e.toDocument_record made whitelist
  rw [e.document_eq_parts made whitelist]
  refine ⟨written, ?_, ?_⟩
  · rw [reread_parts e typed.rulesHash same, ofDocument_parts e.reread read]
    rw [← Minting.whitelist_reread whitelist]
    rfl
  · simpa [IsOrderly, orderly, parts, Members.documents] using names_of_parts

end Registry.Entry

/-! ## Registries -/

namespace Registry

/-- Whether the records of a registry are those of entries, in the order of their identifiers, and
its log is one that it has made itself. -/
structure Holds (reg : Registry) (es : List Entry) : Prop where
  records : reg.records = es.map fun e => (e.id, e.record)
  ordered : es.Pairwise fun e f => e.id < f.id
  given : ∀ e ∈ es, e.id < reg.nextId
  positive : 1 ≤ reg.nextId
  typed : ∀ e ∈ es, e.minting.IsTyped
  log : ∀ r ∈ reg.log.records, r.IsSound
  counted : EventLog.lastNumber reg.log.records ≤ reg.log.sequence

/-- The document of a registry that holds entries. -/
def document (reg : Registry) (es : List Entry) : Document :=
  .object [("next_id", .integer reg.nextId), ("records", .list (es.map Entry.document)),
    ("events", reg.log.toDocument)]

/-- A registry that holds entries, as it is read back. -/
def reread (reg : Registry) (es : List Entry) : Registry where
  records := es.map fun e => (e.id, e.reread.record)
  nextId := reg.nextId
  log := ⟨reg.log.records, EventLog.lastNumber reg.log.records⟩

variable {reg : Registry} {es : List Entry}

theorem memberBefore?_integer (m n : Int) :
    memberBefore? (.integer m) (.integer n) = some (decide (m ≤ n)) := by
  have order : memberBefore? (.integer m) (.integer n) = some (compare m n != .gt) := rfl
  rw [order, Option.some.injEq, Bool.eq_iff_iff, bne_iff_ne, decide_eq_true_iff, Ne,
    Int.compare_eq_gt, Int.not_lt]

theorem Holds.sortedRecords_eq (holds : reg.Holds es) :
    reg.sortedRecords = .ok (es.map Entry.record) := by
  have records : reg.records.map Prod.snd = es.map Entry.record := by
    rw [holds.records, List.map_map]
    rfl
  have comparable : ((es.map Entry.record).length < 2 || (es.map Entry.record).all fun r =>
      (memberBefore? (((es.map Entry.record).map Record.id).headD .null) r.id).isSome) = true := by
    cases es with
    | nil => rfl
    | cons e es =>
      rw [Bool.or_eq_true, List.all_eq_true]
      refine .inr fun r mem => ?_
      obtain ⟨f, -, rfl⟩ := List.mem_map.mp mem
      change (memberBefore? (.integer e.id) (.integer f.id)).isSome = true
      rw [memberBefore?_integer]
      rfl
  unfold sortedRecords
  simp only [records]
  rw [if_pos comparable]
  congr 1
  refine List.mergeSort_of_pairwise ?_
  rw [List.pairwise_map]
  refine holds.ordered.imp fun {e f} before => ?_
  change (memberBefore? (.integer e.id) (.integer f.id)).getD true = true
  rw [memberBefore?_integer]
  exact decide_eq_true (Int.le_of_lt before)

/-- A registry that holds entries has a document. -/
theorem Holds.snapshot_eq (holds : reg.Holds es) : reg.snapshot = .ok (reg.document es) := by
  have documents : (es.map Entry.record).mapM Record.toDocument = .ok (es.map Entry.document) := by
    rw [List.mapM_map]
    exact mapM_eq_ok_map fun e mem => (e.ofDocument_document (holds.typed e mem)).1
  unfold snapshot
  rw [holds.sortedRecords_eq, ok_bind, documents]
  rfl

theorem Holds.orderly (holds : reg.Holds es) : Every IsOrderly (reg.document es) := by
  have names : ∀ name ∈ ["next_id", "records", "events"], Text.IsWhole name := by decide
  have entries : ∀ e ∈ es, Every IsOrderly e.document :=
    fun e mem => (e.ofDocument_document (holds.typed e mem)).2.2
  have events : ∀ r ∈ reg.log.records, Every IsOrderly r.toDocument :=
    fun r mem => (holds.log r mem).orderly
  simpa [document, EventLog.toDocument, IsOrderly] using
    And.intro (by simpa using names) (And.intro entries events)

/-! ## Records that are put one after the other -/

theorem putRecord_of_not_mem {records : List (Int × Record)} {id : Int} (r : Record)
    (fresh : id ∉ records.map Prod.fst) : putRecord records id r = records ++ [(id, r)] := by
  induction records with
  | nil => rfl
  | cons s records ih =>
    rw [List.map_cons, List.mem_cons, not_or] at fresh
    rw [putRecord, if_neg (Ne.symm fresh.1), ih fresh.2]
    rfl

theorem foldl_putRecord {known records : List (Int × Record)}
    (distinct : ((known ++ records).map Prod.fst).Nodup) :
    records.foldl (fun known r => putRecord known r.1 r.2) known = known ++ records := by
  induction records generalizing known with
  | nil => simp
  | cons s records ih =>
    have fresh : s.1 ∉ known.map Prod.fst := by
      rw [List.map_append, List.nodup_append] at distinct
      exact fun old => distinct.2.2 s.1 old s.1 (by simp) rfl
    rw [List.foldl_cons, putRecord_of_not_mem s.2 fresh, ih (by simpa using distinct)]
    simp

theorem freeId_le {records : List (Int × Record)} {next : Int} (positive : 1 ≤ next)
    (given : ∀ r ∈ records, r.1 < next) : freeId records ≤ next := by
  have largest : ∀ (ids : List Int) (id : Int), id < next → (∀ k ∈ ids, k < next) →
      ids.foldl max id < next := by
    intro ids
    induction ids with
    | nil => exact fun id small _ => small
    | cons k ids ih =>
      intro id small all
      rw [List.forall_mem_cons] at all
      exact ih _ (max_lt small all.1) all.2
  cases records with
  | nil => exact positive
  | cons r records =>
    rw [List.forall_mem_cons] at given
    exact largest (records.map Prod.fst) r.1 given.1 (by simpa using given.2)

theorem Holds.reread_document (holds : reg.Holds es) :
    (reg.document es).reread .line = .object [("next_id", .integer reg.nextId),
      ("records", .list (es.map fun e => e.document.reread .line)),
      ("events", reg.log.toDocument)] := by
  have names : ∀ name ∈ ["next_id", "records", "events"], Text.IsWhole name := by decide
  have log : reg.log.toDocument.reread .line = reg.log.toDocument := by
    refine Document.reread_of_whole rfl ?_
    simpa [EventLog.toDocument, Document.HasWholeTexts] using fun r mem => (holds.log r mem).whole
  rw [document, Document.reread_object_of_whole rfl (by simpa using names)]
  simp only [List.map_cons, List.map_nil, log, Document.reread, Document.rereadItems_eq_map,
    List.map_map]
  rfl

/-- A document is restored as what a registry is read back as if its records and its events are. -/
theorem Holds.restore_of_lookup (holds : reg.Holds es) {s : Surroundings} {drawn : Nat}
    {d log : Document} {items : List Document}
    (records : d.lookup "records" (.list []) = .ok (.list items))
    (next : d.lookup "next_id" (.integer 1) = .ok (.integer reg.nextId))
    (events : d.lookup "events" (.list []) = .ok log)
    (entries : items.mapM Record.ofDocument = .ok (reg.reread es).records)
    (read : EventLog.ofDocument s drawn log = (drawn, .ok (reg.reread es).log)) :
    restore s drawn d = (drawn, .ok (reg.reread es)) := by
  have distinct : (([] ++ (reg.reread es).records).map Prod.fst).Nodup := by
    rw [List.nil_append, reread, List.map_map]
    exact List.pairwise_map.mpr (holds.ordered.imp fun before => Int.ne_of_lt before)
  have free : freeId (reg.reread es).records ≤ reg.nextId :=
    freeId_le holds.positive (by simpa [reread] using holds.given)
  have parts : ofParts d (reg.reread es).log = .ok (reg.reread es) := by
    unfold ofParts
    simp only [records, next, ok_bind, Document.toItems, Document.toInteger, entries,
      foldl_putRecord distinct, List.nil_append, max_eq_left free]
    rfl
  unfold restore
  simp only [events, read, parts]

/-- A registry that holds entries is read back with its entries as they come back. -/
theorem Holds.restore_eq (holds : reg.Holds es) (s : Surroundings) (drawn : Nat) :
    restore s drawn ((reg.document es).reread .line) = (drawn, .ok (reg.reread es)) := by
  have entries : (es.map fun e => e.document.reread .line).mapM Record.ofDocument =
      .ok (reg.reread es).records := by
    rw [List.mapM_map]
    exact mapM_eq_ok_map fun e mem => (e.ofDocument_document (holds.typed e mem)).2.1
  rw [holds.reread_document]
  exact holds.restore_of_lookup rfl rfl rfl entries
    (EventLog.ofDocument_toDocument s drawn holds.log)

end Registry

end RuleBound
