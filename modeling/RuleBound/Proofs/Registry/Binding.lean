import RuleBound.Registry.Proof
import RuleBound.Registry.Snapshot
import RuleBound.Proofs.Digest
import RuleBound.Proofs.Document.Sameness
import RuleBound.Proofs.Event.Written
import RuleBound.Proofs.Text.Utf8

/-!
What a reference binds. A registry can be restored from any text that is a document, by whomever it
was written, and the events that it holds then say whatever the text says. The reference of a
refusal is the digest of its event, so two registries in which one reference proves a refusal tell
of the same one, unless two events have one digest and different canonical texts.
-/

namespace RuleBound

open Document (Every HasDistinctNames HasWholeTexts IsExact IsKnown IsShort SameFields Whole)

/-! ## Events from documents -/

namespace Event

/-- The names in an event are distinct if those in the fields that describe it are. -/
theorem distinct_ofFields (c : EventClass) {given : List (String × Document)}
    (distinct : Every HasDistinctNames (.object given)) (stamp : Stamp) :
    ∀ f ∈ (ofFields c given stamp).fields, Every HasDistinctNames f.2 := by
  have field := fun name (default : Document) (fine : Every HasDistinctNames default) =>
    Document.distinct_getD distinct fine name
  have text := fun name s => field name (.text s) ((Every.text_iff s).mpr trivial)
  have number := fun name n => field name (.integer n) ((Every.integer_iff n).mpr trivial)
  have null := fun name => field name .null (Every.null_iff.mpr trivial)
  cases c <;> simp [ofFields, fields, EventBody.ofFields, EventBody.fields, text, number, null]

theorem distinct_ofDocument {s : Surroundings} {drawn drawn' : Nat} {d : Document} {e : Event}
    (distinct : Every HasDistinctNames d) (read : ofDocument s drawn d = (drawn', .ok e)) :
    ∀ f ∈ e.fields, Every HasDistinctNames f.2 := by
  unfold ofDocument at read
  cases known : classOf d with
  | error f =>
    rw [known] at read
    cases read
  | ok c =>
    rw [known] at read
    cases read
    refine distinct_ofFields c ?_ _
    split
    · exact distinct
    · exact Document.AreDistinct.nil.object

end Event

theorem LogRecord.event_ofParts {d : Document} {sequence : Int} {event : Event} {r : LogRecord}
    (made : ofParts d sequence event = .ok r) : r.event = event := by
  obtain ⟨stream, -, made⟩ := bind_eq_ok_iff.mp made
  obtain ⟨version, -, made⟩ := bind_eq_ok_iff.mp made
  obtain ⟨number, -, made⟩ := bind_eq_ok_iff.mp made
  obtain ⟨given, -, made⟩ := bind_eq_ok_iff.mp made
  extract_lets join at made
  split at made
  all_goals
    obtain ⟨reference, -, made⟩ := bind_eq_ok_iff.mp made
    cases made
    rfl

/-- The names in a record's event are distinct if those in its document are. -/
theorem LogRecord.distinct_ofDocument {s : Surroundings} {drawn drawn' : Nat} {d : Document}
    {r : LogRecord} (distinct : Every HasDistinctNames d)
    (read : LogRecord.ofDocument s drawn d = (drawn', .ok r)) :
    ∀ f ∈ r.event.fields, Every HasDistinctNames f.2 := by
  unfold LogRecord.ofDocument at read
  extract_lets head at read
  cases made : head with
  | error f =>
    rw [made] at read
    cases read
  | ok parts =>
    obtain ⟨sequence, body⟩ := parts
    obtain ⟨place, -, here⟩ := bind_eq_ok_iff.mp made
    obtain ⟨n, -, here⟩ := bind_eq_ok_iff.mp here
    obtain ⟨body', required, same⟩ := bind_eq_ok_iff.mp here
    cases same
    have within : Every HasDistinctNames body := Document.distinct_require distinct required
    simp only [made] at read
    cases event : Event.ofDocument s drawn body with
    | mk drawn event' =>
      cases event' with
      | error f =>
        simp only [event] at read
        cases read
      | ok e =>
        simp only [event] at read
        have kept : r.event = e := LogRecord.event_ofParts (Prod.mk.inj read).2
        exact kept ▸ Event.distinct_ofDocument within event

namespace EventLog

/-- Whether the names in the events of a log are distinct. -/
def HasDistinctNames (log : EventLog) : Prop :=
  ∀ l ∈ log.records, ∀ f ∈ l.event.fields, Every Document.HasDistinctNames f.2

theorem distinct_loadAll {s : Surroundings} {drawn drawn' : Nat} {log log' : EventLog}
    {items : List Document} (known : log.HasDistinctNames)
    (distinct : ∀ d ∈ items, Every Document.HasDistinctNames d)
    (read : loadAll s drawn log items = (drawn', .ok log')) : log'.HasDistinctNames := by
  induction items generalizing drawn log with
  | nil =>
    cases read
    exact known
  | cons d items ih =>
    rw [List.forall_mem_cons] at distinct
    rw [loadAll] at read
    cases record : LogRecord.ofDocument s drawn d with
    | mk drawn record' =>
      cases record' with
      | error f =>
        simp only [record] at read
        cases read
      | ok r =>
        simp only [record] at read
        refine ih (fun l mem => ?_) distinct.2 read
        rcases List.mem_append.mp mem with before | last
        · exact known l before
        · rw [List.mem_singleton.mp last]
          exact LogRecord.distinct_ofDocument distinct.1 record

theorem distinct_ofDocument {s : Surroundings} {drawn drawn' : Nat} {d : Document} {log : EventLog}
    (distinct : Every Document.HasDistinctNames d)
    (read : EventLog.ofDocument s drawn d = (drawn', .ok log)) : log.HasDistinctNames := by
  unfold EventLog.ofDocument at read
  cases parts : d.toItems with
  | error f =>
    rw [parts] at read
    cases read
  | ok items =>
    rw [parts] at read
    exact distinct_loadAll (fun l mem => by cases mem) (Document.distinct_toItems distinct parts) read

end EventLog

/-- Where the event of a refusal has what it tells. -/
theorem Event.get?_of_refused {e : Event} {id actor action rulesHash reason : Document}
    (body : e.body = .refused id actor action rulesHash reason) :
    e.toDocument.get? "rdo_id" = some id ∧ e.toDocument.get? "actor" = some actor ∧
      e.toDocument.get? "action" = some action ∧
      e.toDocument.get? "rules_hash" = some rulesHash ∧
      e.toDocument.get? "reason" = some reason := by
  simp [toDocument, fields, body, EventBody.fields, Document.get?, Document.field?]

namespace Registry

/-- Whether a registry was restored from a text that is a document. -/
def IsRestored (reg : Registry) : Prop :=
  ∃ text d s drawn drawn', Document.parse text = .ok d ∧ restore s drawn d = (drawn', .ok reg)

theorem log_ofParts {d : Document} {log : EventLog} {reg : Registry}
    (made : ofParts d log = .ok reg) : reg.log = log := by
  obtain ⟨found, -, made⟩ := bind_eq_ok_iff.mp made
  obtain ⟨items, -, made⟩ := bind_eq_ok_iff.mp made
  obtain ⟨records, -, made⟩ := bind_eq_ok_iff.mp made
  obtain ⟨next, -, made⟩ := bind_eq_ok_iff.mp made
  obtain ⟨nextId, -, made⟩ := bind_eq_ok_iff.mp made
  cases made
  rfl

/-- The names in the events of a restored registry are distinct. -/
theorem IsRestored.distinct {reg : Registry} (restored : reg.IsRestored) :
    reg.log.HasDistinctNames := by
  obtain ⟨text, d, s, drawn, drawn', parsed, read⟩ := restored
  have distinct := Document.distinct_of_parse parsed
  unfold restore at read
  cases part : d.lookup "events" (.list []) with
  | error f =>
    rw [part] at read
    cases read
  | ok events =>
    have within : Every HasDistinctNames events :=
      Document.distinct_lookup distinct (by simp [HasDistinctNames]) part
    cases made : EventLog.ofDocument s drawn events with
    | mk drawn log =>
      cases log with
      | error f =>
        simp only [part, made] at read
        cases read
      | ok log =>
        simp only [part, made] at read
        have kept : reg.log = log := log_ofParts (Prod.mk.inj read).2
        exact kept ▸ EventLog.distinct_ofDocument within made

/-! ## Valid proofs -/

theorem eq_of_sameDigest {a b : String} (same : sameDigest a b = .ok true) : a = b := by
  unfold sameDigest at same
  split at same
  · simpa using same
  · cases same

theorem exists_text_of_sameDigests {a b : Document} (same : sameDigests a b = .ok true) :
    ∃ s, a = .text s ∧ b = .text s := by
  cases a with
  | text s =>
    cases b with
    | text t => exact ⟨s, rfl, by rw [eq_of_sameDigest same]⟩
    | _ => cases same
  | _ => cases same

variable {reg : Registry}

/-- An event cites its record without fault only if the record has the rules that it cites. -/
theorem exists_record_of_citation {id rulesHash : Document}
    (cites : reg.citationErrors id rulesHash = .ok []) :
    ∃ r s, reg.namedRecord? id = .ok (some r) ∧ r.rulesHash = .text s ∧ rulesHash = .text s := by
  obtain ⟨found, named, cites⟩ := bind_eq_ok_iff.mp cites
  cases found with
  | none => cases cites
  | some r =>
    obtain ⟨same, compared, cites⟩ := bind_eq_ok_iff.mp cites
    cases same with
    | false => cases cites
    | true =>
      obtain ⟨s, record, event⟩ := exists_text_of_sameDigests compared
      exact ⟨r, s, named, record, event⟩

/-- What a valid proof rests on: the event of a refusal with the reference for its digest, and a
record with the rules that the event cites. -/
structure IsProof (reg : Registry) (reference : String) (p : RefusalProof) (e : Event) : Prop where
  digest : e.digest = .ok reference
  body : ∃ action a, e.body = .refused p.objectId p.actor action p.rulesHash p.reason ∧
    Action.ofNumber action = .ok a ∧ p.action = some a
  record : ∃ r s, reg.namedRecord? p.objectId = .ok (some r) ∧ r.rulesHash = .text s ∧
    p.rulesHash = .text s

theorem exists_isProof_of_valid {reference : Document} {p : RefusalProof}
    (proved : reg.verifyRefusal reference = .ok p) (valid : p.valid = true) :
    ∃ l ∈ reg.log.records, reg.IsProof (Text.lower reference.shown) p l.event := by
  unfold verifyRefusal at proved
  cases found : reg.log.find? reference.shown with
  | none =>
    simp only [found] at proved
    cases proved
    cases valid
  | some l =>
    have named : l.reference = Text.lower reference.shown := by
      simpa using List.find?_some found
    refine ⟨l, List.mem_reverse.mp (List.mem_of_find?_eq_some found), ?_⟩
    simp only [found] at proved
    cases body : l.event.body with
    | refused id actor action rulesHash reason =>
      simp only [body] at proved
      obtain ⟨digest, digested, proved⟩ := bind_eq_ok_iff.mp proved
      obtain ⟨intact, compared, proved⟩ := bind_eq_ok_iff.mp proved
      obtain ⟨citations, cites, proved⟩ := bind_eq_ok_iff.mp proved
      obtain ⟨a, acted, proved⟩ := bind_eq_ok_iff.mp proved
      cases proved
      obtain ⟨unbroken, none⟩ := List.append_eq_nil_iff.mp (List.isEmpty_iff.mp valid)
      have whole : intact = true := by
        by_contra broken
        rw [if_neg broken] at unbroken
        cases unbroken
      rw [whole] at compared
      rw [none] at cites
      refine ⟨?_, ⟨action, a, body, acted, rfl⟩, exists_record_of_citation cites⟩
      rw [digested, eq_of_sameDigest compared, named]
    | _ =>
      simp only [body] at proved
      cases proved
      cases valid

/-- Whether two proofs tell of one refusal. Who acted and why the request was refused can be any
document, and is the same but for the order of fields. -/
structure TellsAs (p p' : RefusalProof) : Prop where
  objectId : p.objectId = p'.objectId
  actor : SameFields p.actor p'.actor ∧ p.actor.agrees p'.actor = true
  action : p.action = p'.action
  reason : SameFields p.reason p'.reason ∧ p.reason.agrees p'.reason = true
  rulesHash : p.rulesHash = p'.rulesHash

/-- Whether the canonical texts of the events in two logs have different digests, unless they have
the same bytes. -/
def IsCollisionFree (log log' : EventLog) : Prop :=
  ∀ l ∈ log.records, ∀ l' ∈ log'.records, ∀ text text',
    l.event.toDocument.canonical = .ok text → l'.event.toDocument.canonical = .ok text' →
    Sha256.ofText text = Sha256.ofText text' → Text.utf8 text = Text.utf8 text'

variable {reference : String} {p p' : RefusalProof} {e e' : Event}

theorem known_of_digest (digested : e.digest = .ok reference)
    (distinct : ∀ f ∈ e.fields, Every HasDistinctNames f.2) : Every IsKnown e.toDocument := by
  obtain ⟨text, written, -⟩ := map_eq_ok_iff.mp digested
  exact Document.known_of_canonical written (Event.distinct_toDocument distinct)

/-- Proofs that rest on events whose documents are the same tell of one refusal. -/
theorem IsProof.tellsAs {reg' : Registry} (proof : reg.IsProof reference p e)
    (proof' : reg'.IsProof reference p' e') (same : SameFields e.toDocument e'.toDocument)
    (known : Every IsKnown e.toDocument) (known' : Every IsKnown e'.toDocument) :
    TellsAs p p' := by
  obtain ⟨action, a, body, acted, told⟩ := proof.body
  obtain ⟨action', a', body', acted', told'⟩ := proof'.body
  obtain ⟨r, hash, named, -, hashed⟩ := proof.record
  have field : ∀ name d d', e.toDocument.get? name = some d → e'.toDocument.get? name = some d' →
      SameFields d d' ∧ Every IsKnown d ∧ Every IsKnown d' := by
    intro name d d' found found'
    obtain ⟨part, found'', fine⟩ := same.get? known known' found
    cases found'.symm.trans found''
    exact fine
  obtain ⟨id, actor, act, rules, reason⟩ := Event.get?_of_refused body
  obtain ⟨id', actor', act', rules', reason'⟩ := Event.get?_of_refused body'
  obtain ⟨sameId, knownId, knownId'⟩ := field _ _ _ id id'
  obtain ⟨sameAct, knownAct, knownAct'⟩ := field _ _ _ act act'
  obtain ⟨sameRules, knownRules, knownRules'⟩ := field _ _ _ rules rules'
  obtain ⟨sameActor, knownActor, knownActor'⟩ := field _ _ _ actor actor'
  obtain ⟨sameReason, knownReason, knownReason'⟩ := field _ _ _ reason reason'
  have scalarId : p.objectId.isScalar = true := by
    by_contra parts
    rw [namedRecord?, if_neg parts] at named
    cases named
  have scalarAct : action.isScalar = true := by
    unfold Action.ofNumber byNumber at acted
    split at acted
    · next found =>
      have number := List.find?_some found
      exact Document.isScalar_of_isNumber number
    · cases acted
  have scalarRules : p.rulesHash.isScalar = true := by
    rw [hashed]
    rfl
  refine ⟨sameId.eq_of_isScalar knownId.here knownId'.here scalarId,
    ⟨sameActor, sameActor.agrees knownActor knownActor'⟩, ?_,
    ⟨sameReason, sameReason.agrees knownReason knownReason'⟩,
    sameRules.eq_of_isScalar knownRules.here knownRules'.here scalarRules⟩
  have one := sameAct.eq_of_isScalar knownAct.here knownAct'.here scalarAct
  rw [one, acted'] at acted
  rw [told, told', Except.ok.inj acted]

/-- If one reference proves a refusal in two registries that were restored from texts, both proofs
tell of one refusal, and in each registry the record that they name has the rules that they cite,
provided that no two events in them have one digest and different canonical texts. -/
theorem verifyRefusal_binds {reg reg' : Registry} (restored : reg.IsRestored)
    (restored' : reg'.IsRestored) (free : IsCollisionFree reg.log reg'.log) {reference : Document}
    {p p' : RefusalProof} (proved : reg.verifyRefusal reference = .ok p) (valid : p.valid = true)
    (proved' : reg'.verifyRefusal reference = .ok p') (valid' : p'.valid = true) :
    TellsAs p p' ∧
      (∃ r, reg.namedRecord? p.objectId = .ok (some r) ∧ r.rulesHash = p.rulesHash) ∧
      ∃ r, reg'.namedRecord? p'.objectId = .ok (some r) ∧ r.rulesHash = p'.rulesHash := by
  obtain ⟨l, mem, proof⟩ := exists_isProof_of_valid proved valid
  obtain ⟨l', mem', proof'⟩ := exists_isProof_of_valid proved' valid'
  have distinct := restored.distinct l mem
  have distinct' := restored'.distinct l' mem'
  obtain ⟨text, written, digest⟩ := map_eq_ok_iff.mp proof.digest
  obtain ⟨text', written', digest'⟩ := map_eq_ok_iff.mp proof'.digest
  have one : text = text' :=
    Text.utf8_injective (free l mem l' mem' text text' written written' (digest.trans digest'.symm))
  have same : SameFields l.event.toDocument l'.event.toDocument :=
    Document.sameFields_of_canonical written (one ▸ written') (Event.distinct_toDocument distinct)
      (Event.distinct_toDocument distinct')
  obtain ⟨r, hash, named, cited, hashed⟩ := proof.record
  obtain ⟨r', hash', named', cited', hashed'⟩ := proof'.record
  exact ⟨proof.tellsAs proof' same (known_of_digest proof.digest distinct)
    (known_of_digest proof'.digest distinct'), ⟨r, named, cited.trans hashed.symm⟩,
    r', named', cited'.trans hashed'.symm⟩

/-! ## A snapshot that was edited -/

/-- A refusal whose actor is any document. -/
def editedEvent (actor : Document) : Event where
  id := .text "e"
  timestamp := .text "t"
  correlation := .null
  body := .refused (.integer 1) actor (.integer 1) (.text "c0de") (.text "no")

/-- The record that the refusal cites. -/
def editedRecord : Record where
  id := .integer 1
  creator := .text "alice"
  kind := .member .message
  rulesHash := .text "c0de"
  rules := .member {}
  whitelist := .member []
  pointer := .text "shelf"
  createdAt := .integer 0
  locked := .bool false
  violations := .integer 0
  usesRemaining := .integer 0

/-- A registry with the record and the refusal, whose canonical text is given. -/
def editedRegistry (actor : Document) (text : String) : Registry where
  records := [(1, editedRecord)]
  nextId := 2
  log := ⟨[⟨1, editedEvent actor, .text "1", 1, Sha256.ofText text⟩], 1⟩

/-- A snapshot with the record and the refusal. -/
def editedDocument (actor : Document) : Document :=
  .object [("records", .list [.object [("id", .integer 1), ("creator", .text "alice"),
      ("rdo_type", .text "MESSAGE"), ("rules_hash", .text "c0de"), ("rules", .object []),
      ("metadata_pointer", .text "shelf")]]),
    ("events", .list [.object [("sequence_number", .integer 1), ("stream_id", .integer 1),
      ("version", .integer 1), ("event", .object [("event_type", .text "ActionRefused"),
        ("event_id", .text "e"), ("event_timestamp", .text "t"), ("rdo_id", .integer 1),
        ("actor", actor), ("action", .integer 1), ("rules_hash", .text "c0de"),
        ("reason", .text "no")])]])]

theorem canonical_editedEvent {actor : Document}
    (known : Every IsExact actor ∧ Every IsShort actor ∧ Whole actor) :
    (editedEvent actor).toDocument.canonical =
      .ok ((editedEvent actor).toDocument.toJson .canonical) := by
  refine (Document.canonical_eq_ok_iff ..).mpr ⟨?_, rfl⟩
  have texts : ∀ s ∈ ["e", "t", "c0de", "no"], Text.IsWhole s := by decide
  rw [Event.exact_toDocument_iff, Event.short_toDocument_iff, Event.whole_toDocument_iff]
  simpa [editedEvent, Event.fields, EventBody.fields, IsExact, HasWholeTexts, known] using texts

theorem toJson_editedEvent {actor actor' : Document}
    (same : Document.write .canonical 1 actor = Document.write .canonical 1 actor') :
    (editedEvent actor).toDocument.toJson .canonical =
      (editedEvent actor').toDocument.toJson .canonical := by
  simp only [Document.toJson, Event.toDocument, Event.fields, EventBody.fields, editedEvent,
    List.cons_append, List.nil_append, Document.write, Document.writeFields, same]
  rfl

theorem restore_editedDocument {actor : Document} {text : String}
    (written : (editedEvent actor).toDocument.canonical = .ok text) (s : Surroundings) :
    restore s 0 (editedDocument actor) = (0, .ok (editedRegistry actor text)) := by
  have digest : (editedEvent actor).digest = .ok (Sha256.ofText text) := by
    rw [Event.digest, Document.canonicalDigest, written]
    rfl
  have events : ∃ d, (editedDocument actor).lookup "events" (.list []) = .ok (.list [d]) ∧
      LogRecord.ofDocument s 0 d = (0, LogRecord.ofParts d 1 (editedEvent actor)) ∧
      LogRecord.ofParts d 1 (editedEvent actor) =
        (editedEvent actor).digest.bind fun reference =>
          .ok ⟨1, editedEvent actor, .text "1", 1, reference⟩ := ⟨_, rfl, rfl, rfl⟩
  obtain ⟨d, looked, read, parts⟩ := events
  have log : EventLog.ofDocument s 0 (.list [d]) = (0, .ok (editedRegistry actor text).log) := by
    unfold EventLog.ofDocument Document.toItems
    simp only [EventLog.loadAll, read, parts, digest, Except.bind]
    rfl
  unfold restore
  simp only [looked, log]
  rfl

theorem isRestored_editedRegistry {actor : Document}
    (known : Every IsExact actor ∧ Every IsShort actor ∧ Whole actor)
    (distinct : Every HasDistinctNames actor) {text : String}
    (written : (editedEvent actor).toDocument.canonical = .ok text) :
    (editedRegistry actor text).IsRestored := by
  obtain ⟨exact, short, whole⟩ := known
  have exact : Every IsExact (editedDocument actor) := by simp [editedDocument, IsExact, exact]
  have short : Every IsShort (editedDocument actor) := by simp [editedDocument, short]
  have distinct : Every HasDistinctNames (editedDocument actor) := by
    simp [editedDocument, HasDistinctNames, distinct]
  have whole : Whole (editedDocument actor) := by
    have texts : ∀ s ∈ ["id", "alice", "MESSAGE", "c0de", "shelf", "ActionRefused", "e", "t", "no"],
        Text.IsWhole s := by decide
    have names : ∀ s ∈ ["records", "events", "creator", "rdo_type", "rules_hash", "rules",
        "metadata_pointer", "sequence_number", "stream_id", "version", "event", "event_type",
        "event_id", "event_timestamp", "rdo_id", "actor", "action", "reason"],
        Text.IsWhole s := by decide
    simp only [List.forall_mem_cons] at texts names
    simp [editedDocument, HasWholeTexts, texts, names, whole]
  have readable := Document.readable_of_orderly (Document.orderly_of_whole exact whole distinct)
    short
  exact ⟨_, _, ⟨0, "", .null, .numbered⟩, 0, _, Document.parse_toJson_line readable whole,
    restore_editedDocument written _⟩

theorem verifyRefusal_editedRegistry {actor : Document} {text : String}
    (written : (editedEvent actor).toDocument.canonical = .ok text) :
    (editedRegistry actor text).verifyRefusal (.text (Sha256.ofText text)) =
      .ok ⟨true, .text (Sha256.ofText text), .integer 1, actor, some .forward, .text "no",
        .text "c0de", []⟩ := by
  have digest : (editedEvent actor).digest = .ok (Sha256.ofText text) := by
    rw [Event.digest, Document.canonicalDigest, written]
    rfl
  have hex : Text.IsHex (Sha256.ofText text) := Sha256.isHex_ofBytes _
  have lower : Text.lower (Sha256.ofText text) = Sha256.ofText text := hex.lower_eq rfl
  have intact : sameDigest (Sha256.ofText text) (Sha256.ofText text) = .ok true := by
    simp [sameDigest, hex.isAscii]
  have found : (editedRegistry actor text).log.find? (Sha256.ofText text) =
      some ⟨1, editedEvent actor, .text "1", 1, Sha256.ofText text⟩ := by
    unfold EventLog.find? editedRegistry
    simp [lower]
  have body : (editedEvent actor).body =
      .refused (.integer 1) actor (.integer 1) (.text "c0de") (.text "no") := rfl
  unfold verifyRefusal
  simp only [Document.shown, found, body, digest, ok_bind, intact]
  rfl

/-- The reference of a refusal proves it in two registries, of which one has the fields of the actor
in another order. -/
theorem verifyRefusal_binds_edited :
    let actor : Document := .object [("name", .text "bob"), ("roles", .list [.null])]
    let actor' : Document := .object [("roles", .list [.null]), ("name", .text "bob")]
    ∃ (reg reg' : Registry) (reference : Document) (p p' : RefusalProof), reg.IsRestored ∧ reg'.IsRestored ∧
      IsCollisionFree reg.log reg'.log ∧
      (reg.verifyRefusal reference = .ok p ∧ p.valid = true ∧ p.actor = actor) ∧
      (reg'.verifyRefusal reference = .ok p' ∧ p'.valid = true ∧ p'.actor = actor') ∧
      TellsAs p p' ∧
      (∃ r, reg.namedRecord? p.objectId = .ok (some r) ∧ r.rulesHash = p.rulesHash) ∧
      ∃ r, reg'.namedRecord? p'.objectId = .ok (some r) ∧ r.rulesHash = p'.rulesHash := by
  intro actor actor'
  have same : Document.write .canonical 1 actor = Document.write .canonical 1 actor' := by
    rw [Document.write_object, Document.write_object,
      Document.JsonStyle.order_eq_of_perm rfl (by decide) (.swap _ _ [])]
  have known : Every IsExact actor ∧ Every IsShort actor ∧ Whole actor := by
    have names : Text.IsWhole "name" ∧ Text.IsWhole "roles" ∧ Text.IsWhole "bob" := by decide
    simp [actor, IsExact, HasWholeTexts, names]
  have known' : Every IsExact actor' ∧ Every IsShort actor' ∧ Whole actor' := by
    have names : Text.IsWhole "name" ∧ Text.IsWhole "roles" ∧ Text.IsWhole "bob" := by decide
    simp [actor', IsExact, HasWholeTexts, names]
  have written := canonical_editedEvent known
  have written' := canonical_editedEvent known'
  rw [← toJson_editedEvent same] at written'
  generalize (editedEvent actor).toDocument.toJson .canonical = text at written written'
  have restored := isRestored_editedRegistry known (by simp [actor, HasDistinctNames]) written
  have restored' := isRestored_editedRegistry known' (by simp [actor', HasDistinctNames]) written'
  have free : IsCollisionFree (editedRegistry actor text).log (editedRegistry actor' text).log := by
    intro l mem l' mem' one two here there _
    rw [List.mem_singleton.mp mem, written] at here
    rw [List.mem_singleton.mp mem', written'] at there
    cases here
    cases there
    rfl
  have proved := verifyRefusal_editedRegistry written
  have proved' := verifyRefusal_editedRegistry written'
  refine ⟨_, _, _, _, _, restored, restored', free, ⟨proved, rfl, rfl⟩, ⟨proved', rfl, rfl⟩,
    verifyRefusal_binds restored restored' free proved rfl proved' rfl⟩

end Registry

end RuleBound
