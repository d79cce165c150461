import RuleBound.Proofs.Document.Distinct
import RuleBound.Proofs.Registry.Reload
import RuleBound.Proofs.Text.Utf8

/-!
Registries on pages. A snapshot is a page: its fields are sorted, so what a reader takes back are
objects whose fields stand in an order of their own. Rules, events and records are read field by
field, whichever order the fields have, and therefore a page is restored as a line is.

This needs that the fields of an event are scalars. They are in a registry that was given no
correlation but scalars.
-/

namespace RuleBound

open Document (Every IsOrderly Whole)

/-! ## Fields in any order -/

namespace Document

theorem JsonStyle.isSeparating_page : JsonStyle.page.IsSeparating where
  comma := ⟨[], rfl, .nil⟩
  colon := ⟨[' '], rfl, List.forall_mem_singleton.mpr rfl⟩

/-- A scalar without halves is given back as it was. -/
theorem reread_of_isScalar (style : JsonStyle) {d : Document} (scalar : d.isScalar = true)
    (whole : HasWholeTexts d) : d.reread style = d := by
  cases d with
  | text s => rw [reread, Text.IsWhole.reread_eq whole]
  | list items => cases scalar
  | object fields => cases scalar
  | _ => rfl

/-- Whole scalars are given back in their fields as they were. -/
theorem map_reread_of_isScalar (style : JsonStyle) {fields : List (String × Document)}
    (scalars : ∀ f ∈ fields, f.2.isScalar = true) (whole : Whole (.object fields)) :
    (fields.map fun f => (f.1, reread style f.2)) = fields := by
  refine (List.map_congr_left fun f mem => ?_).trans (List.map_id fields)
  have within := (whole.within f.2 (List.mem_map_of_mem mem)).here
  rw [reread_of_isScalar style (scalars f mem) within]
  rfl

/-- A scalar has no names. -/
theorem distinct_of_isScalar {d : Document} (scalar : d.isScalar = true) :
    Every HasDistinctNames d := by
  cases d with
  | list items => cases scalar
  | object fields => cases scalar
  | _ => simp [HasDistinctNames]

theorem field?_eq_some_iff {fields : List (String × Document)}
    (distinct : (fields.map Prod.fst).Nodup) (name : String) (value : Document) :
    field? fields name = some value ↔ (name, value) ∈ fields :=
  ⟨mem_of_field?, fun mem => field?_eq_some_of_mem distinct mem⟩

/-- Whether what a reader makes of an object depends only on what it finds by name. -/
def IsByName {α : Type} (reader : Document → α) : Prop :=
  ∀ fields fields', (∀ name, field? fields name = field? fields' name) →
    reader (.object fields) = reader (.object fields')

/-- A reader that goes by names does not see in which order an object is given back. -/
theorem IsByName.reread_object {α : Type} {reader : Document → α} (byName : IsByName reader)
    (style : JsonStyle) {fields : List (String × Document)} (orderly : IsOrderly (.object fields)) :
    reader (reread style (.object fields)) =
      reader (.object (fields.map fun f => (f.1, reread style f.2))) := by
  obtain ⟨distinct, whole⟩ := orderly
  have perm := style.order_perm fields
  have names : (style.order fields).map
      (fun f => (Text.reread style.asciiOnly f.1, reread style f.2)) =
      (style.order fields).map fun f => (f.1, reread style f.2) :=
    List.map_congr_left fun f mem => by rw [(whole f (perm.mem_iff.mp mem)).reread_eq]
  have moved := perm.map fun f => (f.1, reread style f.2)
  have distinct' : ((fields.map fun f => (f.1, reread style f.2)).map Prod.fst).Nodup := by
    rwa [List.map_map]
  rw [Document.reread_object, names]
  apply byName
  intro name
  apply Option.ext
  intro value
  rw [field?_eq_some_iff ((moved.map Prod.fst).nodup_iff.mpr distinct'),
    field?_eq_some_iff distinct']
  exact moved.mem_iff

end Document

open Document (IsByName)

/-! ## Rules, events and records -/

namespace CompactRules

theorem isByName_ofDocument : IsByName CompactRules.ofDocument := by
  intro fields fields' same
  unfold CompactRules.ofDocument
  simp only [Document.lookup, same]

/-- Typed rules are read back from a page. -/
theorem IsTyped.ofDocument_page {r : CompactRules} (typed : r.IsTyped) :
    ∃ d, r.toDocument = .ok d ∧ CompactRules.ofDocument (d.reread .page) = .ok r := by
  obtain ⟨fields, made, read, whole, orderly, scalars⟩ := typed.exists_fields
  refine ⟨_, made, ?_⟩
  rw [isByName_ofDocument.reread_object .page orderly.here,
    Document.map_reread_of_isScalar .page scalars whole, read]

end CompactRules

namespace Event

theorem isByName_ofDocument (s : Surroundings) (drawn : Nat) :
    IsByName (Event.ofDocument s drawn) := by
  intro fields fields' same
  unfold Event.ofDocument classOf
  simp only [Document.lookup, same, needsStamp, ofFields, EventBody.ofFields]
  rfl

/-- An event of scalars is read back from a page. -/
theorem ofDocument_page (s : Surroundings) (drawn : Nat) {e : Event}
    (special : e.eventClass ≠ .general) (orderly : IsOrderly e.toDocument)
    (whole : Whole e.toDocument) (scalars : ∀ f ∈ e.fields, f.2.isScalar = true) :
    Event.ofDocument s drawn (e.toDocument.reread .page) = (drawn, .ok e) := by
  have scalars' : ∀ f ∈ e.fields ++ [("event_type", Document.text e.eventClass.name)],
      f.2.isScalar = true := by
    rw [List.forall_mem_append, List.forall_mem_singleton]
    exact ⟨scalars, rfl⟩
  rw [toDocument, (isByName_ofDocument s drawn).reread_object .page orderly,
    Document.map_reread_of_isScalar .page scalars' whole]
  exact ofDocument_toDocument s drawn special

end Event

namespace LogRecord

/-- Whether the fields of the event of a record are scalars. -/
def IsFlat (r : LogRecord) : Prop := ∀ f ∈ r.event.fields, f.2.isScalar = true

theorem isByName_ofDocument (s : Surroundings) (drawn : Nat) :
    IsByName (LogRecord.ofDocument s drawn) := by
  intro fields fields' same
  unfold LogRecord.ofDocument ofParts
  simp only [Document.require, Document.lookup, same]

/-- A sound record of an event of scalars is read back from a page. -/
theorem ofDocument_page (s : Surroundings) (drawn : Nat) {r : LogRecord} (sound : r.IsSound)
    (flat : r.IsFlat) :
    LogRecord.ofDocument s drawn (r.toDocument.reread .page) = (drawn, .ok r) := by
  obtain ⟨id, stream⟩ := sound.stream
  obtain ⟨message, same⟩ := sound.exists_message
  have reference : Text.IsWhole r.reference := same ▸ (Sha256.isHex_ofBytes message).isWhole
  have digits : Text.IsWhole (toString id) := Document.isWhole_toString id
  have event : r.event.toDocument ∈ r.toDocument.children :=
    List.mem_map_of_mem (List.mem_cons_of_mem _ List.mem_cons_self)
  rw [toDocument, (isByName_ofDocument s drawn).reread_object .page sound.orderly.here]
  simp only [List.map_cons, List.map_nil, stream, Document.reread, digits.reread_eq,
    reference.reread_eq]
  rw [← stream]
  exact ofDocument_parts sound (Event.ofDocument_page s drawn sound.special
    (sound.orderly.within _ event).here (sound.whole.within _ event) flat)

end LogRecord

theorem Record.isByName_ofDocument : IsByName Record.ofDocument := by
  intro fields fields' same
  unfold Record.ofDocument
  simp only [Document.require, Document.lookup, same]

theorem Surroundings.isScalar_correlate (s : Surroundings) (scalar : s.correlation.isScalar = true)
    (draws : Draws) : (s.correlate draws).1.isScalar = true := by
  unfold correlate
  split
  · exact scalar
  · rfl

namespace Registry

/-- The record of an entry under typed rules is read back from a page. -/
theorem Entry.ofDocument_page (e : Entry) (typed : e.minting.IsTyped) :
    Record.ofDocument (e.document.reread .page) = .ok (e.id, e.reread.record) := by
  obtain ⟨rules, made, read⟩ := typed.rules.ofDocument_page
  obtain ⟨texts, -, whitelist⟩ := typed.whitelist
  have kind : Text.IsWhole e.minting.kind.name := by cases e.minting.kind <;> decide
  have hash := Text.isWhole_of_isDigest typed.rulesHash
  have orderly := (e.ofDocument_document typed).2.2
  rw [e.document_eq_parts made whitelist] at orderly ⊢
  have parts : Record.ofDocument ((e.parts rules (Members.sorted texts)).reread .page) =
      Record.ofDocument (e.reread.parts (rules.reread .page)
        ((Members.sorted texts).map (Text.reread true))) := by
    rw [Entry.parts, Record.isByName_ofDocument.reread_object .page orderly.here]
    simp only [List.map_cons, List.map_nil, Document.reread, rereadItems_documents,
      kind.reread_eq, hash.reread_eq]
    rfl
  rw [parts, ofDocument_parts e.reread read, ← Minting.whitelist_reread whitelist]
  rfl

/-! ## Registries -/

theorem isByName_restore (s : Surroundings) (drawn : Nat) : IsByName (restore s drawn) := by
  intro fields fields' same
  unfold restore ofParts
  simp only [Document.lookup, same]

variable {reg reg' : Registry} {es : List Entry}

/-- A registry that holds entries is read back from a page as from a line. -/
theorem Holds.restore_page (holds : reg.Holds es) (flat : ∀ r ∈ reg.log.records, r.IsFlat)
    (s : Surroundings) (drawn : Nat) :
    restore s drawn ((reg.document es).reread .page) = (drawn, .ok (reg.reread es)) := by
  have entries : (es.map fun e => e.document.reread .page).mapM Record.ofDocument =
      .ok (reg.reread es).records := by
    rw [List.mapM_map]
    exact mapM_eq_ok_map fun e mem => e.ofDocument_page (holds.typed e mem)
  have events : EventLog.ofDocument s drawn (.list (reg.log.records.map fun r =>
      r.toDocument.reread .page)) = (drawn, .ok (reg.reread es).log) :=
    EventLog.ofDocument_map fun r mem => LogRecord.ofDocument_page s drawn (holds.log r mem)
      (flat r mem)
  rw [document, (isByName_restore s drawn).reread_object .page holds.orderly.here]
  simp only [List.map_cons, List.map_nil, EventLog.toDocument, Document.reread,
    Document.rereadItems_eq_map, List.map_map]
  exact holds.restore_of_lookup rfl rfl rfl entries events

/-- A page of short numbers is parsed. -/
theorem Holds.parse_page (holds : reg.Holds es)
    (short : (reg.document es).hasLongNumeral = false) :
    Document.parse ((reg.document es).toJson .page) = .ok ((reg.document es).reread .page) :=
  Document.parse_toJson Document.JsonStyle.isSeparating_page
    (Document.readable_of_orderly holds.orderly ((Document.hasLongNumeral_eq_false_iff _).mp short))

/-- A page tells what a registry is read back as. -/
theorem Holds.reread_eq_of_page {es' : List Entry} (holds : reg.Holds es) (holds' : reg'.Holds es')
    (flat : ∀ r ∈ reg.log.records, r.IsFlat) (flat' : ∀ r ∈ reg'.log.records, r.IsFlat)
    (short : (reg.document es).hasLongNumeral = false)
    (short' : (reg'.document es').hasLongNumeral = false)
    (same : (reg.document es).toJson .page = (reg'.document es').toJson .page) :
    reg.reread es = reg'.reread es' := by
  have parsed := holds.parse_page short
  rw [same, holds'.parse_page short'] at parsed
  have restored := holds.restore_page flat ⟨0, "", .null, .numbered⟩ 0
  rw [← Except.ok.inj parsed, holds'.restore_page flat' _ 0, Prod.mk.injEq] at restored
  exact (Except.ok.inj restored.2).symm

/-! ## Registries that go on to be read back from pages -/

/-- Whether a registry holds entries and tells of them in events of scalars. -/
structure IsPaged (reg : Registry) : Prop where
  entries : ∃ es, reg.Holds es
  flat : ∀ r ∈ reg.log.records, r.IsFlat

theorem isPaged_empty : IsPaged {} := ⟨⟨[], holds_empty⟩, List.forall_mem_nil _⟩

/-- The event of a deed is one of scalars if its correlation is one. -/
theorem Happens.isScalar_of_mem_fields {d : Deed} (happens : Happens reg d reg')
    (holds : reg.Holds es) (correlation : d.event.correlation.isScalar = true) :
    ∀ f ∈ d.event.fields, f.2.isScalar = true := by
  cases happens with
  | mint now checked stamp =>
    simp [createdEvent, Event.fields, EventBody.fields, Document.isScalar]
  | verdict found breaks after correlation' stamp =>
    obtain ⟨e, mem, rfl, rfl⟩ := holds.exists_entry found
    rw [Entry.record, Minting.after_recordAt] at after
    cases after
    replace correlation : correlation'.isScalar = true := correlation
    simp only [verdictEvent, Event.fields, List.forall_mem_append]
    refine ⟨by simpa using ⟨rfl, rfl, correlation⟩, ?_⟩
    split <;> simp [EventBody.fields, Minting.recordAt, newRecord, Document.isScalar]

/-- A typed deed that tells of itself in a scalar correlation leaves a registry that can be read
back from a page, if it was one. -/
theorem IsPaged.happens {d : Deed} (paged : reg.IsPaged) (happens : Happens reg d reg')
    (typed : d.IsTyped) (correlation : d.event.correlation.isScalar = true) : reg'.IsPaged := by
  obtain ⟨es, holds⟩ := paged.entries
  refine ⟨holds.happens happens typed, ?_⟩
  have fields := happens.isScalar_of_mem_fields holds correlation
  rcases happens.log_cases (fun r found => holds.id_eq found) with
    ⟨reference, -, -, log⟩ | ⟨-, log⟩
  · rw [log]
    exact List.forall_mem_append.mpr ⟨paged.flat, List.forall_mem_singleton.mpr fields⟩
  · rw [log]
    exact paged.flat

/-- So does a mint under typed rules. -/
theorem IsPaged.mint (paged : reg.IsPaged) {m : Minting} (checked : m.IsChecked)
    (rules : m.rules.IsTyped) (now : Int) (stamp : Stamp) : (reg.mint now stamp m).1.IsPaged := by
  rw [mint_fst]
  refine paged.happens (.mint now checked stamp) ⟨fun m' same => ?_, ?_⟩ rfl
  · cases same
    exact rules
  · exact Document.distinct_of_isScalar rfl

namespace State

/-- A deed tells of itself in a scalar if the correlation under way is one. -/
theorem isScalar_of_deed? {st : State} {x : Step} {d : Deed} (deed : st.deed? x = some d)
    (scalar : x.surroundings.correlation.isScalar = true) :
    d.event.correlation.isScalar = true := by
  obtain ⟨s, call⟩ := x
  unfold deed? at deed
  cases call with
  | create request =>
    cases checked : request.check with
    | error f =>
      simp only [checked] at deed
      cases deed
    | ok m =>
      simp only [checked] at deed
      cases deed
      rfl
  | request id action context actor =>
    cases checked : Request.check action context actor with
    | error f =>
      simp only [checked] at deed
      cases deed
    | ok req =>
      cases decided : st.registry.verdict s.now id req with
      | error f =>
        simp only [checked, decided] at deed
        cases deed
      | ok v =>
        simp only [checked, decided] at deed
        cases deed
        exact s.isScalar_correlate scalar st.draws
  | _ => cases deed

/-- A typed step in a scalar correlation leaves a registry that can be read back from a page, if it
was one. -/
theorem isPaged_step {st : State} (paged : st.registry.IsPaged) {x : Step} (typed : x.IsTyped)
    (scalar : x.surroundings.correlation.isScalar = true) : (st.step x).1.registry.IsPaged := by
  cases deed : st.deed? x with
  | none =>
    rw [step_registry_of_no_deed deed]
    exact paged
  | some d =>
    exact paged.happens (happens_of_deed? deed) (isTyped_of_deed? typed deed)
      (isScalar_of_deed? deed scalar)

end State

end Registry

end RuleBound
