import RuleBound.Event.Log
import RuleBound.Proofs.Digest
import RuleBound.Proofs.Document.Canonical
import RuleBound.Proofs.Sequencing

/-!
Events as documents. An event has a digest exactly if its document has a canonical text, so the
three conditions on documents are conditions on what the event says.

An event that has a digest is whole, and therefore it comes back from the text of its document as it
was. So does a whole log, but for its counter: what is read back has counted to the highest number
of a record.

The text of a log is the list of its records' documents on one line. What a reader makes of the text
has the records as they were, but for names of streams that held both halves of a pair. Events of
the general class cannot be read back.
-/

namespace RuleBound

namespace Event

open Document (Every IsExact IsShort HasWholeTexts Whole)

/-- An event has a digest exactly if nothing in it is a double, no number is too long and no text
has half of a pair. -/
theorem digest_eq_ok_iff (e : Event) (reference : String) :
    e.digest = .ok reference ↔
      (Every IsExact e.toDocument ∧ Every IsShort e.toDocument ∧ Whole e.toDocument) ∧
        reference = Sha256.ofText (e.toDocument.toJson .canonical) := by
  unfold digest Document.canonicalDigest
  rw [map_eq_ok_iff]
  constructor
  · rintro ⟨text, written, rfl⟩
    obtain ⟨fine, rfl⟩ := (Document.canonical_eq_ok_iff ..).mp written
    exact ⟨fine, rfl⟩
  · rintro ⟨fine, rfl⟩
    exact ⟨_, (Document.canonical_eq_ok_iff ..).mpr ⟨fine, rfl⟩, rfl⟩

theorem isOk_digest_iff (e : Event) :
    e.digest.isOk = true ↔
      Every IsExact e.toDocument ∧ Every IsShort e.toDocument ∧ Whole e.toDocument := by
  rw [isOk_eq_true_iff]
  simp only [digest_eq_ok_iff, exists_and_left, exists_eq, and_true]

/-- The digest of an event is that of some bytes. -/
theorem exists_message_of_digest {e : Event} {reference : String}
    (digest : e.digest = .ok reference) : ∃ message, reference = Sha256.ofBytes message := by
  obtain ⟨-, same⟩ := (digest_eq_ok_iff ..).mp digest
  exact ⟨_, same⟩

theorem isTrue_of_digest {e : Event} {reference : String} (digest : e.digest = .ok reference) :
    (Document.text reference).isTrue = true := by
  obtain ⟨message, rfl⟩ := exists_message_of_digest digest
  have length := Sha256.length_ofBytes message
  have some : (Sha256.ofBytes message).isEmpty = false := by
    rw [String.isEmpty_eq_false_iff]
    intro none
    rw [none] at length
    cases length
  rw [Document.isTrue, some]
  rfl

/-- The names of an event's fields, which its class determines. -/
theorem names_of_fields (e : Event) :
    e.fields.map Prod.fst = ((ofFields e.eventClass [] ⟨"", ""⟩).fields).map Prod.fst := by
  obtain ⟨id, timestamp, correlation, body⟩ := e
  cases body <;> rfl

theorem isWhole_of_mem_fields {e : Event} {f : String × Document} (mem : f ∈ e.fields) :
    Text.IsWhole f.1 := by
  have known : ∀ c, ∀ name ∈ (ofFields c [] ⟨"", ""⟩).fields.map Prod.fst, Text.IsWhole name := by
    intro c
    cases c <;> decide
  exact known _ _ (names_of_fields e ▸ List.mem_map_of_mem mem)

theorem isWhole_name (c : EventClass) : Text.IsWhole c.name := by
  cases c <;> decide

theorem exact_toDocument_iff (e : Event) :
    Every IsExact e.toDocument ↔ ∀ f ∈ e.fields, Every IsExact f.2 := by
  rw [toDocument, Every.object_iff, List.forall_mem_append]
  simp [IsExact]

theorem short_toDocument_iff (e : Event) :
    Every IsShort e.toDocument ↔ ∀ f ∈ e.fields, Every IsShort f.2 := by
  rw [toDocument, Every.object_iff, List.forall_mem_append]
  simp [IsShort]

theorem hasWholeTexts_toDocument (e : Event) : HasWholeTexts e.toDocument := by
  intro f mem
  rcases List.mem_append.mp mem with field | last
  · exact isWhole_of_mem_fields field
  · rw [List.mem_singleton.mp last]
    exact (by decide : Text.IsWhole "event_type")

theorem whole_toDocument_iff (e : Event) :
    Whole e.toDocument ↔ ∀ f ∈ e.fields, Whole f.2 := by
  have here := e.hasWholeTexts_toDocument
  rw [toDocument] at here ⊢
  rw [Whole, Every.object_iff, and_iff_right here, List.forall_mem_append]
  simp only [HasWholeTexts, List.mem_singleton, forall_eq, Every.text_iff, isWhole_name, and_true]

/-! ## Events that are read back -/

/-- An event of a class of its own is read back from its document. -/
theorem ofDocument_toDocument (s : Surroundings) (drawn : Nat) {e : Event}
    (special : e.eventClass ≠ .general) :
    Event.ofDocument s drawn e.toDocument = (drawn, .ok e) := by
  obtain ⟨id, timestamp, correlation, body⟩ := e
  cases body with
  | general => exact absurd rfl special
  | _ => rfl

theorem distinct_toDocument {e : Event}
    (fields : ∀ f ∈ e.fields, Every Document.HasDistinctNames f.2) :
    Every Document.HasDistinctNames e.toDocument := by
  have names : (e.fields ++ [("event_type", Document.text e.eventClass.name)]).map Prod.fst =
      ((ofFields e.eventClass [] ⟨"", ""⟩).fields).map Prod.fst ++ ["event_type"] := by
    rw [List.map_append, names_of_fields]
    rfl
  have known : ∀ c, (((ofFields c [] ⟨"", ""⟩).fields).map Prod.fst ++ ["event_type"]).Nodup := by
    intro c
    cases c <;> decide
  rw [toDocument, Every.object_iff, List.forall_mem_append]
  refine ⟨?_, fields, by simp [Document.HasDistinctNames]⟩
  rw [Document.HasDistinctNames, names]
  exact known e.eventClass

end Event

/-! ## Records of the log -/

namespace LogRecord

/-- Whether a record of the log is one that a registry has made: it bears the digest of its event,
in the stream of an object. -/
structure IsSound (r : LogRecord) : Prop where
  stream : ∃ id : Int, r.stream = .text (toString id)
  digest : r.event.digest = .ok r.reference
  special : r.event.eventClass ≠ .general
  distinct : ∀ f ∈ r.event.fields, Document.Every Document.HasDistinctNames f.2

variable {r : LogRecord}

theorem IsSound.exists_message (sound : r.IsSound) :
    ∃ message, r.reference = Sha256.ofBytes message :=
  Event.exists_message_of_digest sound.digest

/-- The document of a record with a document in the place of its event. -/
def parts (r : LogRecord) (event : Document) : Document :=
  .object [("sequence_number", .integer r.sequence), ("event", event), ("stream_id", r.stream),
    ("version", .integer r.version), ("tx_ref", .text r.reference)]

section Named

variable {name : String} (named : r.stream = .text name) (digest : r.event.digest = .ok r.reference)

include named digest

theorem ofParts_named (event : Document) :
    ofParts (r.parts event) r.sequence r.event = .ok r := by
  have stream : (r.parts event).require "stream_id" = .ok (.text name) := by
    rw [← named]
    rfl
  have version : (r.parts event).require "version" = .ok (.integer r.version) := rfl
  have reference : (r.parts event).lookup "tx_ref" .null = .ok (.text r.reference) := rfl
  unfold ofParts
  rw [stream, version, reference]
  simp only [ok_bind, Document.toInteger, if_pos (Event.isTrue_of_digest digest)]
  simp only [Document.shown, ← named]
  rfl

/-- A record that bears the digest of its event in a stream that a text names is read back from its
parts if its event is. -/
theorem ofDocument_named {s : Surroundings} {drawn : Nat} {event : Document}
    (read : Event.ofDocument s drawn event = (drawn, .ok r.event)) :
    LogRecord.ofDocument s drawn (r.parts event) = (drawn, .ok r) := by
  have sequence : (r.parts event).require "sequence_number" = .ok (.integer r.sequence) := rfl
  have body : (r.parts event).require "event" = .ok event := rfl
  unfold LogRecord.ofDocument
  simp only [sequence, body, ok_bind, Document.toInteger, pure, Except.pure, read,
    ofParts_named named digest]

end Named

/-- A sound record is read back from its parts if its event is. -/
theorem ofDocument_parts {s : Surroundings} {drawn : Nat} (sound : r.IsSound) {event : Document}
    (read : Event.ofDocument s drawn event = (drawn, .ok r.event)) :
    LogRecord.ofDocument s drawn (r.parts event) = (drawn, .ok r) := by
  obtain ⟨id, named⟩ := sound.stream
  exact ofDocument_named named sound.digest read

/-- A sound record is read back from its document. -/
theorem ofDocument_toDocument (s : Surroundings) (drawn : Nat) (sound : r.IsSound) :
    LogRecord.ofDocument s drawn r.toDocument = (drawn, .ok r) :=
  ofDocument_parts sound (Event.ofDocument_toDocument s drawn sound.special)

open Document (Every IsExact IsOrderly HasDistinctNames HasWholeTexts Whole)

theorem IsSound.whole (sound : r.IsSound) : Whole r.toDocument := by
  obtain ⟨id, stream⟩ := sound.stream
  obtain ⟨message, same⟩ := sound.exists_message
  have event := ((Event.digest_eq_ok_iff ..).mp sound.digest).1.2.2
  have names : ∀ name ∈ ["sequence_number", "event", "stream_id", "version", "tx_ref"],
      Text.IsWhole name := by decide
  have reference : Text.IsWhole r.reference := same ▸ (Sha256.isHex_ofBytes message).isWhole
  have digits : Text.IsWhole id.repr := Document.isWhole_toString id
  simpa [toDocument, HasWholeTexts, stream, event, reference, digits] using names

/-- The document of a sound record is one that a reader takes back. -/
theorem IsSound.orderly (sound : r.IsSound) : Every IsOrderly r.toDocument := by
  obtain ⟨id, stream⟩ := sound.stream
  obtain ⟨exact, -, -⟩ := ((Event.digest_eq_ok_iff ..).mp sound.digest).1
  have distinct := Event.distinct_toDocument sound.distinct
  refine Document.orderly_of_whole ?_ sound.whole ?_
  · simp [toDocument, IsExact, stream, exact]
  · simp [toDocument, HasDistinctNames, stream, distinct]

end LogRecord

namespace EventLog

/-- The highest number of a record, zero if there is none. -/
def lastNumber (records : List LogRecord) : Int := (records.map LogRecord.sequence).foldl max 0

theorem loadAll_map {s : Surroundings} {drawn : Nat} {log : EventLog} {records : List LogRecord}
    {written : LogRecord → Document}
    (read : ∀ r ∈ records, LogRecord.ofDocument s drawn (written r) = (drawn, .ok r)) :
    loadAll s drawn log (records.map written) =
      (drawn, .ok ⟨log.records ++ records,
        (records.map LogRecord.sequence).foldl max log.sequence⟩) := by
  induction records generalizing log with
  | nil => simp [loadAll]
  | cons r records ih =>
    rw [List.forall_mem_cons] at read
    rw [List.map_cons, loadAll, read.1]
    simp only [ih read.2, load, List.append_assoc, List.singleton_append, List.map_cons,
      List.foldl_cons]

/-- A log is read back from a list in which each of its records is, with its counter at the highest
number of a record. -/
theorem ofDocument_map {s : Surroundings} {drawn : Nat} {records : List LogRecord}
    {written : LogRecord → Document}
    (read : ∀ r ∈ records, LogRecord.ofDocument s drawn (written r) = (drawn, .ok r)) :
    EventLog.ofDocument s drawn (.list (records.map written)) =
      (drawn, .ok ⟨records, lastNumber records⟩) :=
  loadAll_map read

/-- A log of sound records is read back with its counter at the highest number of a record. -/
theorem ofDocument_toDocument (s : Surroundings) (drawn : Nat) {log : EventLog}
    (sound : ∀ r ∈ log.records, r.IsSound) :
    EventLog.ofDocument s drawn log.toDocument =
      (drawn, .ok ⟨log.records, lastNumber log.records⟩) :=
  ofDocument_map fun r mem => LogRecord.ofDocument_toDocument s drawn (sound r mem)

end EventLog

open Document (Every IsOrderly IsShort HasDistinctNames JsonStyle)

/-! ## Records of appended events -/

/-- An event of the general class is never read back. -/
theorem Event.ofDocument_general (s : Surroundings) (drawn : Nat) {e : Event}
    (general : e.eventClass = .general) :
    ∃ f, Event.ofDocument s drawn e.toDocument = (drawn, .error f) := by
  obtain ⟨id, timestamp, correlation, body⟩ := e
  cases body with
  | general => exact ⟨_, rfl⟩
  | _ => cases general

namespace LogRecord

/-- Whether a record is one that appending has made: it bears the digest of its event, in a stream
that a text names. -/
structure IsGenuine (r : LogRecord) : Prop where
  named : ∃ name, r.stream = .text name
  digest : r.event.digest = .ok r.reference
  distinct : ∀ f ∈ r.event.fields, Every HasDistinctNames f.2

/-- A record as it comes back from the text of its log. -/
def reread (r : LogRecord) : LogRecord := { r with stream := r.stream.reread .line }

namespace IsGenuine

variable {r : LogRecord} (genuine : r.IsGenuine)

include genuine

theorem reread : r.reread.IsGenuine := by
  obtain ⟨name, named⟩ := genuine.named
  exact ⟨⟨Text.reread true name, by rw [LogRecord.reread, named]; rfl⟩, genuine.digest,
    genuine.distinct⟩

theorem orderly : Every IsOrderly r.toDocument := by
  obtain ⟨name, named⟩ := genuine.named
  obtain ⟨exact, -, whole⟩ := ((Event.digest_eq_ok_iff ..).mp genuine.digest).1
  have event := Document.orderly_of_whole exact whole (Event.distinct_toDocument genuine.distinct)
  have names : ∀ name ∈ ["sequence_number", "event", "stream_id", "version", "tx_ref"],
      Text.IsWhole name := by decide
  rw [toDocument, named]
  simpa [IsOrderly, event] using names

/-- The numbers in the document of a record are short if its own two are. -/
theorem short_iff : Every IsShort r.toDocument ↔
    IsShort (.integer r.sequence) ∧ IsShort (.integer r.version) := by
  obtain ⟨name, named⟩ := genuine.named
  have event := ((Event.digest_eq_ok_iff ..).mp genuine.digest).1.2.1
  rw [toDocument, named]
  simp [event]

/-- The document of a record comes back but for the halves in the name of its stream. -/
theorem reread_toDocument : r.toDocument.reread .line = r.reread.toDocument := by
  obtain ⟨message, hex⟩ := Event.exists_message_of_digest genuine.digest
  have whole := ((Event.digest_eq_ok_iff ..).mp genuine.digest).1.2.2
  have reference : Text.IsWhole r.reference := hex ▸ (Sha256.isHex_ofBytes message).isWhole
  have names : ∀ name ∈ ["sequence_number", "event", "stream_id", "version", "tx_ref"],
      Text.IsWhole name := by decide
  have event : r.event.toDocument.reread .line = r.event.toDocument :=
    Document.reread_of_whole rfl whole
  rw [toDocument, Document.reread_object_of_whole rfl (by simpa using names)]
  simp only [List.map_cons, List.map_nil, event]
  simp only [Document.reread, reference.reread_eq]
  rfl

theorem ofDocument_toDocument (s : Surroundings) (drawn : Nat)
    (special : r.event.eventClass ≠ .general) :
    LogRecord.ofDocument s drawn r.toDocument = (drawn, .ok r) := by
  obtain ⟨name, named⟩ := genuine.named
  exact ofDocument_named named genuine.digest (Event.ofDocument_toDocument s drawn special)

end IsGenuine

theorem ofDocument_general (s : Surroundings) (drawn : Nat) {r : LogRecord}
    (general : r.event.eventClass = .general) :
    ∃ f, LogRecord.ofDocument s drawn r.toDocument = (drawn, .error f) := by
  obtain ⟨f, fails⟩ := Event.ofDocument_general s drawn general
  have sequence : r.toDocument.require "sequence_number" = .ok (.integer r.sequence) := rfl
  have body : r.toDocument.require "event" = .ok r.event.toDocument := rfl
  unfold LogRecord.ofDocument
  simp only [sequence, body, ok_bind, Document.toInteger, pure, Except.pure, fails]
  exact ⟨f, rfl⟩

end LogRecord

namespace EventLog

/-! ## Reloading a log -/

/-- The text of a log: its list of documents on one line. A number that is too long cannot be
written. -/
def saved (log : EventLog) : Except Fault String :=
  if log.toDocument.hasLongNumeral then .error (.numeralTooLong none)
  else .ok (log.toDocument.toJson .line)

/-- The log that a reader makes of the text of a log. -/
def reload (log : EventLog) (s : Surroundings) (drawn : Nat) : Except Fault EventLog := do
  (EventLog.ofDocument s drawn (← Document.parse (← log.saved))).2

/-- Records are not loaded if one of them cannot be read. -/
theorem exists_error_of_loadAll {s : Surroundings} {d : Document} {items : List Document}
    (fails : ∀ drawn, ∃ f, LogRecord.ofDocument s drawn d = (drawn, .error f)) (mem : d ∈ items)
    (drawn : Nat) (log : EventLog) : ∃ f, (loadAll s drawn log items).2 = .error f := by
  induction items generalizing drawn log with
  | nil => cases mem
  | cons first items ih =>
    rw [loadAll]
    rcases List.mem_cons.mp mem with rfl | mem
    · obtain ⟨f, fails⟩ := fails drawn
      rw [fails]
      exact ⟨f, rfl⟩
    · split
      · exact ⟨_, rfl⟩
      · exact ih mem _ _

/-- A log of genuine records is reloaded exactly if its numbers can be written and its events are of
classes of their own. All that changes are names of streams with both halves of a pair, and the
counter. -/
theorem reload_eq_ok_iff {log log' : EventLog} (genuine : ∀ r ∈ log.records, r.IsGenuine)
    {s : Surroundings} {drawn : Nat} :
    log.reload s drawn = .ok log' ↔
      (∀ r ∈ log.records, IsShort (.integer r.sequence) ∧ IsShort (.integer r.version)) ∧
      (∀ r ∈ log.records, r.event.eventClass ≠ .general) ∧
      log' = ⟨log.records.map LogRecord.reread, lastNumber log.records⟩ := by
  have short_iff : Every IsShort log.toDocument ↔
      ∀ r ∈ log.records, IsShort (.integer r.sequence) ∧ IsShort (.integer r.version) := by
    rw [toDocument, Every.list_iff]
    simp only [Document.isShort_list, true_and, List.forall_mem_map]
    exact forall₂_congr fun r mem => (genuine r mem).short_iff
  unfold reload saved
  rw [← short_iff, ← Document.hasLongNumeral_eq_false_iff]
  cases long : log.toDocument.hasLongNumeral with
  | true => simp
  | false =>
    have orderly : Every IsOrderly log.toDocument := by
      rw [toDocument, Every.list_iff]
      exact ⟨trivial, List.forall_mem_map.mpr fun r mem => (genuine r mem).orderly⟩
    have readable := Document.readable_of_orderly orderly
      ((Document.hasLongNumeral_eq_false_iff _).mp long)
    have back : log.toDocument.reread .line =
        .list ((log.records.map LogRecord.reread).map LogRecord.toDocument) := by
      rw [toDocument, Document.reread, Document.rereadItems_eq_map, List.map_map, List.map_map]
      congr 1
      exact List.map_congr_left fun r mem => (genuine r mem).reread_toDocument
    have parsed := Document.parse_toJson JsonStyle.isSeparating_line readable
    rw [back] at parsed
    rw [if_neg Bool.false_ne_true, ok_bind, parsed, ok_bind]
    by_cases special : ∀ r ∈ log.records, r.event.eventClass ≠ .general
    · have read : ∀ r ∈ log.records.map LogRecord.reread,
          LogRecord.ofDocument s drawn r.toDocument = (drawn, .ok r) := by
        refine List.forall_mem_map.mpr fun r mem => ?_
        exact (genuine r mem).reread.ofDocument_toDocument s drawn (special r mem)
      have same : lastNumber (log.records.map LogRecord.reread) = lastNumber log.records := by
        rw [lastNumber, List.map_map]
        rfl
      rw [ofDocument_map read, same, Except.ok.injEq]
      exact ⟨fun is => ⟨rfl, special, is.symm⟩, fun all => all.2.2.symm⟩
    · have refused := special
      simp only [not_forall, not_not] at refused
      obtain ⟨r, mem, general⟩ := refused
      have within : r.reread.toDocument ∈
          (log.records.map LogRecord.reread).map LogRecord.toDocument :=
        List.mem_map_of_mem (List.mem_map_of_mem mem)
      obtain ⟨f, fails⟩ := exists_error_of_loadAll (s := s)
        (fun drawn => LogRecord.ofDocument_general s drawn (r := r.reread) general) within drawn {}
      simp only [special, false_and, and_false, iff_false]
      intro answer
      change (loadAll s drawn {} _).2 = _ at answer
      rw [fails] at answer
      cases answer

end EventLog

end RuleBound
