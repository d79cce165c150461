import RuleBound.Proofs.Registry.Binding

/-!
Refusals that are checked again. What a snapshot says of an event can be anything, and the check
reads all of it: it takes the digest of the event, compares written digests, looks the object up and
the action. `Registry.CanCheck` says which events get through all of that; of these the check always
tells whether they are what was recorded.
-/

namespace RuleBound

open Document (Every HasDistinctNames HasWholeTexts IsExact IsShort Whole)

/-! ## Comparing -/

theorem exists_sameDigest_iff {a b : String} :
    (∃ same, sameDigest a b = .ok same) ↔ Text.isAscii a = true ∧ Text.isAscii b = true := by
  unfold sameDigest
  rw [← Bool.and_eq_true]
  split
  · next ascii => simp [ascii]
  · next ascii => simp [ascii]

theorem sameDigest_eq_ok_true_iff {a b : String} (ascii : Text.isAscii b = true) :
    sameDigest a b = .ok true ↔ a = b := by
  constructor
  · exact Registry.eq_of_sameDigest
  · rintro rfl
    simp [sameDigest, ascii]

namespace Registry

variable {reg : Registry} {id rulesHash : Document}

/-- Whether two values are written digests, which alone can be compared. -/
def AreComparable (a b : Document) : Prop :=
  ∃ s t, a = .text s ∧ b = .text t ∧ Text.isAscii s = true ∧ Text.isAscii t = true

theorem exists_sameDigests_iff {a b : Document} :
    (∃ same, sameDigests a b = .ok same) ↔ AreComparable a b := by
  constructor
  · rintro ⟨same, compared⟩
    cases a with
    | text s =>
      cases b with
      | text t =>
        obtain ⟨first, second⟩ := exists_sameDigest_iff.mp ⟨same, compared⟩
        exact ⟨s, t, rfl, rfl, first, second⟩
      | _ => cases compared
    | _ => cases compared
  · rintro ⟨s, t, rfl, rfl, first, second⟩
    exact exists_sameDigest_iff.mpr ⟨first, second⟩

theorem exists_namedRecord?_iff :
    (∃ found, reg.namedRecord? id = .ok found) ↔ id.isScalar = true := by
  unfold namedRecord?
  split
  · next scalar => simp [scalar]
  · next parts => simp [parts]

/-- What an event cites can be checked exactly if the object can be looked up, and the hashes
compared if there is one. -/
theorem exists_citationErrors_iff :
    (∃ errors, reg.citationErrors id rulesHash = .ok errors) ↔ id.isScalar = true ∧
      ∀ r, reg.namedRecord? id = .ok (some r) → AreComparable r.rulesHash rulesHash := by
  rw [← exists_namedRecord?_iff]
  constructor
  · rintro ⟨errors, cites⟩
    obtain ⟨found, named, cites⟩ := bind_eq_ok_iff.mp cites
    refine ⟨⟨found, named⟩, fun r is => ?_⟩
    rw [is] at named
    cases named
    obtain ⟨same, compared, -⟩ := bind_eq_ok_iff.mp cites
    exact exists_sameDigests_iff.mp ⟨same, compared⟩
  · rintro ⟨⟨found, named⟩, compares⟩
    unfold citationErrors
    cases found with
    | none => exact ⟨_, by rw [named]; rfl⟩
    | some r =>
      obtain ⟨same, compared⟩ := exists_sameDigests_iff.mpr (compares r named)
      cases same <;> exact ⟨_, by rw [named, ok_bind]; simp only [compared, ok_bind]; rfl⟩

/-- What an event cites is in order exactly if there is a record that has the rules. -/
theorem citationErrors_eq_nil_iff {errors : List String}
    (cites : reg.citationErrors id rulesHash = .ok errors) :
    errors = [] ↔ ∃ r, reg.namedRecord? id = .ok (some r) ∧ r.rulesHash = rulesHash := by
  constructor
  · rintro rfl
    obtain ⟨r, s, named, record, event⟩ := exists_record_of_citation cites
    exact ⟨r, named, record.trans event.symm⟩
  · rintro ⟨r, named, same⟩
    obtain ⟨s, t, record, event, -, ascii⟩ := (exists_citationErrors_iff.mp ⟨_, cites⟩).2 r named
    have one : s = t := by
      rw [record, event] at same
      exact Document.text.inj same
    have compared : sameDigests r.rulesHash rulesHash = .ok true := by
      rw [record, event]
      exact (sameDigest_eq_ok_true_iff ascii).mpr one
    unfold citationErrors at cites
    rw [named, ok_bind] at cites
    simp only [compared, ok_bind] at cites
    exact (Except.ok.inj cites).symm

/-! ## Checking again -/

/-- Whether a recorded refusal can be checked: its event has a digest, and every value in it is one
that the check can do with. -/
structure CanCheck (reg : Registry) (l : LogRecord) (id action rulesHash : Document) : Prop where
  written : Every IsExact l.event.toDocument ∧ Every IsShort l.event.toDocument ∧
    Whole l.event.toDocument
  reference : Text.isAscii l.reference = true
  named : id.isScalar = true
  compares : ∀ r, reg.namedRecord? id = .ok (some r) → AreComparable r.rulesHash rulesHash
  action : ∃ a : Action, action.isNumber a.number = true

theorem exists_ofNumber_iff {action : Document} :
    (∃ a, Action.ofNumber action = .ok a) ↔ ∃ a : Action, action.isNumber a.number = true := by
  unfold Action.ofNumber byNumber
  constructor
  · rintro ⟨a, acted⟩
    split at acted
    · next b found =>
      have number := List.find?_some found
      exact ⟨b, number⟩
    · cases acted
  · rintro ⟨a, number⟩
    cases found : Action.all.find? fun a => action.isNumber a.number with
    | none =>
      have known : a ∈ Action.all := by cases a <;> decide
      exact absurd number (List.find?_eq_none.mp found a known)
    | some b => exact ⟨b, rfl⟩

variable {reference : String} {l : LogRecord} {actor action reason : Document}

/-- What a refusal that is found is checked for, stage by stage. -/
theorem verifyRefusal_eq_ok_iff (found : reg.log.find? reference = some l)
    (body : l.event.body = .refused id actor action rulesHash reason) {p : RefusalProof} :
    reg.verifyRefusal (.text reference) = .ok p ↔ ∃ digest intact errors a,
      l.event.digest = .ok digest ∧ sameDigest digest l.reference = .ok intact ∧
      reg.citationErrors id rulesHash = .ok errors ∧ Action.ofNumber action = .ok a ∧
      p = {
        errors := (if intact then [] else
          ["event content does not match its transaction reference"]) ++ errors
        valid := ((if intact then [] else
          ["event content does not match its transaction reference"]) ++ errors).isEmpty
        reference := .text l.reference, objectId := id, actor := actor, action := some a
        reason := reason, rulesHash := rulesHash } := by
  unfold verifyRefusal
  simp only [Document.shown, found, body]
  constructor
  · intro proved
    obtain ⟨digest, digested, proved⟩ := bind_eq_ok_iff.mp proved
    obtain ⟨intact, compared, proved⟩ := bind_eq_ok_iff.mp proved
    obtain ⟨errors, cites, proved⟩ := bind_eq_ok_iff.mp proved
    obtain ⟨a, acted, proved⟩ := bind_eq_ok_iff.mp proved
    exact ⟨digest, intact, errors, a, digested, compared, cites, acted, (Except.ok.inj proved).symm⟩
  · rintro ⟨digest, intact, errors, a, digested, compared, cites, acted, rfl⟩
    simp only [digested, compared, cites, acted, ok_bind]
    rfl

theorem exists_verifyRefusal_iff (found : reg.log.find? reference = some l)
    (body : l.event.body = .refused id actor action rulesHash reason) :
    (∃ p, reg.verifyRefusal (.text reference) = .ok p) ↔ reg.CanCheck l id action rulesHash := by
  simp only [verifyRefusal_eq_ok_iff found body]
  constructor
  · rintro ⟨p, digest, intact, errors, a, digested, compared, cites, acted, -⟩
    obtain ⟨named, compares⟩ := exists_citationErrors_iff.mp ⟨errors, cites⟩
    exact ⟨((Event.digest_eq_ok_iff ..).mp digested).1,
      (exists_sameDigest_iff.mp ⟨intact, compared⟩).2, named, compares,
      exists_ofNumber_iff.mp ⟨a, acted⟩⟩
  · rintro ⟨written, ascii, named, compares, number⟩
    have digested := (Event.digest_eq_ok_iff _ _).mpr ⟨written, rfl⟩
    have hex : Text.IsHex (Sha256.ofText (l.event.toDocument.toJson .canonical)) :=
      Sha256.isHex_ofBytes _
    obtain ⟨intact, compared⟩ := exists_sameDigest_iff.mpr ⟨hex.isAscii, ascii⟩
    obtain ⟨errors, cites⟩ := exists_citationErrors_iff.mpr ⟨named, compares⟩
    obtain ⟨a, acted⟩ := exists_ofNumber_iff.mpr number
    exact ⟨_, _, _, _, _, digested, compared, cites, acted, rfl⟩

/-- A proof of a refusal that is found is valid exactly if the event has its reference for its
digest, and names an object whose record has the rules that it cites. -/
theorem valid_iff_of_found (found : reg.log.find? reference = some l)
    (body : l.event.body = .refused id actor action rulesHash reason) {p : RefusalProof}
    (proved : reg.verifyRefusal (.text reference) = .ok p) :
    p.valid = true ↔ l.event.digest = .ok l.reference ∧
      ∃ r, reg.namedRecord? id = .ok (some r) ∧ r.rulesHash = rulesHash := by
  obtain ⟨digest, intact, errors, a, digested, compared, cites, -, rfl⟩ :=
    (verifyRefusal_eq_ok_iff found body).mp proved
  have ascii := (exists_sameDigest_iff.mp ⟨intact, compared⟩).2
  have whole : intact = true ↔ l.event.digest = .ok l.reference := by
    rw [digested, Except.ok.injEq, ← sameDigest_eq_ok_true_iff ascii, compared, Except.ok.injEq]
  rw [← whole, ← citationErrors_eq_nil_iff cites]
  cases intact <;> simp

theorem errors_of_found (found : reg.log.find? reference = some l)
    (body : l.event.body = .refused id actor action rulesHash reason) {p : RefusalProof}
    (proved : reg.verifyRefusal (.text reference) = .ok p) : p.valid = true ↔ p.errors = [] := by
  obtain ⟨digest, intact, errors, a, -, -, -, -, rfl⟩ :=
    (verifyRefusal_eq_ok_iff found body).mp proved
  exact List.isEmpty_iff

/-- Whether there is a refusal behind a reference, of an action on an object and with a hash. -/
def Finds (reg : Registry) (reference : String) (l : LogRecord) (id action rulesHash : Document) :
    Prop :=
  reg.log.find? reference = some l ∧
    ∃ actor reason, l.event.body = .refused id actor action rulesHash reason

theorem Finds.unique {l' : LogRecord} {id' action' rulesHash' : Document}
    (finds : reg.Finds reference l id action rulesHash)
    (finds' : reg.Finds reference l' id' action' rulesHash') :
    l' = l ∧ id' = id ∧ action' = action ∧ rulesHash' = rulesHash := by
  obtain ⟨found, actor, reason, body⟩ := finds
  obtain ⟨found', actor', reason', body'⟩ := finds'
  cases found.symm.trans found'
  cases body.symm.trans body'
  exact ⟨rfl, rfl, rfl, rfl⟩

/-- Without a refusal behind its reference a check fails and says why. -/
theorem exists_failed_of_not_finds
    (none : ∀ l id action rulesHash, ¬ reg.Finds reference l id action rulesHash) :
    ∃ error, reg.verifyRefusal (.text reference) = .ok (.failed (.text reference) error) := by
  unfold verifyRefusal
  simp only [Document.shown]
  cases found : reg.log.find? reference with
  | none => exact ⟨_, rfl⟩
  | some l =>
    cases body : l.event.body with
    | refused id actor action rulesHash reason =>
      exact absurd ⟨found, actor, reason, body⟩ (none l id action rulesHash)
    | _ =>
      simp only [body]
      exact ⟨_, rfl⟩

/-- A check tells whether the refusal behind a reference is what was recorded, unless it is one that
cannot be checked. The proof is valid exactly if there is a refusal, its event has the reference for
its digest, and it names an object whose record has the rules that it cites; a proof that is not
valid says what is wrong. -/
theorem verifyRefusal_reports (reg : Registry) (reference : String) :
    ((∃ p, reg.verifyRefusal (.text reference) = .ok p) ↔
      ∀ l id action rulesHash, reg.Finds reference l id action rulesHash →
        reg.CanCheck l id action rulesHash) ∧
    ∀ p, reg.verifyRefusal (.text reference) = .ok p →
      (p.valid = true ↔ ∃ l id action rulesHash, reg.Finds reference l id action rulesHash ∧
        l.event.digest = .ok l.reference ∧
        ∃ r, reg.namedRecord? id = .ok (some r) ∧ r.rulesHash = rulesHash) ∧
      (p.valid = true ↔ p.errors = []) := by
  by_cases refused : ∃ l id action rulesHash, reg.Finds reference l id action rulesHash
  · obtain ⟨l, id, action, rulesHash, finds⟩ := refused
    have ⟨found, actor, reason, body⟩ := finds
    constructor
    · rw [exists_verifyRefusal_iff found body]
      constructor
      · intro checkable l' id' action' rulesHash' finds'
        obtain ⟨rfl, rfl, rfl, rfl⟩ := finds.unique finds'
        exact checkable
      · exact fun all => all l id action rulesHash finds
    · intro p proved
      refine ⟨?_, errors_of_found found body proved⟩
      rw [valid_iff_of_found found body proved]
      constructor
      · exact fun fine => ⟨l, id, action, rulesHash, finds, fine⟩
      · rintro ⟨l', id', action', rulesHash', finds', fine⟩
        obtain ⟨rfl, rfl, rfl, rfl⟩ := finds.unique finds'
        exact fine
  · have none : ∀ l id action rulesHash, ¬ reg.Finds reference l id action rulesHash :=
      fun l id action rulesHash finds => refused ⟨l, id, action, rulesHash, finds⟩
    obtain ⟨error, failed⟩ := exists_failed_of_not_finds none
    refine ⟨⟨fun _ l id action rulesHash finds => absurd finds (none l id action rulesHash),
      fun _ => ⟨_, failed⟩⟩, fun p proved => ?_⟩
    cases failed.symm.trans proved
    refine ⟨⟨fun valid => ?_, ?_⟩, ⟨fun valid => ?_, fun empty => ?_⟩⟩
    · cases valid
    · rintro ⟨l, id, action, rulesHash, finds, -⟩
      exact absurd finds (none l id action rulesHash)
    · cases valid
    · cases empty

/-! ## A snapshot with a refusal and no record -/

/-- A refusal of an action on any object. -/
def strayEvent (id : Document) : Event where
  id := .text "e"
  timestamp := .text "t"
  correlation := .null
  body := .refused id (.text "bob") (.integer 1) (.text "c0de") (.text "no")

/-- A registry with the refusal under a reference of someone's choice. -/
def strayRegistry (id : Document) : Registry where
  log := ⟨[⟨1, strayEvent id, .text "1", 1, "feed"⟩], 1⟩

/-- A snapshot with the refusal. -/
def strayDocument (id : Document) : Document :=
  .object [("events", .list [.object [("sequence_number", .integer 1), ("stream_id", .text "1"),
    ("version", .integer 1), ("tx_ref", .text "feed"), ("event", .object [
      ("event_type", .text "ActionRefused"), ("event_id", .text "e"),
      ("event_timestamp", .text "t"), ("rdo_id", id), ("actor", .text "bob"),
      ("action", .integer 1), ("rules_hash", .text "c0de"), ("reason", .text "no")])]])]

theorem restore_strayDocument (s : Surroundings) (id : Document) :
    restore s 0 (strayDocument id) = (0, .ok (strayRegistry id)) := rfl

theorem isRestored_strayRegistry {id : Document} (exact : Every IsExact id)
    (short : Every IsShort id) (whole : Whole id) (distinct : Every HasDistinctNames id) :
    (strayRegistry id).IsRestored := by
  have exact : Every IsExact (strayDocument id) := by simp [strayDocument, IsExact, exact]
  have short : Every IsShort (strayDocument id) := by simp [strayDocument, short]
  have distinct : Every HasDistinctNames (strayDocument id) := by
    simp [strayDocument, HasDistinctNames, distinct]
  have whole : Whole (strayDocument id) := by
    have texts : ∀ s ∈ ["1", "feed", "ActionRefused", "e", "t", "bob", "c0de", "no"],
        Text.IsWhole s := by decide
    have names : ∀ s ∈ ["events", "sequence_number", "stream_id", "version", "tx_ref", "event",
        "event_type", "event_id", "event_timestamp", "rdo_id", "actor", "action", "rules_hash",
        "reason"], Text.IsWhole s := by decide
    simp only [List.forall_mem_cons] at texts names
    simp [strayDocument, HasWholeTexts, texts, names, whole]
  have readable := Document.readable_of_orderly (Document.orderly_of_whole exact whole distinct)
    short
  exact ⟨_, _, ⟨0, "", .null, .numbered⟩, 0, _, Document.parse_toJson_line readable whole,
    restore_strayDocument ..⟩

theorem finds_strayRegistry (id : Document) :
    (strayRegistry id).Finds "feed" ⟨1, strayEvent id, .text "1", 1, "feed"⟩ id (.integer 1)
      (.text "c0de") :=
  ⟨by rfl, .text "bob", .text "no", rfl⟩

/-- A refusal on an object that is not there is told to be wrong. -/
theorem verifyRefusal_reports_stray :
    (strayRegistry (.integer 9)).IsRestored ∧ ∃ p,
      (strayRegistry (.integer 9)).verifyRefusal (.text "feed") = .ok p ∧ p.valid = false ∧
        p.errors ≠ [] := by
  have short : Every IsShort (.integer 9) :=
    (Every.integer_iff 9).mpr (Document.isShort_of_natAbs_lt (by decide))
  have one : IsShort (.integer 1) := Document.isShort_one
  have unknown : (strayRegistry (.integer 9)).namedRecord? (.integer 9) = .ok none := rfl
  have checkable : (strayRegistry (.integer 9)).CanCheck
      ⟨1, strayEvent (.integer 9), .text "1", 1, "feed"⟩ (.integer 9) (.integer 1)
      (.text "c0de") := by
    refine ⟨?_, by decide, rfl, fun r named => ?_, .forward, by decide⟩
    · have texts : ∀ s ∈ ["e", "t", "bob", "c0de", "no"], Text.IsWhole s := by decide
      simp only [List.forall_mem_cons] at texts
      rw [Event.exact_toDocument_iff, Event.short_toDocument_iff, Event.whole_toDocument_iff]
      simp [strayEvent, Event.fields, EventBody.fields, IsExact, HasWholeTexts, texts, one, short]
    · cases unknown.symm.trans named
  have reports := verifyRefusal_reports (strayRegistry (.integer 9)) "feed"
  have finds := finds_strayRegistry (.integer 9)
  obtain ⟨p, proved⟩ := reports.1.mpr fun l id action rulesHash finds' => by
    obtain ⟨rfl, rfl, rfl, rfl⟩ := finds.unique finds'
    exact checkable
  have broken : p.valid ≠ true := by
    intro valid
    obtain ⟨l, id, action, rulesHash, finds', -, r, named, -⟩ := (reports.2 p proved).1.mp valid
    obtain ⟨-, rfl, -, -⟩ := finds.unique finds'
    cases unknown.symm.trans named
  exact ⟨isRestored_strayRegistry (by simp [IsExact]) short (by simp [HasWholeTexts])
    (by simp [HasDistinctNames]), p, proved, by simpa using broken,
    fun none => broken ((reports.2 p proved).2.mpr none)⟩

/-- A refusal whose object is a list in the snapshot is not told to be wrong, but makes the check
fail. -/
theorem not_verifyRefusal_stray :
    (strayRegistry (.list [.integer 1])).IsRestored ∧
      ∀ p, (strayRegistry (.list [.integer 1])).verifyRefusal (.text "feed") ≠ .ok p := by
  have short : IsShort (.integer 1) := Document.isShort_one
  refine ⟨isRestored_strayRegistry (by simp [IsExact]) (by simp [short]) (by simp [HasWholeTexts])
    (by simp [HasDistinctNames]), fun p proved => ?_⟩
  obtain ⟨found, actor, reason, body⟩ := finds_strayRegistry (.list [.integer 1])
  have checkable := (exists_verifyRefusal_iff found body).mp ⟨p, proved⟩
  cases checkable.named

end Registry

end RuleBound
