import RuleBound.Registry.Proof
import RuleBound.Proofs.Registry.Reload

/-!
Proofs of refusals after any moves. A refusal that a caller was told of is proved by its reference
for as long as the registry lives, through every call and every reload, provided that the digests of
the recorded events are distinct. Nothing else is proved: a proof that is valid is one of a refusal
that a caller was told of.
-/

namespace RuleBound

namespace Registry

/-! ## What the events of refusals cite -/

/-- Whether what the event of a deed tells of a refusal is what the record of the object says. -/
def Deed.IsCited (reg : Registry) (d : Deed) : Prop :=
  match d.act with
  | .verdict req (some why) => ∃ hash r, reg.record? d.objectId = some r ∧
      r.rulesHash = .text hash ∧ Text.isDigest hash = true ∧
      d.event.body = .refused (.integer d.objectId) (.text req.actor) (.integer req.action.number)
        (.text hash) (.text why.reason)
  | _ => d.event.eventClass ≠ .refused

variable {reg reg' : Registry} {es : List Entry} {d : Deed}

/-- A deed leaves the rules hash of a record that was there. -/
theorem Happens.exists_rulesHash (happens : Happens reg d reg') (holds : reg.Holds es) {id : Int}
    {r : Record} (found : reg.record? id = some r) :
    ∃ r', reg'.record? id = some r' ∧ r'.rulesHash = r.rulesHash := by
  by_cases here : d.objectId = id
  · cases act : d.act with
    | mint m =>
      obtain ⟨next, -⟩ := happens.chronicle_of_mint act
      have small := holds.lt_nextId found
      omega
    | verdict req refusal =>
      subst here
      cases happens with
      | mint => cases act
      | @verdict id now req' refusal' s s' there breaks after correlation stamp =>
        cases there.symm.trans found
        refine ⟨s', ?_, by rw [eq_of_after after]; rfl⟩
        rw [emit_record?]
        exact (record?_putRecord ..).trans (if_pos rfl)
  · exact ⟨r, by rw [happens.record?_of_ne here, found], rfl⟩

/-- A deed cites what its record says. -/
theorem Happens.isCited (happens : Happens reg d reg') (holds : reg.Holds es) : d.IsCited reg' := by
  cases happens with
  | mint now checked stamp =>
    simp [Deed.IsCited, createdEvent, Event.eventClass, EventBody.eventClass]
  | @verdict id now req refusal r r' found breaks after correlation stamp =>
    obtain ⟨e, mem, rfl, rfl⟩ := holds.exists_entry found
    have same := eq_of_after after
    cases refusal with
    | none => simp [Deed.IsCited, verdictEvent, Event.eventClass, EventBody.eventClass]
    | some why =>
      refine ⟨e.minting.rulesHash, r', ?_, ?_, (holds.typed e mem).rulesHash, ?_⟩
      · rw [emit_record?]
        exact (record?_putRecord ..).trans (if_pos rfl)
      · rw [same]
        rfl
      · rw [same]
        rfl

/-- What a deed cites goes on to be what its record says. -/
theorem Deed.IsCited.mono (cited : d.IsCited reg)
    (keeps : ∀ id r, reg.record? id = some r →
      ∃ r', reg'.record? id = some r' ∧ r'.rulesHash = r.rulesHash) : d.IsCited reg' := by
  unfold IsCited at cited ⊢
  split at cited
  · obtain ⟨hash, r, found, cites, digest, body⟩ := cited
    obtain ⟨r', found', same⟩ := keeps _ r found
    exact ⟨hash, r', found', same.trans cites, digest, body⟩
  · exact cited

theorem Holds.exists_rulesHash_reread (holds : reg.Holds es) (id : Int) (r : Record)
    (found : reg.record? id = some r) :
    ∃ r', (reg.reread es).record? id = some r' ∧ r'.rulesHash = r.rulesHash := by
  rw [holds.find?_eq, Option.map_eq_some_iff] at found
  obtain ⟨e, found, rfl⟩ := found
  refine ⟨e.reread.record, ?_, rfl⟩
  rw [holds.reread.find?_eq, List.find?_map]
  change ((es.find? fun e => e.id == id).map Entry.reread).map Entry.record = _
  rw [found]
  rfl

/-! ## The log after any moves -/

/-- Whether the log has the events of the recorded deeds, and all deeds cite what the records
say. -/
structure Cites (reg : Registry) (ds : List Deed) : Prop where
  events : reg.log.records.map LogRecord.event = (ds.filter Deed.isRecorded).map Deed.event
  cited : ∀ d ∈ ds, d.IsCited reg

theorem cites_moves {ms : List Move} (typed : ∀ mv ∈ ms, mv.IsTyped) :
    Cites (State.moves {} ms).registry (State.moveDeeds {} ms) ∧
      ∃ es, (State.moves {} ms).registry.Holds es := by
  refine State.moves_induction Cites ?_ ?_ holds_empty [] ⟨rfl, by simp⟩ typed
  · intro reg es ds d reg' cites holds happens typed
    refine ⟨?_, fun e mem => ?_⟩
    · rcases happens.log_cases (fun r found => holds.id_eq found) with
        ⟨reference, recorded, -, log⟩ | ⟨unrecorded, log⟩
      · rw [log, List.map_append, cites.events, List.filter_append]
        simp [recorded, nextLogRecord]
      · rw [log, cites.events, List.filter_append]
        simp [unrecorded]
    · rcases List.mem_append.mp mem with before | last
      · exact (cites.cited e before).mono fun id r found => happens.exists_rulesHash holds found
      · rw [List.mem_singleton.mp last]
        exact happens.isCited holds
  · intro reg es ds cites holds
    exact ⟨cites.events, fun d mem => (cites.cited d mem).mono holds.exists_rulesHash_reread⟩

/-! ## Verifying -/

/-- Whether the events of the recorded deeds have different digests. -/
def Apart (ds : List Deed) : Prop :=
  ((ds.filter Deed.isRecorded).map fun d => d.event.digest).Nodup

theorem apart_of_unrecorded {first second : Deed} (unrecorded : first.isRecorded = false) :
    Apart [first, second] := by
  rw [Apart, List.filter_cons, unrecorded, if_neg Bool.false_ne_true, List.filter_singleton]
  cases second.isRecorded <;> simp

theorem Cites.nodup_references {ds : List Deed} (cites : Cites reg ds) (holds : reg.Holds es)
    (apart : Apart ds) : (reg.log.records.map LogRecord.reference).Nodup := by
  have digests : (reg.log.records.map fun r => r.event.digest) =
      (reg.log.records.map LogRecord.reference).map (Except.ok (ε := Fault)) := by
    rw [List.map_map]
    exact List.map_congr_left fun r mem => (holds.log r mem).digest
  have same := congrArg (List.map Event.digest) cites.events
  rw [List.map_map, List.map_map] at same
  refine List.Nodup.of_map (Except.ok (ε := Fault)) ?_
  rw [← digests]
  exact same ▸ apart

theorem find?_of_mem {log : EventLog} (nodup : (log.records.map LogRecord.reference).Nodup)
    {l : LogRecord} (mem : l ∈ log.records) {u : String} (same : Text.lower u = l.reference) :
    log.find? u = some l := by
  unfold EventLog.find?
  cases found : log.records.reverse.find? fun r => r.reference == Text.lower u with
  | none =>
    have missing := List.find?_eq_none.mp found l (List.mem_reverse.mpr mem)
    simp [same] at missing
  | some k =>
    have named : k.reference = l.reference := by
      rw [← same]
      simpa using List.find?_some found
    have within : k ∈ log.records := List.mem_reverse.mp (List.mem_of_find?_eq_some found)
    rw [List.inj_on_of_nodup_map nodup within mem named]

theorem ofNumber_number (a : Action) : Action.ofNumber (.integer a.number) = .ok a := by
  cases a <;> rfl

/-- A refusal that is found in the log and cites its record is proved. -/
theorem verifyRefusal_of_found {l : LogRecord} (sound : l.IsSound) (reference : Document)
    (found : reg.log.find? reference.shown = some l) {id : Int} {actor hash reason : String}
    {action : Action} (body : l.event.body = .refused (.integer id) (.text actor)
      (.integer action.number) (.text hash) (.text reason)) {r : Record}
    (record : reg.record? id = some r) (cites : r.rulesHash = .text hash)
    (digest : Text.isDigest hash = true) :
    reg.verifyRefusal reference = .ok ⟨true, .text l.reference, .integer id, .text actor,
      some action, .text reason, .text hash, []⟩ := by
  obtain ⟨message, written⟩ := sound.exists_message
  have ascii : Text.isAscii l.reference = true := written ▸ (Sha256.isHex_ofBytes message).isAscii
  have intact : sameDigest l.reference l.reference = .ok true := by
    simp [sameDigest, ascii]
  have same : sameDigests r.rulesHash (.text hash) = .ok true := by
    simp [sameDigests, sameDigest, cites, Text.isAscii_of_isDigest digest]
  have named : reg.namedRecord? (.integer id) = .ok (some r) := by
    have sames : ∀ s : Int × Record, (Document.integer id).isNumber s.1 = (s.1 == id) := by
      intro s
      rw [Document.isNumber_integer, Bool.beq_comm]
    unfold namedRecord?
    simp only [sames, ← record]
    rfl
  unfold verifyRefusal citationErrors
  simp only [found, body, sound.digest, intact, named, same, ofNumber_number, ok_bind]
  rfl

/-- A proof is valid only if the log has the event of a refusal under the reference. -/
theorem exists_of_valid {reference : Document} {p : RefusalProof}
    (proved : reg.verifyRefusal reference = .ok p) (valid : p.valid = true) :
    ∃ l ∈ reg.log.records, l.event.eventClass = .refused ∧
      l.reference = Text.lower reference.shown := by
  unfold verifyRefusal at proved
  cases found : reg.log.find? reference.shown with
  | none =>
    simp only [found] at proved
    cases proved
    cases valid
  | some l =>
    have named := List.find?_some found
    refine ⟨l, List.mem_reverse.mp (List.mem_of_find?_eq_some found), ?_, by simpa using named⟩
    simp only [found] at proved
    cases body : l.event.body with
    | refused => rw [Event.eventClass, body, EventBody.eventClass]
    | _ =>
      simp only [body] at proved
      cases proved
      cases valid

section Cites

variable {ds : List Deed}

theorem Cites.exists_logged (cites : Cites reg ds) (mem : d ∈ ds) (recorded : d.isRecorded = true) :
    ∃ l ∈ reg.log.records, l.event = d.event := by
  have told : d.event ∈ (ds.filter Deed.isRecorded).map Deed.event :=
    List.mem_map_of_mem (List.mem_filter.mpr ⟨mem, recorded⟩)
  rw [← cites.events] at told
  exact List.mem_map.mp told

theorem Cites.exists_deed (cites : Cites reg ds) {l : LogRecord} (mem : l ∈ reg.log.records) :
    ∃ d ∈ ds, d.isRecorded = true ∧ d.event = l.event := by
  have told : l.event ∈ reg.log.records.map LogRecord.event := List.mem_map_of_mem mem
  rw [cites.events] at told
  obtain ⟨d, within, same⟩ := List.mem_map.mp told
  obtain ⟨mem, recorded⟩ := List.mem_filter.mp within
  exact ⟨d, mem, recorded, same⟩

/-- A recorded refusal is proved by its reference, in whatever case it is written. -/
theorem Cites.verifyRefusal_eq (cites : Cites reg ds) (holds : reg.Holds es) (apart : Apart ds)
    (mem : d ∈ ds) (recorded : d.isRecorded = true) {req : Request} {why : Refusal}
    (act : d.act = .verdict req (some why)) {digest : String}
    (written : d.event.digest = .ok digest)
    {reference : String} (recased : Text.IsRecased reference digest) :
    ∃ r hash, reg.record? d.objectId = some r ∧ r.rulesHash = .text hash ∧
      reg.verifyRefusal (.text reference) = .ok ⟨true, .text digest, .integer d.objectId,
        .text req.actor, some req.action, .text why.reason, .text hash, []⟩ := by
  have cited := cites.cited d mem
  simp only [Deed.IsCited, act] at cited
  obtain ⟨hash, r, found, rules, hashed, body⟩ := cited
  obtain ⟨l, within, event⟩ := cites.exists_logged mem recorded
  have sound := holds.log l within
  have same : l.reference = digest := by
    have bears := sound.digest
    rw [event, written] at bears
    exact (Except.ok.inj bears).symm
  obtain ⟨message, hex⟩ := sound.exists_message
  have lower : Text.lower reference = l.reference :=
    Text.IsHex.lower_eq (hex ▸ Sha256.isHex_ofBytes message) (same ▸ recased)
  have logged := find?_of_mem (cites.nodup_references holds apart) within lower
  have proved := verifyRefusal_of_found sound (.text reference) logged (event ▸ body) found rules
    hashed
  exact ⟨r, hash, found, rules, same ▸ proved⟩

end Cites

/-- Whether a caller was told, in the course of some moves, that a request was refused. -/
def State.Refuses (st : State) (ms : List Move) (o : Outcome) : Prop :=
  ∃ before x after, ms = before ++ .call x :: after ∧
    ((st.moves before).step x).2 = .decided (.ok o) ∧ o.refusal ≠ none

theorem id_eq_of_moves {ms : List Move} (typed : ∀ mv ∈ ms, mv.IsTyped) (id : Int) (r : Record)
    (found : (State.moves {} ms).registry.record? id = some r) : r.id = .integer id := by
  obtain ⟨es, holds⟩ := State.holds_moves typed
  exact holds.id_eq found

/-- A refusal that a caller was told of is proved by its reference after the moves. -/
theorem verifyRefusal_of_refuses {ms : List Move} (typed : ∀ mv ∈ ms, mv.IsTyped)
    (apart : Apart (State.moveDeeds {} ms)) {o : Outcome} (refuses : State.Refuses {} ms o)
    {reference : String} (recased : Text.IsRecased reference o.reference) :
    ∃ r hash, (State.moves {} ms).registry.record? o.objectId = some r ∧
      r.rulesHash = .text hash ∧
      (State.moves {} ms).registry.verifyRefusal (.text reference) = .ok ⟨true,
        .text o.reference, .integer o.objectId, .text o.actor, some o.action, .text o.reason,
        .text hash, []⟩ := by
  obtain ⟨cites, es, holds⟩ := cites_moves typed
  obtain ⟨before, x, after, rfl, answer, refused⟩ := refuses
  have named := id_eq_of_moves fun mv mem => typed mv (List.mem_append_left _ mem)
  obtain ⟨d, req, deed, act, recorded, digest, same⟩ := State.exists_deed_of_outcome answer named
  have mem := State.mem_moveDeeds.mpr ⟨before, x, after, rfl, deed⟩
  obtain ⟨why, is⟩ := Option.ne_none_iff_exists'.mp refused
  have reason : o.reason = why.reason := by
    rw [Outcome.reason, is]
    rfl
  rw [reason, congrArg Outcome.objectId same, congrArg Outcome.actor same,
    congrArg Outcome.action same]
  exact cites.verifyRefusal_eq holds apart mem recorded (is ▸ act) digest recased

/-- A proof that is valid is one of a refusal that a caller was told of. -/
theorem exists_refuses_of_valid {ms : List Move} (typed : ∀ mv ∈ ms, mv.IsTyped)
    {reference : Document} {p : RefusalProof}
    (proved : (State.moves {} ms).registry.verifyRefusal reference = .ok p)
    (valid : p.valid = true) :
    ∃ o, State.Refuses {} ms o ∧ Text.lower reference.shown = o.reference := by
  obtain ⟨cites, es, holds⟩ := cites_moves typed
  obtain ⟨l, within, refused, bears⟩ := exists_of_valid proved valid
  obtain ⟨d, mem, recorded, event⟩ := cites.exists_deed within
  obtain ⟨before, x, after, rfl, deed⟩ := State.mem_moveDeeds.mp mem
  have named := id_eq_of_moves fun mv mem => typed mv (List.mem_append_left _ mem)
  have cited := cites.cited d mem
  unfold Deed.IsCited at cited
  split at cited
  · next req why act =>
    rcases State.answer_of_verdict deed act (named d.objectId) with
      ⟨digest, -, written, answer⟩ | ⟨f, unrecorded, -⟩
    · refine ⟨_, ⟨before, x, after, rfl, answer, by simp⟩, ?_⟩
      have same := (holds.log l within).digest
      rw [← event, written] at same
      rw [← bears]
      exact (Except.ok.inj same).symm
    · rw [recorded] at unrecorded
      cases unrecorded
  -- what is no refusal has no event of one
  · exact absurd (event ▸ refused) cited

/-- After any moves, each refusal that a caller was told of in their course is proved by its
reference, in whatever case it is written, and it is proved as the refusal that it was. A proof is
valid only for the reference of such a refusal. -/
theorem verifyRefusal_valid_iff_refused {ms : List Move} (typed : ∀ mv ∈ ms, mv.IsTyped)
    (apart : Apart (State.moveDeeds {} ms)) :
    let reached := (State.moves {} ms).registry
    (∀ o, State.Refuses {} ms o → ∀ reference, Text.IsRecased reference o.reference →
      ∃ r hash, reached.record? o.objectId = some r ∧ r.rulesHash = .text hash ∧
        reached.verifyRefusal (.text reference) = .ok ⟨true, .text o.reference,
          .integer o.objectId, .text o.actor, some o.action, .text o.reason, .text hash, []⟩) ∧
    (∀ reference p, reached.verifyRefusal reference = .ok p → p.valid = true →
      ∃ o, State.Refuses {} ms o ∧ Text.lower reference.shown = o.reference) :=
  ⟨fun _ refuses _ recased => verifyRefusal_of_refuses typed apart refuses recased,
    fun _ _ proved valid => exists_refuses_of_valid typed proved valid⟩

/-- The creator of an object has half of a pair in its name, so the refusal of a request for the
object is the first event to be recorded. It is proved after a reload. -/
theorem verifyRefusal_after_reload :
    let s : Surroundings := ⟨0, "", .text "errand", .numbered⟩
    let forward : Call := .request (.integer 1) (.text "FORWARD") (.member []) (.text "bob")
    let ms : List Move := [.call ⟨s, .create (onceRequest halfName)⟩, .call ⟨s, forward⟩, .reload s]
    ∃ o, State.Refuses {} ms o ∧ o.reason = "Forwarding forbidden" ∧ ∃ r hash,
      (State.moves {} ms).registry.record? o.objectId = some r ∧ r.rulesHash = .text hash ∧
      (State.moves {} ms).registry.verifyRefusal (.text o.reference) = .ok ⟨true,
        .text o.reference, .integer o.objectId, .text o.actor, some o.action, .text o.reason,
        .text hash, []⟩ := by
  intro s forward ms
  have form : Request.check (.text "FORWARD") (.member []) (.text "bob") =
      .ok ⟨.forward, [], "bob"⟩ := by decide +kernel
  have mint := State.deed?_create {} s (check_onceRequest (.inr rfl))
  have verdict := deed?_onceRequest s (.inr rfl) form (some (.forbidden .forward false false)) rfl
  have unrecorded :
      isRecordable 1 (createdEvent 1 (onceMinting halfName) (s.stamp {})) = false := by
    rw [← Bool.not_eq_true,
      isRecordable_onceMinting Document.isShort_one (by decide +kernel) (by decide)]
    decide
  have correlation : Document.Every Document.HasDistinctNames s.correlation := by
    simp [s, Document.HasDistinctNames]
  have typed : ∀ mv ∈ ms, mv.IsTyped := by
    rw [List.forall_mem_cons, List.forall_mem_cons, List.forall_mem_singleton]
    exact ⟨Step.isTyped_onceRequest correlation _, Step.isTyped_request correlation .., trivial⟩
  have apart : Apart (State.moveDeeds {} ms) := by
    rw [State.moveDeeds, State.moveDeeds, State.moveDeeds, State.moveDeeds, State.moveDeed?,
      State.moveDeed?, State.moveDeed?, State.move, mint, verdict]
    exact apart_of_unrecorded unrecorded
  rcases State.answer_of_verdict verdict rfl (fun r is => by
      cases (record?_onceRequest s (.inr rfl)).symm.trans is
      rfl) with ⟨reference, -, -, answer⟩ | ⟨f, missing, -⟩
  · have refused : State.Refuses {} ms _ := ⟨[.call ⟨s, .create (onceRequest halfName)⟩], _,
      [.reload s], rfl, answer, by simp⟩
    exact ⟨_, refused, rfl, (verifyRefusal_valid_iff_refused typed apart).1 _ refused _ rfl⟩
  · have errand : Text.IsWhole "errand" := by decide
    refine absurd ((isRecordable_verdictEvent_iff rfl rfl (isDigest_onceMinting halfName) ..).mpr
      ⟨Document.isShort_one, by decide +kernel, by decide, by decide, ?_⟩)
      (missing ▸ Bool.false_ne_true)
    have told : ∀ draws, (s.correlate draws).1 = .text "errand" := fun draws => rfl
    rw [told]
    simp [Document.IsExact, Document.HasWholeTexts, errand]

end Registry

end RuleBound
