import Mathlib.Logic.Relation
import RuleBound.Proofs.Registry.History
import RuleBound.Proofs.Text.Hex

/-!
What lasts of an object. Once it has been minted, its record stays under its identifier and goes on
saying what was minted, whatever else happens to the registry: further mints take other identifiers,
and verdicts change nothing but the standing.
-/

namespace RuleBound

open Document (IsShort)

theorem MintRequest.identity?_of_required {field message : String} {d : Document} {s : String}
    (given : required field message d = .ok s) : Request.identity? d = some s := by
  unfold required at given
  split at given
  · next named =>
    cases given
    exact named
  · cases given

/-- What a mint that passes its checks takes over from its request. -/
theorem MintRequest.eq_of_check {request : MintRequest} {m : Minting}
    (checked : request.check = .ok m) :
    Request.identity? request.creator = some m.creator ∧ request.rulesHash = .text m.rulesHash ∧
      request.rules = .member m.rules ∧ Request.identity? request.pointer = some m.pointer :=
  have passes := passes_of_check checked
  ⟨identity?_of_required passes.creator, passes.rulesHash, (eq_of_checkRules passes.rules).1,
    identity?_of_required passes.pointer⟩

theorem Request.eq_of_identity? {s name : String}
    (named : Request.identity? (.text s) = some name) : s = name := by
  rw [Request.identity?] at named
  by_cases blank : Text.isBlankText s = true
  · rw [if_pos blank] at named
    cases named
  · rw [if_neg blank] at named
    exact Option.some.inj named

/-! ## What can be told -/

/-- Whether the moment and all identifiers that are drawn are whole texts. -/
structure Surroundings.IsWritten (s : Surroundings) : Prop where
  timestamp : Text.IsWhole s.timestamp
  eventId : ∀ n, Text.IsWhole (s.source.eventId n)
  correlationId : ∀ n, Text.IsWhole (s.source.correlationId n)

/-- Whether the correlation under way has a canonical text, if there is any. -/
def Surroundings.IsTellable (s : Surroundings) : Prop :=
  s.correlation.isTrue = true → ∃ text, s.correlation.canonical = .ok text

theorem Document.exists_canonical_text {s : String} (whole : Text.IsWhole s) :
    ∃ text, (Document.text s).canonical = .ok text :=
  ⟨_, (canonical_eq_ok_iff ..).mpr
    ⟨⟨(Every.text_iff _).mpr trivial, (Every.text_iff _).mpr trivial, (Every.text_iff _).mpr whole⟩,
      rfl⟩⟩

/-- The correlation to record has a canonical text exactly if the one under way has, if any is. -/
theorem Surroundings.exists_canonical_correlate_iff {s : Surroundings} (written : s.IsWritten)
    (d : Draws) : (∃ text, (s.correlate d).1.canonical = .ok text) ↔ s.IsTellable := by
  unfold correlate IsTellable
  by_cases given : s.correlation.isTrue = true
  · rw [if_pos given]
    exact ⟨fun told _ => told, fun told => told given⟩
  · rw [if_neg given]
    exact ⟨fun _ here => absurd here given, fun _ =>
      Document.exists_canonical_text (written.correlationId _)⟩

/-- The identifiers that a rehearsal draws are whole texts. -/
theorem Source.isWritten_numbered (now : Int) (correlation : Document) :
    (⟨now, "", correlation, .numbered⟩ : Surroundings).IsWritten := by
  have part : ∀ k start count, Text.IsWhole (Source.numbered.part k start count) :=
    fun k start count => Text.isWhole_hexDigits 32 _ start count
  refine ⟨Text.IsHex.isWhole (List.forall_mem_nil _), fun n => ?_, fun n => ?_⟩
  · change Text.IsWhole ("-".intercalate [_, _, _, _, _])
    rw [Text.isWhole_intercalate (by decide)]
    simp [part]
  · change Text.IsWhole ("corr-" ++ Source.numbered.part n 0 12)
    rw [Text.isWhole_append]
    exact ⟨by decide, part n 0 12⟩

/-- Whether rules let everybody perform an action, at any time and any number of times. -/
structure Minting.IsOpenTo (m : Minting) (action : Action) : Prop where
  scope : ∀ actor, m.outOfScope? actor = none
  unlocking : m.rules.lockOnViolation.isTrue = false
  endless : ∀ now, m.rules.isOver now = false
  permitted : m.rules.forbids action = false
  unlimited : m.rules.limitsUses = false

namespace Registry

variable {reg reg' : Registry}

/-! ## What lasts -/

/-- Whether some deeds lead from one registry to another. -/
def Leads : Registry → Registry → Prop :=
  Relation.ReflTransGen fun reg reg' => ∃ d, Happens reg d reg'

/-- A step leads from one registry to the next. -/
theorem State.leads_step (st : State) (x : Step) : Leads st.registry (st.step x).1.registry := by
  cases deed : st.deed? x with
  | none =>
    rw [step_registry_of_no_deed deed]
    exact .refl
  | some d => exact .single ⟨d, happens_of_deed? deed⟩

/-- Whether an object that was minted stands under an identifier. -/
structure HasMinted (reg : Registry) (id : Int) (m : Minting) : Prop where
  given : id < reg.nextId
  record : ∃ r born stamp later, reg.record? id = some r ∧
    Chronicle id r (⟨id, born, .mint m, createdEvent id m stamp⟩ :: later)

variable {id : Int} {m : Minting}

theorem HasMinted.happens (minted : reg.HasMinted id m) {d : Deed}
    (happens : Happens reg d reg') : reg'.HasMinted id m := by
  obtain ⟨given, r, born, stamp, later, found, chronicle⟩ := minted
  refine ⟨Int.lt_of_lt_of_le given happens.nextId_le, ?_⟩
  by_cases here : d.objectId = id
  · subst here
    obtain ⟨r', found', chronicle'⟩ := happens.chronicle given found chronicle
    exact ⟨r', born, stamp, later ++ [d], found', chronicle'⟩
  · rw [happens.record?_of_ne here]
    exact ⟨r, born, stamp, later, found, chronicle⟩

/-- An object that was minted stands in every registry to which deeds lead. -/
theorem HasMinted.leads (minted : reg.HasMinted id m) (leads : Leads reg reg') :
    reg'.HasMinted id m := by
  induction leads with
  | refl => exact minted
  | tail _ next ih =>
    obtain ⟨d, happens⟩ := next
    exact ih.happens happens

/-- The record of an object says what was minted, but for its standing. -/
theorem HasMinted.exists_account (minted : reg.HasMinted id m) :
    ∃ r born later, reg.record? id = some r ∧ Account id r born m later := by
  obtain ⟨-, r, born, stamp, later, found, chronicle⟩ := minted
  obtain ⟨born', m', stamp', later', all, account⟩ := chronicle.exists_account
  rw [List.cons.injEq, Deed.mk.injEq, Act.mint.injEq] at all
  obtain ⟨⟨-, rfl, rfl, -⟩, rfl⟩ := all
  exact ⟨r, born, later, found, account⟩

/-- The record of an object cites the rules and points to the metadata that were minted. -/
theorem HasMinted.exists_record (minted : reg.HasMinted id m) :
    ∃ r, reg.record? id = some r ∧ r.rulesHash = .text m.rulesHash ∧ r.pointer = .text m.pointer := by
  obtain ⟨r, born, later, found, account⟩ := minted.exists_account
  refine ⟨r, found, ?_, ?_⟩
  · rw [account.fixed]
    rfl
  · rw [account.fixed]
    rfl

/-- A request on an object that was minted under plain rules is decided, and it is answered, with
the verdict, exactly if the actor and the correlation can be told. -/
theorem HasMinted.exists_verdict (minted : reg.HasMinted id m) (plain : m.rules.IsPlain)
    (short : IsShort (.integer id)) {s : Surroundings} (written : s.IsWritten) {d d' : Draws}
    {action actor : Document} {context : Given Bytes} {req : Request}
    (checked : Request.check action context actor = .ok req) {r : Except Fault Outcome}
    (ran : reg.request s d (.integer id) action context actor = (d', reg', r)) :
    ∃ record refusal, reg.record? id = some record ∧
      record.refusal? s.now req.action req.actor = .ok refusal ∧
      ((∃ o, r = .ok o) ↔ Text.IsWhole req.actor ∧ s.IsTellable) ∧
      ∀ o, r = .ok o → o.refusal = refusal := by
  obtain ⟨record, born, later, found, account⟩ := minted.exists_account
  obtain ⟨st, rfl, -⟩ := account.standing plain
  have breaks := Minting.refusal?_recordAt plain id born st s.now req.action req.actor
  have deed := State.deed?_request ⟨d, reg⟩ s checked found breaks (Minting.after_recordAt ..)
  have bears : ∀ r, reg.record? id = some r → r.id = .integer id := by
    intro r found'
    rw [Option.some.inj (found'.symm.trans found)]
    rfl
  have answer : (State.step ⟨d, reg⟩ ⟨s, .request (.integer id) action context actor⟩).2 =
      .decided r := by
    change Answer.decided (reg.request s d (.integer id) action context actor).2.2 = _
    rw [ran]
  have named : (m.recordAt id born (st.after m.rules (m.refusal? st s.now req.action req.actor))).id =
      .integer id := rfl
  have recordable := isRecordable_verdictEvent_iff named rfl account.checked.isDigest req
    (m.refusal? st s.now req.action req.actor) (s.correlate d).1 (s.stamp (s.correlate d).2)
  have told := Surroundings.exists_canonical_correlate_iff written d
  simp only [Document.canonical_eq_ok_iff, exists_and_left, exists_eq, and_true] at told
  have stamped : Text.IsWhole (s.stamp (s.correlate d).2).eventId ∧
      Text.IsWhole (s.stamp (s.correlate d).2).timestamp := ⟨written.eventId _, written.timestamp⟩
  rw [told] at recordable
  simp only [short, stamped, true_and] at recordable
  rw [← recordable]
  refine ⟨_, _, found, breaks, ?_⟩
  rcases State.answer_of_verdict deed rfl bears with
    ⟨reference, recorded, -, decided⟩ | ⟨f, unrecorded, decided⟩
  · rw [answer, Answer.decided.injEq] at decided
    refine ⟨⟨fun _ => recorded, fun _ => ⟨_, decided⟩⟩, fun o same => ?_⟩
    cases decided.symm.trans same
    rfl
  · rw [answer, Answer.decided.injEq] at decided
    subst decided
    refine ⟨⟨fun ⟨o, failed⟩ => (by cases failed), fun recorded => ?_⟩, fun o failed => by cases failed⟩
    cases unrecorded.symm.trans recorded

/-- What rules let everybody do is not refused, whatever was done with the object before. -/
theorem HasMinted.refusal?_eq_none (minted : reg.HasMinted id m) (plain : m.rules.IsPlain)
    {action : Action} (free : m.IsOpenTo action) {record : Record}
    (found : reg.record? id = some record) (now : Int) (actor : String) :
    record.refusal? now action actor = .ok none := by
  obtain ⟨record', born, later, found', account⟩ := minted.exists_account
  cases found.symm.trans found'
  obtain ⟨st, rfl, decided⟩ := account.standing plain
  have unlocked : st.locked = false := by rw [decided.locked_eq, free.unlocking, Bool.false_and]
  rw [Minting.refusal?_recordAt plain, (m.refusal?_eq_none_iff st now action actor).mpr
    ⟨unlocked, free.scope actor, free.endless now, free.permitted, fun limited => ?_⟩]
  rw [free.unlimited] at limited
  cases limited

/-- An answered mint request has minted an object under the next identifier. -/
theorem hasMinted_of_create {s : Surroundings} {d d' : Draws} {request : MintRequest}
    {event : Event} (created : reg.create s d request = (d', reg', .ok (id, event))) :
    ∃ m, request.check = .ok m ∧ id = reg.nextId ∧ reg'.HasMinted id m ∧ IsShort (.integer id) := by
  cases checked : request.check with
  | error f =>
    rw [create, checked] at created
    cases created
  | ok m =>
    rw [create, checked] at created
    have answer : (reg.mint s.now (s.stamp d) m).2 = .ok (id, event) :=
      congrArg (fun x => x.2.2) created
    have left : (reg.mint s.now (s.stamp d) m).1 = reg' := congrArg (fun x => x.2.1) created
    rw [mint_snd] at answer
    obtain ⟨recorded, emitted, named⟩ := map_eq_ok_iff.mp answer
    cases named
    have happens : Happens reg ⟨reg.nextId, s.now, .mint m, createdEvent reg.nextId m (s.stamp d)⟩
        reg' := by
      rw [← left, mint_fst]
      exact .mint s.now ⟨request, checked⟩ (s.stamp d)
    obtain ⟨-, raised, found, chronicle⟩ := happens.chronicle_of_mint rfl
    refine ⟨m, rfl, rfl, ⟨by rw [raised]; exact Int.lt_succ _, _, s.now, s.stamp d, [], found,
      chronicle⟩, ?_⟩
    rcases emit_cases ({ reg with
        records := putRecord reg.records reg.nextId (newRecord reg.nextId s.now m)
        nextId := reg.nextId + 1 } : Registry) reg.nextId (createdEvent reg.nextId m (s.stamp d)) with
      ⟨reference, recordable, -⟩ | ⟨f, -, failed⟩
    · exact ((isRecordable_createdEvent_iff ..).mp recordable).1
    · rw [failed] at emitted
      cases emitted

/-- A mint request that passes its checks takes the next identifier, and is answered exactly if its
texts can be told. -/
theorem exists_create (reg : Registry) {s : Surroundings} (written : s.IsWritten) (d : Draws)
    {request : MintRequest} (checked : request.check = .ok m) :
    ∃ d' reg' r, reg.create s d request = (d', reg', r) ∧ reg'.nextId = reg.nextId + 1 ∧
      ∀ id, r.map Prod.fst = .ok id ↔ id = reg.nextId ∧ IsShort (.integer reg.nextId) ∧
        Text.IsWhole m.creator ∧ Text.IsWhole m.pointer := by
  have hash := Text.isWhole_of_isDigest (MintRequest.exists_of_check checked).2.1
  have told := isRecordable_createdEvent_iff reg.nextId m (s.stamp d)
  have stamped : Text.IsWhole (s.stamp d).eventId ∧ Text.IsWhole (s.stamp d).timestamp :=
    ⟨written.eventId _, written.timestamp⟩
  simp only [stamped, hash, true_and] at told
  have answer := mint_snd reg s.now (s.stamp d) m
  have left := mint_fst reg s.now (s.stamp d) m
  rcases minted : reg.mint s.now (s.stamp d) m with ⟨reg', r⟩
  rw [minted] at answer left
  change r = _ at answer
  change reg' = _ at left
  have created : reg.create s d request = ({ d with eventIds := d.eventIds + 1 }, reg', r) := by
    rw [create, checked]
    dsimp only
    rw [minted]
  refine ⟨_, reg', r, created, ?_⟩
  rw [← told]
  rcases emit_cases ({ reg with
      records := putRecord reg.records reg.nextId (newRecord reg.nextId s.now m)
      nextId := reg.nextId + 1 } : Registry) reg.nextId (createdEvent reg.nextId m (s.stamp d)) with
    ⟨reference, recordable, -, emitted⟩ | ⟨f, unrecordable, emitted⟩
  · rw [emitted] at answer left
    rw [answer, recordable]
    refine ⟨congrArg Registry.nextId left, fun id => ⟨fun same => ⟨?_, rfl⟩, fun same => ?_⟩⟩
    · cases same
      rfl
    · rw [same.1]
      rfl
  · rw [emitted] at answer left
    rw [answer, unrecordable]
    refine ⟨congrArg Registry.nextId left, fun id => ⟨fun failed => ?_, fun told => ?_⟩⟩
    · cases failed
    · cases told.2

end Registry

end RuleBound
