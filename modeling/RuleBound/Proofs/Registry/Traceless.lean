import RuleBound.Proofs.Registry.Keyed
import RuleBound.Proofs.Registry.Lasting

/-!
Failures that leave no trace. A call that fails before anything has been decided leaves the registry
as it was, and so does any number of them: the next mint is answered as if they had not been made. A
call that fails after something has been decided, because the event cannot be recorded, leaves its
trace: the identifier is given, the record has moved on, or a number is used up. That an event cannot
be told is the only fault that comes after a change.
-/

namespace RuleBound

/-- The faults of what has no canonical text. -/
inductive Fault.IsUntold : Fault → Prop
  | real (path : String) : IsUntold (.realInCanonical path)
  | numeral (digits : Option Nat) : IsUntold (.numeralTooLong digits)
  | text (defect : Text.SurrogateDefect) : IsUntold (.notEncodable defect)

theorem Document.isUntold_of_canonical {d : Document} {f : Fault} (failed : d.canonical = .error f) :
    f.IsUntold := by
  unfold canonical at failed
  split at failed
  · cases failed
    exact .real _
  · split at failed
    · cases failed
      exact .numeral _
    · extract_lets text at failed
      split at failed
      · cases failed
        exact .text _
      · cases failed

namespace Registry

variable {reg reg' : Registry} {s : Surroundings} {d d' : Draws} {f : Fault}

/-- An event that is not recorded has no canonical text, or its object has no stream. -/
theorem isUntold_of_emit {id : Document} {event : Event}
    (failed : (reg.emit id event).2 = .error f) : f.IsUntold := by
  unfold emit streamOf Document.spelled at failed
  split at failed
  · next long =>
    split at long
    · cases long
      cases failed
      exact .numeral none
    · cases long
  · next stream _ =>
    unfold EventLog.append at failed
    rw [if_neg (by simp [Document.isScalar])] at failed
    cases digest : event.digest with
    | ok reference =>
      rw [digest] at failed
      cases failed
    | error g =>
      rw [digest] at failed
      cases failed
      unfold Event.digest Document.canonicalDigest at digest
      cases written : event.toDocument.canonical with
      | ok text =>
        rw [written] at digest
        cases digest
      | error g =>
        rw [written] at digest
        cases digest
        exact Document.isUntold_of_canonical written

/-- A mint that fails leaves the registry, or its event cannot be told. -/
theorem eq_or_isUntold_of_create {m : MintRequest}
    (failed : reg.create s d m = (d', reg', .error f)) : reg' = reg ∨ f.IsUntold := by
  unfold create at failed
  cases checked : m.check with
  | error g =>
    rw [checked] at failed
    cases failed
    exact .inl rfl
  | ok minting =>
    rw [checked] at failed
    have told := congrArg (·.2.2) failed
    change (reg.mint s.now (s.stamp d) minting).2 = .error f at told
    rw [mint_snd] at told
    refine .inr (isUntold_of_emit (map_eq_error_iff.mp told))

/-- A request that fails leaves the registry, or its event cannot be told. -/
theorem eq_or_isUntold_of_request {id action actor : Document} {context : Given Bytes}
    (failed : reg.request s d id action context actor = (d', reg', .error f)) :
    reg' = reg ∨ f.IsUntold := by
  unfold request at failed
  cases checked : Request.check action context actor with
  | error g =>
    rw [checked] at failed
    cases failed
    exact .inl rfl
  | ok req =>
    simp only [checked, requestChecked] at failed
    cases decided : reg.verdict s.now id req with
    | error g =>
      rw [decided] at failed
      cases failed
      exact .inl rfl
    | ok v =>
      obtain ⟨key, refusal, r⟩ := v
      rw [decided] at failed
      have told := congrArg (·.2.2) failed
      change (reg.conclude _ _ req key refusal r).2 = .error f at told
      rw [conclude_snd] at told
      exact .inr (isUntold_of_emit (map_eq_error_iff.mp told))

end Registry

end RuleBound

namespace RuleBound.Registry

/-! ## Calls without a deed -/

/-- Whether a call failed. -/
def Answer.fails : Answer → Bool
  | .created answer => !answer.isOk
  | .decided answer => !answer.isOk
  | .found answer => !answer.isOk
  | .listed _ => false
  | .verified answer => !answer.isOk

theorem eventIds_correlate (s : Surroundings) (d : Draws) : (s.correlate d).2.eventIds = d.eventIds := by
  unfold Surroundings.correlate
  split <;> rfl

/-- An identifier for an event is drawn only for a deed. -/
theorem State.eventIds_of_no_deed {st : State} {x : Step} (idle : st.deed? x = none) :
    (st.step x).1.draws.eventIds = st.draws.eventIds := by
  obtain ⟨s, call⟩ := x
  unfold deed? at idle
  cases call with
  | create unchecked =>
    cases checked : unchecked.check with
    | error f => simp only [step, create, checked]
    | ok m =>
      simp only [checked] at idle
      cases idle
  | request id action context actor =>
    cases checked : Request.check action context actor with
    | error f => simp only [step, request, checked]
    | ok req =>
      cases decided : st.registry.verdict s.now id req with
      | error f =>
        simp only [step, request, requestChecked, checked, decided]
        exact eventIds_correlate s st.draws
      | ok v =>
        simp only [checked, decided] at idle
        cases idle
  | _ => rfl

/-- A mint is answered by the registry and the next identifier of an event alone. -/
theorem State.create_congr {st st' : State} (registry : st.registry = st'.registry)
    (drawn : st.draws.eventIds = st'.draws.eventIds) (s : Surroundings) (m : MintRequest) :
    (st.step ⟨s, .create m⟩).2 = (st'.step ⟨s, .create m⟩).2 := by
  have stamped : s.stamp st.draws = s.stamp st'.draws := by
    unfold Surroundings.stamp
    rw [drawn]
  simp only [step, create, registry]
  cases m.check with
  | error f => rfl
  | ok minting => simp only [stamped]

/-- A run without deeds leaves the registry and the next identifier of an event. -/
theorem State.run_of_no_deeds {st : State} {xs : List Step} (idle : st.deeds xs = []) :
    (st.run xs).registry = st.registry ∧ (st.run xs).draws.eventIds = st.draws.eventIds := by
  induction xs generalizing st with
  | nil => exact ⟨rfl, rfl⟩
  | cons x xs ih =>
    obtain ⟨first, rest⟩ := List.append_eq_nil_iff.mp idle
    have none : st.deed? x = none := Option.toList_eq_nil_iff.mp first
    obtain ⟨registry, drawn⟩ := ih rest
    exact ⟨registry.trans (step_registry_of_no_deed none), drawn.trans (eventIds_of_no_deed none)⟩

/-! ## Deeds that are not recorded -/

/-- A mint is answered exactly if its event can be recorded. -/
theorem State.answer_of_mint {st : State} {x : Step} {d : Deed} (deed : st.deed? x = some d)
    {m : Minting} (act : d.act = .mint m) :
    (d.isRecorded = true ∧ (st.step x).2 = .created (.ok (d.objectId, d.event))) ∨
      ∃ f, d.isRecorded = false ∧ (st.step x).2 = .created (.error f) := by
  have stepped := st.stepped x
  rw [deed] at stepped
  generalize (st.step x).2 = answer at stepped ⊢
  generalize (st.step x).1.registry = reg' at stepped
  cases stepped with
  | @mint m' checked stamp =>
    rw [mint_snd]
    rcases emit_cases ({ st.registry with
        records := putRecord st.registry.records st.registry.nextId
          (newRecord st.registry.nextId x.surroundings.now m')
        nextId := st.registry.nextId + 1 } : Registry) st.registry.nextId
        (createdEvent st.registry.nextId m' stamp) with
      ⟨reference, recorded, -, emitted⟩ | ⟨f, unrecorded, emitted⟩
    · exact .inl ⟨recorded, by rw [emitted]; rfl⟩
    · exact .inr ⟨f, unrecorded, by rw [emitted]; rfl⟩
  | verdict => cases act

/-- A call that has decided something fails only if the event cannot be recorded. -/
theorem State.isRecorded_of_fails {st : State} (keyed : st.registry.IsKeyed) {x : Step}
    (failed : (st.step x).2.fails = true) {d : Deed} (deed : st.deed? x = some d) :
    d.isRecorded = false := by
  cases act : d.act with
  | mint m =>
    rcases answer_of_mint deed act with ⟨-, answer⟩ | ⟨f, unrecorded, -⟩
    · rw [answer] at failed
      cases failed
    · exact unrecorded
  | verdict req refusal =>
    rcases answer_of_verdict deed act (keyed d.objectId) with ⟨reference, -, -, answer⟩ | ⟨f, unrecorded, -⟩
    · rw [answer] at failed
      cases failed
    · exact unrecorded

/-- Whether a deed leaves no trace if its event is not recorded: it is a verdict that moves nothing,
on an object whose identifier is too long to name a stream. -/
def Deed.IsTraceless (reg : Registry) (d : Deed) : Prop :=
  (Document.integer d.objectId).hasLongNumeral = true ∧
    ∃ req refusal r, d.act = .verdict req refusal ∧ reg.record? d.objectId = some r ∧
      r.after refusal = .ok r

theorem putRecord_of_record? {reg : Registry} {id : Int} {r : Record}
    (found : reg.record? id = some r) : putRecord reg.records id r = reg.records := by
  unfold record? at found
  obtain ⟨e, there, rfl⟩ := Option.map_eq_some_iff.mp found
  generalize reg.records = records at there ⊢
  induction records with
  | nil => cases there
  | cons s records ih =>
    rw [putRecord]
    by_cases here : s.1 = id
    · rw [List.find?_cons_of_pos (by simp [here])] at there
      cases there
      rw [if_pos here, ← here]
    · rw [List.find?_cons_of_neg (by simp [here])] at there
      rw [if_neg here, ih there]

/-- A deed whose event is not recorded leaves the registry as it was exactly if it leaves no
trace. -/
theorem Happens.eq_iff_isTraceless {reg reg' : Registry} (keyed : reg.IsKeyed) {d : Deed}
    (happens : Happens reg d reg') (unrecorded : d.isRecorded = false) :
    reg' = reg ↔ d.IsTraceless reg := by
  cases act : d.act with
  | mint m =>
    have raised := (happens.chronicle_of_mint act).2.1
    constructor
    · intro same
      rw [same] at raised
      omega
    · rintro ⟨-, req, refusal, r, verdict, -⟩
      rw [act] at verdict
      cases verdict
  | verdict req refusal =>
    obtain ⟨nextId, r, r', found, after, records, left⟩ := happens.record?_of_verdict act
    have log : reg'.log = ⟨reg.log.records,
        if (Document.integer d.objectId).hasLongNumeral then reg.log.sequence
        else reg.log.sequence + 1⟩ := by
      rcases happens.log_cases (keyed d.objectId) with ⟨reference, recorded, -⟩ | ⟨-, log⟩
      · rw [unrecorded] at recorded
        cases recorded
      · exact log
    constructor
    · rintro rfl
      cases found.symm.trans left
      refine ⟨?_, req, refusal, r, act, found, after⟩
      by_contra short
      rw [if_neg short] at log
      have counted := congrArg EventLog.sequence log
      dsimp only at counted
      omega
    · rintro ⟨long, req', refusal', s, verdict, found', still⟩
      cases act.symm.trans verdict
      cases found.symm.trans found'
      cases after.symm.trans still
      rw [putRecord_of_record? found] at records
      rw [if_pos long] at log
      cases reg
      cases reg'
      cases records
      cases nextId
      cases log
      rfl

/-- A call that fails leaves the registry as it was exactly if nothing had been decided, or what had
been decided leaves no trace; and it fails after something has been decided only if the event cannot
be recorded. -/
theorem State.registry_eq_iff_of_fails {st : State} (keyed : st.registry.IsKeyed) {x : Step}
    (failed : (st.step x).2.fails = true) :
    ((st.step x).1.registry = st.registry ↔
        ∀ d, st.deed? x = some d → d.IsTraceless st.registry) ∧
      ∀ d, st.deed? x = some d → d.isRecorded = false := by
  have unrecorded : ∀ d, st.deed? x = some d → d.isRecorded = false :=
    fun d deed => isRecorded_of_fails keyed failed deed
  refine ⟨?_, unrecorded⟩
  cases deed : st.deed? x with
  | none => simp [step_registry_of_no_deed deed]
  | some d =>
    rw [(happens_of_deed? deed).eq_iff_isTraceless keyed (unrecorded d deed)]
    simp

/-- In every state that calls lead to from an empty registry or one that was read from a snapshot, a
call that fails leaves the registry as it was exactly if nothing had been decided, or what had been
decided leaves no trace. After any calls that decide nothing the registry is as it was, and the next
mint is answered as without them. -/
theorem failed_calls_untraced {start : State}
    (origin : start.registry = {} ∨
      ∃ s drawn drawn' d, restore s drawn d = (drawn', .ok start.registry)) (before : List Step) :
    let st := start.run before
    (∀ x, (st.step x).2.fails = true →
      ((st.step x).1.registry = st.registry ↔
          ∀ d, st.deed? x = some d → d.IsTraceless st.registry) ∧
        ∀ d, st.deed? x = some d → d.isRecorded = false) ∧
    ∀ xs, st.deeds xs = [] → (st.run xs).registry = st.registry ∧
      ∀ s m, ((st.run xs).step ⟨s, .create m⟩).2 = (st.step ⟨s, .create m⟩).2 := by
  intro st
  have keyed : st.registry.IsKeyed := (isKeyed_of_origin origin).run before
  refine ⟨fun x failed => State.registry_eq_iff_of_fails keyed failed, fun xs idle => ?_⟩
  obtain ⟨registry, drawn⟩ := State.run_of_no_deeds idle
  exact ⟨registry, fun s m => State.create_congr registry drawn s m⟩

/-- A request whose action is none leaves an object as it was, and the next one gets the next
identifier. -/
theorem failed_calls_untraced_shred :
    let s : Surroundings := ⟨0, "", .null, .numbered⟩
    let mint : Step := ⟨s, .create (onceRequest "alice")⟩
    let shred : Step := ⟨s, .request (.integer 1) (.text "SHRED") (.member []) (.text "bob")⟩
    let st := State.run {} [mint]
    (st.step shred).2.fails = true ∧ (st.step shred).1.registry = st.registry ∧
      ((st.run [shred]).step mint).2 = (st.step mint).2 := by
  intro s mint shred st
  have unknown : ∃ f, Request.check (.text "SHRED") (.member []) (.text "bob") = .error f := ⟨_, rfl⟩
  obtain ⟨f, unknown⟩ := unknown
  have idle : st.deed? shred = none := by simp only [shred, State.deed?, unknown]
  have failed : (st.step shred).2.fails = true := by
    simp only [shred, State.step, request, unknown]
    rfl
  have first : ({} : State).registry = {} ∨ ∃ s drawn drawn' d,
      restore s drawn d = (drawn', .ok ({} : State).registry) := .inl rfl
  obtain ⟨exactly, next⟩ := failed_calls_untraced first [mint]
  have same := (exactly shred failed).1.mpr fun d deed => by
    rw [idle] at deed
    cases deed
  have none : st.deeds [shred] = [] := by
    rw [State.deeds, idle]
    rfl
  exact ⟨failed, same, (next [shred] none).2 s (onceRequest "alice")⟩

/-- A mint whose creator's name is half of a pair fails, and yet it takes an identifier. -/
theorem fails_half_name {s : Surroundings} (written : s.IsWritten) :
    (State.step {} ⟨s, .create (onceRequest halfName)⟩).2.fails = true ∧
      (State.step {} ⟨s, .create (onceRequest halfName)⟩).1.registry.nextId = 2 := by
  have deed := State.deed?_create {} s (check_onceRequest (.inr rfl))
  have raised := ((State.happens_of_deed? deed).chronicle_of_mint rfl).2.1
  have second : ({} : State).registry.nextId + 1 = 2 := rfl
  refine ⟨?_, raised.trans second⟩
  rcases State.answer_of_mint deed rfl with ⟨recorded, -⟩ | ⟨f, -, answer⟩
  · have eventId : Text.IsWhole (s.stamp {}).eventId := written.eventId 0
    have timestamp : Text.IsWhole (s.stamp {}).timestamp := written.timestamp
    have whole : Text.IsWhole halfName :=
      (isRecordable_onceMinting Document.isShort_one eventId timestamp halfName).mp recorded
    exact absurd whole (by decide)
  · rw [answer]
    rfl

/-- A mint whose creator's name is a whole text is answered with the next identifier. -/
theorem created_onceRequest {s : Surroundings} (written : s.IsWritten) (st : State)
    (low : st.registry.nextId.natAbs < 10) :
    ∃ event, (st.step ⟨s, .create (onceRequest "alice")⟩).2 =
      .created (.ok (st.registry.nextId, event)) := by
  have eventId : Text.IsWhole (s.stamp st.draws).eventId := written.eventId _
  have timestamp : Text.IsWhole (s.stamp st.draws).timestamp := written.timestamp
  have short : Document.IsShort (.integer st.registry.nextId) := Document.isShort_of_natAbs_lt low
  have minted := st.deed?_create s (check_onceRequest (.inl rfl))
  rcases State.answer_of_mint minted rfl with ⟨-, answer⟩ | ⟨f, unrecorded, -⟩
  · exact ⟨_, answer⟩
  · have recorded := (isRecordable_onceMinting short eventId timestamp "alice").mpr (by decide)
    cases recorded.symm.trans unrecorded

/-- A mint that fails because of half a pair leaves its trace: the next mint gets the second
identifier, and without it the first. -/
theorem not_untraced_half_name :
    let s : Surroundings := ⟨0, "", .null, .numbered⟩
    (State.step {} ⟨s, .create (onceRequest halfName)⟩).2.fails = true ∧
      (State.step {} ⟨s, .create (onceRequest halfName)⟩).1.registry ≠ {} ∧
      (∃ event, (State.step {} ⟨s, .create (onceRequest "alice")⟩).2 = .created (.ok (1, event))) ∧
      ∃ event, ((State.step {} ⟨s, .create (onceRequest halfName)⟩).1.step
        ⟨s, .create (onceRequest "alice")⟩).2 = .created (.ok (2, event)) := by
  intro s
  have written : s.IsWritten := Source.isWritten_numbered 0 .null
  obtain ⟨failed, next⟩ := fails_half_name written
  obtain ⟨first, answer⟩ := created_onceRequest written {} (by decide)
  generalize State.step {} ⟨s, .create (onceRequest halfName)⟩ = left at failed next ⊢
  have low : left.1.registry.nextId.natAbs < 10 := by
    rw [next]
    decide
  obtain ⟨second, answer'⟩ := created_onceRequest written left.1 low
  rw [next] at answer'
  refine ⟨failed, fun same => ?_, ⟨first, answer⟩, second, answer'⟩
  rw [same] at next
  cases next

end RuleBound.Registry
