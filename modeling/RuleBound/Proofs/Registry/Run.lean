import RuleBound.Registry.Proof
import RuleBound.Proofs.Event.Written
import RuleBound.Proofs.Registry.Minting

/-!
Runs of the registry. A step is a call together with what surrounds it, and a run is any sequence
of steps, failing or not. What a step brings about on an object is its deed: a mint or a verdict,
with the event that is to tell of it. `Happens` says all that a deed does to the registry, and
calls without a deed do nothing; `run_induction` carries an invariant over both.

A deed has happened even if its event cannot be recorded. `Deed.isRecorded` tells the two apart.
-/

namespace RuleBound

namespace Registry

/-! ## Records under identifiers -/

theorem find?_putRecord (records : List (Int × Record)) (id key : Int) (r : Record) :
    (putRecord records id r).find? (fun s => s.1 == key) =
      if key = id then some (id, r) else records.find? fun s => s.1 == key := by
  induction records with
  | nil =>
    by_cases same : key = id
    · simp [putRecord, same]
    · simp [putRecord, same, Ne.symm same]
  | cons s records ih =>
    rw [putRecord]
    by_cases here : s.1 = id
    · rw [if_pos here]
      by_cases same : key = id
      · simp [same]
      · simp [same, here, Ne.symm same]
    · rw [if_neg here, List.find?_cons, List.find?_cons, ih]
      by_cases same : key = id
      · simp [same, beq_false_of_ne here]
      · simp [same]

theorem record?_putRecord (reg : Registry) (id key : Int) (r : Record) :
    ({ reg with records := putRecord reg.records id r } : Registry).record? key =
      if key = id then some r else reg.record? key := by
  unfold record?
  rw [find?_putRecord]
  by_cases same : key = id
  · rw [if_pos same, if_pos same]
    rfl
  · rw [if_neg same, if_neg same]

/-! ## Steps and runs -/

/-- A call of the registry. -/
inductive Call
  | create (m : MintRequest)
  | request (id action : Document) (context : Given Bytes) (actor : Document)
  | read (id : Document)
  | events (id : Document)
  | verify (reference : Document)

/-- What a call is answered. -/
inductive Answer
  | created (answer : Except Fault (Int × Event))
  | decided (answer : Except Fault Outcome)
  | found (answer : Except Fault Record)
  | listed (records : List LogRecord)
  | verified (answer : Except Fault RefusalProof)

/-- A call and what surrounds it. -/
structure Step where
  surroundings : Surroundings
  call : Call

/-- A registry and how many fresh things have been drawn for it. -/
structure State where
  draws : Draws := {}
  registry : Registry := {}

namespace State

/-- The state after a step, and the answer. -/
def step (st : State) (x : Step) : State × Answer :=
  match x.call with
  | .create m =>
    let (draws, registry, answer) := st.registry.create x.surroundings st.draws m
    (⟨draws, registry⟩, .created answer)
  | .request id action context actor =>
    let (draws, registry, answer) :=
      st.registry.request x.surroundings st.draws id action context actor
    (⟨draws, registry⟩, .decided answer)
  | .read id => (st, .found (st.registry.read id))
  | .events id => (st, .listed (st.registry.events id))
  | .verify reference => (st, .verified (st.registry.verifyRefusal reference))

/-- The state after a run. -/
def run (st : State) (xs : List Step) : State := xs.foldl (fun st x => (st.step x).1) st

@[simp] theorem run_nil (st : State) : st.run [] = st := rfl

@[simp] theorem run_cons (st : State) (x : Step) (xs : List Step) :
    st.run (x :: xs) = (st.step x).1.run xs := rfl

theorem run_append (st : State) (xs ys : List Step) : st.run (xs ++ ys) = (st.run xs).run ys :=
  List.foldl_append

end State

/-! ## Deeds -/

/-- What can be brought about on an object. -/
inductive Act
  | mint (m : Minting)
  | verdict (req : Request) (refusal : Option Refusal)

/-- What a step has brought about on an object, and the event that is to tell of it. -/
structure Deed where
  objectId : Int
  now : Int
  act : Act
  event : Event

/-- Whether an event of an object can be recorded: the object has a stream and the event a
digest. -/
def isRecordable (id : Int) (event : Event) : Bool :=
  !(Document.integer id).hasLongNumeral && event.digest.isOk

/-- Whether the event of a deed can be recorded. -/
def Deed.isRecorded (d : Deed) : Bool := isRecordable d.objectId d.event

/-- What a step brings about. -/
def State.deed? (st : State) (x : Step) : Option Deed :=
  match x.call with
  | .create m =>
    match m.check with
    | .error _ => none
    | .ok m => some {
        objectId := st.registry.nextId
        now := x.surroundings.now
        act := .mint m
        event := createdEvent st.registry.nextId m (x.surroundings.stamp st.draws) }
  | .request id action context actor =>
    match Request.check action context actor with
    | .error _ => none
    | .ok req =>
      let (correlation, draws) := x.surroundings.correlate st.draws
      match st.registry.verdict x.surroundings.now id req with
      | .error _ => none
      | .ok (key, refusal, r) => some {
          objectId := key
          now := x.surroundings.now
          act := .verdict req refusal
          event := verdictEvent r req refusal correlation (x.surroundings.stamp draws) }
  | _ => none

/-- The deeds of a run. -/
def State.deeds (st : State) : List Step → List Deed
  | [] => []
  | x :: xs => (st.deed? x).toList ++ (st.step x).1.deeds xs

/-- A verdict is one on the record that stands under the identifier. -/
theorem exists_of_verdict {reg : Registry} {now : Int} {id : Document} {req : Request}
    {key : Int} {refusal : Option Refusal} {r' : Record}
    (ok : reg.verdict now id req = .ok (key, refusal, r')) :
    ∃ r, id = .integer key ∧ reg.record? key = some r ∧
      r.refusal? now req.action req.actor = .ok refusal ∧ r.after refusal = .ok r' := by
  obtain ⟨⟨n, r⟩, found, ok⟩ := bind_eq_ok_iff.mp ok
  obtain ⟨why, breaks, ok⟩ := bind_eq_ok_iff.mp ok
  obtain ⟨s, after, ok⟩ := bind_eq_ok_iff.mp ok
  cases ok
  unfold find at found
  cases id with
  | integer k =>
    cases there : reg.record? k with
    | none => simp [there] at found
    | some s =>
      simp only [there] at found
      cases found
      exact ⟨r, rfl, there, breaks, after⟩
  | _ => cases found

theorem verdict_of_refusal? {reg : Registry} {now id : Int} {req : Request} {r r' : Record}
    {refusal : Option Refusal} (found : reg.record? id = some r)
    (breaks : r.refusal? now req.action req.actor = .ok refusal) (after : r.after refusal = .ok r') :
    reg.verdict now (.integer id) req = .ok (id, refusal, r') := by
  simp only [verdict, find, found, breaks, after, ok_bind]
  rfl

namespace State

/-- A mint request that passes its checks mints an object. -/
theorem deed?_create (st : State) (s : Surroundings) {request : MintRequest} {m : Minting}
    (checked : request.check = .ok m) :
    st.deed? ⟨s, .create request⟩ = some ⟨st.registry.nextId, s.now, .mint m,
      createdEvent st.registry.nextId m (s.stamp st.draws)⟩ := by
  unfold deed?
  simp only [checked]

/-- A request that passes its checks is decided on the record that it names, if the record holds
what the verdict needs. -/
theorem deed?_request (st : State) (s : Surroundings) {action : Document} {context : Given Bytes}
    {actor : Document} {req : Request} (checked : Request.check action context actor = .ok req)
    {id : Int} {r r' : Record} {refusal : Option Refusal} (found : st.registry.record? id = some r)
    (breaks : r.refusal? s.now req.action req.actor = .ok refusal)
    (after : r.after refusal = .ok r') :
    st.deed? ⟨s, .request (.integer id) action context actor⟩ =
      some ⟨id, s.now, .verdict req refusal, verdictEvent r' req refusal
        (s.correlate st.draws).1 (s.stamp (s.correlate st.draws).2)⟩ := by
  unfold deed?
  simp only [checked, verdict_of_refusal? found breaks after]

end State

/-- What a step brings about, where it leaves the registry, and what it answers. -/
inductive Stepped (st : State) (x : Step) : Option Deed → Registry → Answer → Prop
  | idle (answer : Answer) (undecided : ∀ o, answer ≠ .decided (.ok o)) :
    Stepped st x none st.registry answer
  | mint {m : Minting} (checked : m.IsChecked) (stamp : Stamp) :
    Stepped st x
      (some ⟨st.registry.nextId, x.surroundings.now, .mint m,
        createdEvent st.registry.nextId m stamp⟩)
      (st.registry.mint x.surroundings.now stamp m).1
      (.created (st.registry.mint x.surroundings.now stamp m).2)
  | verdict {id : Int} {req : Request} {refusal : Option Refusal} {r r' : Record}
    (found : st.registry.record? id = some r)
    (breaks : r.refusal? x.surroundings.now req.action req.actor = .ok refusal)
    (after : r.after refusal = .ok r') (correlation : Document) (stamp : Stamp) :
    Stepped st x
      (some ⟨id, x.surroundings.now, .verdict req refusal,
        verdictEvent r' req refusal correlation stamp⟩)
      (st.registry.conclude stamp correlation req id refusal r').1
      (.decided (st.registry.conclude stamp correlation req id refusal r').2)

/-- Every step does nothing, mints an object or decides a request on a record. One that does nothing
has no outcome. -/
theorem State.stepped (st : State) (x : Step) :
    Stepped st x (st.deed? x) (st.step x).1.registry (st.step x).2 := by
  obtain ⟨s, call⟩ := x
  unfold deed?
  cases call with
  | create unchecked =>
    cases checked : unchecked.check with
    | error f =>
      simp only [step, create, checked]
      exact .idle _ (by simp)
    | ok m =>
      have stepped := @Stepped.mint st ⟨s, .create unchecked⟩ m ⟨unchecked, checked⟩
        (s.stamp st.draws)
      simp only [step, create, checked]
      generalize st.registry.mint s.now (s.stamp st.draws) m = minted at stepped ⊢
      exact stepped
  | request id action context actor =>
    cases checked : Request.check action context actor with
    | error f =>
      simp only [step, request, checked]
      exact .idle _ (by simp)
    | ok req =>
      cases decided : st.registry.verdict s.now id req with
      | error f =>
        simp only [step, request, requestChecked, checked, decided]
        exact .idle _ (by simp)
      | ok v =>
        obtain ⟨key, refusal, r'⟩ := v
        obtain ⟨r, -, found, breaks, after⟩ := exists_of_verdict decided
        have stepped := Stepped.verdict (x := ⟨s, .request id action context actor⟩) found breaks
          after (s.correlate st.draws).1 (s.stamp (s.correlate st.draws).2)
        simp only [step, request, requestChecked, checked, decided]
        generalize st.registry.conclude (s.stamp (s.correlate st.draws).2)
          (s.correlate st.draws).1 req key refusal r' = concluded at stepped ⊢
        exact stepped
  | _ => exact .idle _ (by simp [step])

/-! ## What a deed does -/

/-- What a deed does to the registry. -/
inductive Happens (reg : Registry) : Deed → Registry → Prop
  | mint (now : Int) {m : Minting} (checked : m.IsChecked) (stamp : Stamp) :
    Happens reg ⟨reg.nextId, now, .mint m, createdEvent reg.nextId m stamp⟩
      (({ reg with
          records := putRecord reg.records reg.nextId (newRecord reg.nextId now m)
          nextId := reg.nextId + 1 } : Registry).emit (.integer reg.nextId)
        (createdEvent reg.nextId m stamp)).1
  | verdict {id now : Int} {req : Request} {refusal : Option Refusal} {r r' : Record}
    (found : reg.record? id = some r) (breaks : r.refusal? now req.action req.actor = .ok refusal)
    (after : r.after refusal = .ok r') (correlation : Document) (stamp : Stamp) :
    Happens reg ⟨id, now, .verdict req refusal, verdictEvent r' req refusal correlation stamp⟩
      (({ reg with records := putRecord reg.records id r' } : Registry).emit r'.id
        (verdictEvent r' req refusal correlation stamp)).1

theorem mint_fst (reg : Registry) (now : Int) (stamp : Stamp) (m : Minting) :
    (reg.mint now stamp m).1 = (({ reg with
      records := putRecord reg.records reg.nextId (newRecord reg.nextId now m)
      nextId := reg.nextId + 1 } : Registry).emit (.integer reg.nextId)
        (createdEvent reg.nextId m stamp)).1 := by
  unfold mint
  extract_lets id event minted
  generalize minted.emit (.integer id) event = emitted
  rfl

theorem mint_snd (reg : Registry) (now : Int) (stamp : Stamp) (m : Minting) :
    (reg.mint now stamp m).2 = (({ reg with
      records := putRecord reg.records reg.nextId (newRecord reg.nextId now m)
      nextId := reg.nextId + 1 } : Registry).emit (.integer reg.nextId)
        (createdEvent reg.nextId m stamp)).2.map fun _ =>
          (reg.nextId, createdEvent reg.nextId m stamp) := by
  unfold mint
  extract_lets id event minted
  generalize minted.emit (.integer id) event = emitted
  rfl

theorem conclude_fst (reg : Registry) (stamp : Stamp) (correlation : Document) (req : Request)
    (key : Int) (refusal : Option Refusal) (r : Record) :
    (reg.conclude stamp correlation req key refusal r).1 =
      (({ reg with records := putRecord reg.records key r } : Registry).emit r.id
        (verdictEvent r req refusal correlation stamp)).1 := by
  unfold conclude
  extract_lets event concluded
  generalize concluded.emit r.id event = emitted
  rfl

theorem conclude_snd (reg : Registry) (stamp : Stamp) (correlation : Document) (req : Request)
    (key : Int) (refusal : Option Refusal) (r : Record) :
    (reg.conclude stamp correlation req key refusal r).2 =
      (({ reg with records := putRecord reg.records key r } : Registry).emit r.id
        (verdictEvent r req refusal correlation stamp)).2.map fun recorded =>
          ⟨key, req.actor, req.action, refusal, recorded.reference,
            verdictEvent r req refusal correlation stamp⟩ := by
  unfold conclude
  extract_lets event concluded
  generalize concluded.emit r.id event = emitted
  rfl

namespace State

theorem step_registry_of_no_deed {st : State} {x : Step} (idle : st.deed? x = none) :
    (st.step x).1.registry = st.registry := by
  have stepped := st.stepped x
  rw [idle] at stepped
  generalize (st.step x).1.registry = reg' at stepped ⊢
  generalize (st.step x).2 = answer at stepped
  cases stepped with
  | idle => rfl

/-- A deed happens to the registry in its step. -/
theorem happens_of_deed? {st : State} {x : Step} {d : Deed} (deed : st.deed? x = some d) :
    Happens st.registry d (st.step x).1.registry := by
  have stepped := st.stepped x
  rw [deed] at stepped
  generalize (st.step x).1.registry = reg' at stepped ⊢
  generalize (st.step x).2 = answer at stepped
  cases stepped with
  | mint checked stamp =>
    rw [mint_fst]
    exact .mint x.surroundings.now checked stamp
  | verdict found breaks after correlation stamp =>
    rw [conclude_fst]
    exact .verdict found breaks after correlation stamp

/-- An invariant of the registry and its deeds so far holds at the end of a run. -/
theorem run_induction (P : Registry → List Deed → Prop)
    (keeps : ∀ {reg ds d reg'}, P reg ds → Happens reg d reg' → P reg' (ds ++ [d]))
    {st : State} (ds : List Deed) (start : P st.registry ds) (xs : List Step) :
    P (st.run xs).registry (ds ++ st.deeds xs) := by
  induction xs generalizing st ds with
  | nil => simpa [deeds] using start
  | cons x xs ih =>
    rw [run_cons, deeds, ← List.append_assoc]
    refine ih _ ?_
    cases deed : st.deed? x with
    | none =>
      rw [step_registry_of_no_deed deed]
      simpa using start
    | some d => exact keeps start (happens_of_deed? deed)

end State

/-! ## Which events can be recorded -/

section Recordable

open Document (Every IsExact IsShort HasWholeTexts Whole)

theorem isRecordable_iff (id : Int) (event : Event) :
    isRecordable id event = true ↔ IsShort (.integer id) ∧ Every IsExact event.toDocument ∧
      Every IsShort event.toDocument ∧ Whole event.toDocument := by
  rw [isRecordable, Bool.and_eq_true, Bool.not_eq_true', Document.hasLongNumeral_eq_false_iff,
    Every.integer_iff, Event.isOk_digest_iff]

/-- The event of a mint can be recorded exactly if the identifier is not too long and no text has
half of a pair. -/
theorem isRecordable_createdEvent_iff (id : Int) (m : Minting) (stamp : Stamp) :
    isRecordable id (createdEvent id m stamp) = true ↔ IsShort (.integer id) ∧
      Text.IsWhole stamp.eventId ∧ Text.IsWhole stamp.timestamp ∧ Text.IsWhole m.creator ∧
      Text.IsWhole m.rulesHash ∧ Text.IsWhole m.pointer := by
  have kind : IsShort (.integer m.kind.number) := Document.isShort_of_natAbs_lt (by
    cases m.kind <;> decide)
  rw [isRecordable_iff, Event.exact_toDocument_iff, Event.short_toDocument_iff,
    Event.whole_toDocument_iff]
  simp [createdEvent, Event.fields, EventBody.fields, IsExact, HasWholeTexts, kind]

theorem isWhole_reason (why : Refusal) : Text.IsWhole why.reason := by
  cases why with
  | forbidden action legacy locks =>
    rw [Refusal.reason, Text.isWhole_append]
    refine ⟨?_, by cases locks <;> decide⟩
    cases legacy with
    | true => exact (by decide : Text.IsWhole "Forwarding is not allowed")
    | false => cases action <;> decide
  | _ => decide

/-- The event of a verdict can be recorded exactly if, moreover, the correlation has a canonical
text. -/
theorem isRecordable_verdictEvent_iff {r : Record} {id : Int} (named : r.id = .integer id)
    {hash : String} (cites : r.rulesHash = .text hash) (digest : Text.isDigest hash = true)
    (req : Request) (refusal : Option Refusal) (correlation : Document) (stamp : Stamp) :
    isRecordable id (verdictEvent r req refusal correlation stamp) = true ↔
      IsShort (.integer id) ∧ Text.IsWhole stamp.eventId ∧ Text.IsWhole stamp.timestamp ∧
      Text.IsWhole req.actor ∧
      Every IsExact correlation ∧ Every IsShort correlation ∧ Whole correlation := by
  have action : IsShort (.integer req.action.number) := Document.isShort_of_natAbs_lt (by
    cases req.action <;> decide)
  have rulesHash : Text.IsWhole hash := Text.isWhole_of_isDigest digest
  have actionHash : Text.IsWhole (req.action.digest req.context) :=
    (Sha256.isHex_ofBytes _).isWhole
  rw [isRecordable_iff, Event.exact_toDocument_iff, Event.short_toDocument_iff,
    Event.whole_toDocument_iff]
  cases refusal with
  | none =>
    simp [verdictEvent, named, Event.fields, EventBody.fields, IsExact, HasWholeTexts, action,
      actionHash]
    clear action
    generalize IsShort (.integer id) = short
    tauto
  | some why =>
    have reason := isWhole_reason why
    simp [verdictEvent, named, cites, Event.fields, EventBody.fields, IsExact, HasWholeTexts,
      action, rulesHash, reason]
    clear action
    generalize IsShort (.integer id) = short
    tauto

end Recordable

end Registry

end RuleBound
