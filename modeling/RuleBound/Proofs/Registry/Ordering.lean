import RuleBound.Proofs.Registry.Run

/-!
Registries up to the order of their whitelists. A whitelist is a set: its members are listed in the
order in which they were handed in, or, if the record was read back, in an order of their own.

No call depends on which it is. `State.step_inOrder` carries agreement up to that order through a
step, for the registry and for the answer.
-/

namespace RuleBound

/-! ## Records -/

namespace Record

/-- A record with its whitelist in order. -/
def inOrder (r : Record) : Record :=
  { r with
    whitelist := match r.whitelist with
      | .member members => .member (members.mergeSort fun a b => (memberBefore? a b).getD true)
      | .other d => .other d }

theorem lists_inOrder (r : Record) (actor : String) : r.inOrder.lists actor = r.lists actor := by
  unfold lists inOrder
  cases r.whitelist with
  | member members => exact congrArg Except.ok (List.mergeSort_perm members _).contains_eq
  | other d => rfl

/-- A verdict does not depend on the order of the whitelist. -/
theorem refusal?_inOrder (r : Record) (now : Int) (action : Action) (actor : String) :
    r.inOrder.refusal? now action actor = r.refusal? now action actor := by
  have scope : ∀ rules, r.inOrder.outOfScope? rules actor = r.outOfScope? rules actor := by
    intro rules
    unfold outOfScope?
    rw [lists_inOrder]
    rfl
  unfold refusal?
  simp only [scope]
  rfl

theorem after_inOrder (r : Record) (refusal : Option Refusal) :
    r.inOrder.after refusal = (r.after refusal).map inOrder := by
  cases refusal with
  | none =>
    unfold after
    change (r.compactRules >>= _) = _
    cases r.compactRules with
    | error f => rfl
    | ok rules =>
      rw [ok_bind, ok_bind]
      cases rules.limitsUses with
      | false => rfl
      | true =>
        change (r.usesRemaining.minus (.integer 1) >>= _) = _
        cases r.usesRemaining.minus (.integer 1) <;> rfl
  | some why =>
    cases why with
    | forbidden action legacy locks =>
      change (r.violations.plus (.integer 1) >>= _) =
        (r.violations.plus (.integer 1) >>= _).map inOrder
      cases r.violations.plus (.integer 1) <;> rfl
    | _ => rfl

end Record

namespace Registry

/-! ## Registries -/

/-- A registry with its whitelists in order. -/
def inOrder (reg : Registry) : Registry :=
  { reg with records := reg.records.map fun s => (s.1, s.2.inOrder) }

theorem record?_inOrder (reg : Registry) (id : Int) :
    reg.inOrder.record? id = (reg.record? id).map Record.inOrder := by
  unfold record? inOrder
  rw [List.find?_map, Option.map_map, Option.map_map]
  rfl

theorem find_inOrder (reg : Registry) (id : Document) :
    reg.inOrder.find id = (reg.find id).map fun s => (s.1, s.2.inOrder) := by
  unfold find
  cases id with
  | integer n =>
    simp only [record?_inOrder]
    cases reg.record? n <;> rfl
  | _ => rfl

theorem putRecord_inOrder (records : List (Int × Record)) (id : Int) (r : Record) :
    (putRecord records id r).map (fun s => (s.1, s.2.inOrder)) =
      putRecord (records.map fun s => (s.1, s.2.inOrder)) id r.inOrder := by
  induction records with
  | nil => rfl
  | cons s records ih =>
    rw [putRecord, List.map_cons, putRecord]
    by_cases here : s.1 = id
    · rw [if_pos here, if_pos here, List.map_cons]
    · rw [if_neg here, if_neg here, List.map_cons, ih]

theorem emit_inOrder (reg : Registry) (id : Document) (event : Event) :
    reg.inOrder.emit id event = ((reg.emit id event).1.inOrder, (reg.emit id event).2) := by
  unfold emit
  cases streamOf id <;> rfl

theorem verdict_inOrder (reg : Registry) (now : Int) (id : Document) (req : Request) :
    reg.inOrder.verdict now id req =
      (reg.verdict now id req).map fun v => (v.1, v.2.1, v.2.2.inOrder) := by
  unfold verdict
  rw [find_inOrder]
  cases reg.find id with
  | error f => rfl
  | ok s =>
    obtain ⟨key, r⟩ := s
    simp only [Except.map, ok_bind, Record.refusal?_inOrder]
    cases r.refusal? now req.action req.actor with
    | error f => rfl
    | ok refusal =>
      rw [ok_bind, ok_bind, Record.after_inOrder]
      cases r.after refusal <;> rfl

theorem conclude_inOrder (reg : Registry) (stamp : Stamp) (correlation : Document) (req : Request)
    (key : Int) (refusal : Option Refusal) (r : Record) :
    reg.inOrder.conclude stamp correlation req key refusal r.inOrder =
      ((reg.conclude stamp correlation req key refusal r).1.inOrder,
        (reg.conclude stamp correlation req key refusal r).2) := by
  have event : verdictEvent r.inOrder req refusal correlation stamp =
      verdictEvent r req refusal correlation stamp := by
    cases refusal <;> rfl
  have put :
      ({ reg.inOrder with records := putRecord reg.inOrder.records key r.inOrder } : Registry) =
      ({ reg with records := putRecord reg.records key r } : Registry).inOrder := by
    unfold inOrder
    rw [putRecord_inOrder]
  unfold conclude
  simp only [event, put]
  rw [show r.inOrder.id = r.id from rfl, emit_inOrder]

theorem requestChecked_inOrder (reg : Registry) (s : Surroundings) (d : Draws) (id : Document)
    (req : Request) :
    reg.inOrder.requestChecked s d id req =
      ((reg.requestChecked s d id req).1, (reg.requestChecked s d id req).2.1.inOrder,
        (reg.requestChecked s d id req).2.2) := by
  unfold requestChecked
  simp only [verdict_inOrder]
  cases reg.verdict s.now id req with
  | error f => rfl
  | ok v => simp only [Except.map, conclude_inOrder]

theorem emit_congr {reg reg' : Registry} (same : reg.inOrder = reg'.inOrder) (id : Document)
    (event : Event) :
    (reg.emit id event).1.inOrder = (reg'.emit id event).1.inOrder ∧
      (reg.emit id event).2 = (reg'.emit id event).2 := by
  have emitted := (reg.emit_inOrder id event).symm.trans (same ▸ reg'.emit_inOrder id event)
  exact Prod.mk.inj emitted

theorem request_congr {reg reg' : Registry} (same : reg.inOrder = reg'.inOrder) (s : Surroundings)
    (d : Draws) (id action : Document) (context : Given Bytes) (actor : Document) :
    (reg.request s d id action context actor).1 = (reg'.request s d id action context actor).1 ∧
      (reg.request s d id action context actor).2.1.inOrder =
        (reg'.request s d id action context actor).2.1.inOrder ∧
      (reg.request s d id action context actor).2.2 =
        (reg'.request s d id action context actor).2.2 := by
  unfold request
  cases Request.check action context actor with
  | error f => exact ⟨rfl, same, rfl⟩
  | ok req =>
    have asked := (reg.requestChecked_inOrder s d id req).symm.trans
      (same ▸ reg'.requestChecked_inOrder s d id req)
    rwa [Prod.mk.injEq, Prod.mk.injEq] at asked

theorem read_inOrder (reg : Registry) (id : Document) :
    reg.inOrder.read id = (reg.read id).map Record.inOrder := by
  unfold read
  rw [find_inOrder]
  cases reg.find id <;> rfl

/-- What a mint leaves behind does not depend on the order of whitelists. -/
theorem mint_congr {reg reg' : Registry} (same : reg.inOrder = reg'.inOrder) (now : Int)
    (stamp : Stamp) (m : Minting) :
    (reg.mint now stamp m).1.inOrder = (reg'.mint now stamp m).1.inOrder ∧
      (reg.mint now stamp m).2 = (reg'.mint now stamp m).2 := by
  obtain ⟨records, next, log⟩ := Registry.mk.inj same
  have put : ({ reg with
      records := putRecord reg.records reg.nextId (newRecord reg.nextId now m)
      nextId := reg.nextId + 1 } : Registry).inOrder = ({ reg' with
      records := putRecord reg'.records reg'.nextId (newRecord reg'.nextId now m)
      nextId := reg'.nextId + 1 } : Registry).inOrder := by
    unfold inOrder
    simp only [putRecord_inOrder, records, next, log]
  have emitted := emit_congr put (.integer reg.nextId) (createdEvent reg.nextId m stamp)
  rw [mint_fst, mint_fst, mint_snd, mint_snd, ← next]
  rw [← next] at emitted
  exact ⟨emitted.1, by rw [emitted.2]⟩

theorem create_congr {reg reg' : Registry} (same : reg.inOrder = reg'.inOrder) (s : Surroundings)
    (d : Draws) (m : MintRequest) :
    (reg.create s d m).1 = (reg'.create s d m).1 ∧
      (reg.create s d m).2.1.inOrder = (reg'.create s d m).2.1.inOrder ∧
      (reg.create s d m).2.2 = (reg'.create s d m).2.2 := by
  unfold create
  cases m.check with
  | error f => exact ⟨rfl, same, rfl⟩
  | ok m => exact ⟨rfl, mint_congr same s.now (s.stamp d) m⟩

theorem verifyRefusal_inOrder (reg : Registry) (reference : Document) :
    reg.inOrder.verifyRefusal reference = reg.verifyRefusal reference := by
  have named : ∀ id, reg.inOrder.namedRecord? id =
      (reg.namedRecord? id).map (Option.map Record.inOrder) := by
    intro id
    unfold namedRecord? inOrder
    rw [List.find?_map]
    split
    · rw [Except.map, Option.map_map, Option.map_map]
      rfl
    · rfl
  have citation : ∀ id hash, reg.inOrder.citationErrors id hash = reg.citationErrors id hash := by
    intro id hash
    unfold citationErrors
    rw [named]
    cases reg.namedRecord? id with
    | error f => rfl
    | ok found => cases found <;> rfl
  unfold verifyRefusal
  simp only [citation]
  rfl

/-! ## Steps -/

/-- An answer with the whitelist of a record that was read in order. -/
def Answer.inOrder : Answer → Answer
  | .found answer => .found (answer.map Record.inOrder)
  | answer => answer

namespace State

/-- A state with its whitelists in order. -/
def inOrder (st : State) : State := { st with registry := st.registry.inOrder }

/-- States that agree up to the order of whitelists go on to do so, and give the same answers. -/
theorem step_congr {st st' : State} (same : st.inOrder = st'.inOrder) (x : Step) :
    (st.step x).1.inOrder = (st'.step x).1.inOrder ∧
      (st.step x).2.inOrder = (st'.step x).2.inOrder := by
  obtain ⟨draws, registry⟩ := State.mk.inj same
  obtain ⟨d, reg⟩ := st
  obtain ⟨d', reg'⟩ := st'
  cases draws
  obtain ⟨s, call⟩ := x
  unfold inOrder
  cases call with
  | create m =>
    obtain ⟨drawn, left, told⟩ := create_congr registry s d m
    simp only [step]
    generalize reg.create s d m = made at drawn left told ⊢
    generalize reg'.create s d m = made' at drawn left told ⊢
    exact ⟨by rw [drawn, left], congrArg Answer.created told⟩
  | request id action context actor =>
    obtain ⟨drawn, left, told⟩ := request_congr registry s d id action context actor
    simp only [step]
    generalize reg.request s d id action context actor = asked at drawn left told ⊢
    generalize reg'.request s d id action context actor = asked' at drawn left told ⊢
    exact ⟨by rw [drawn, left], congrArg Answer.decided told⟩
  | read id =>
    refine ⟨same, congrArg Answer.found ?_⟩
    rw [← read_inOrder, ← read_inOrder]
    exact congrArg (fun reg => reg.read id) registry
  | events id =>
    have log : reg.log = reg'.log := (Registry.mk.inj registry).2.2
    refine ⟨same, congrArg Answer.listed ?_⟩
    unfold events
    simp only [log]
  | verify reference =>
    refine ⟨same, congrArg Answer.verified ?_⟩
    rw [← verifyRefusal_inOrder reg, ← verifyRefusal_inOrder reg']
    exact congrArg (fun reg => reg.verifyRefusal reference) registry

end State

end Registry

end RuleBound
