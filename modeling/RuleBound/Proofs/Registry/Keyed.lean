import RuleBound.Registry.Snapshot
import RuleBound.Proofs.Registry.History

/-!
Records and the identifiers under which they stand. In a registry that was read from a snapshot, and
in every one that mints and verdicts make of it, a record bears the identifier under which it
stands. A request to such a registry is answered exactly if one event is appended to the log, and
that event tells what the request was and what came of it.
-/

namespace RuleBound

/-- Whether a log record tells something under a reference, which is the digest of its event. -/
structure LogRecord.Tells (l : LogRecord) (body : EventBody) (reference : String) : Prop where
  body_eq : l.event.body = body
  reference_eq : l.reference = reference
  digest_eq : l.event.digest = .ok reference

namespace Registry

variable {reg reg' : Registry}

/-- Whether every record bears the identifier under which it stands. -/
def IsKeyed (reg : Registry) : Prop := ∀ id r, reg.record? id = some r → r.id = .integer id

theorem isKeyed_empty : IsKeyed {} := by
  intro id r found
  cases found

theorem IsKeyed.of_records (keyed : reg.IsKeyed) (same : reg'.records = reg.records) :
    reg'.IsKeyed := by
  intro id r found
  rw [record?, same] at found
  exact keyed id r found

theorem IsKeyed.put (keyed : reg.IsKeyed) {id : Int} {r : Record} (bears : r.id = .integer id) :
    ({ reg with records := putRecord reg.records id r } : Registry).IsKeyed := by
  intro key s found
  rw [record?_putRecord] at found
  split at found
  · next same =>
    cases found
    rw [bears, same]
  · exact keyed key s found

theorem IsKeyed.happens (keyed : reg.IsKeyed) {d : Deed} (happens : Happens reg d reg') :
    reg'.IsKeyed := by
  cases happens with
  | @mint now m checked stamp =>
    have bears : (newRecord reg.nextId now m).id = .integer reg.nextId := rfl
    exact (keyed.put bears).of_records (emit_records ..)
  | verdict found breaks after correlation stamp =>
    have bears := keyed _ _ found
    have same := congrArg Record.id (eq_of_after after)
    exact (keyed.put (same.trans bears)).of_records (emit_records ..)

/-- Calls keep records under their identifiers. -/
theorem IsKeyed.run {st : State} (keyed : st.registry.IsKeyed) (xs : List Step) :
    (st.run xs).registry.IsKeyed :=
  State.run_induction (fun reg _ => reg.IsKeyed) (fun keyed happens => keyed.happens happens) []
    keyed xs

/-! ## Snapshots -/

theorem id_of_ofDocument {d : Document} {id : Int} {r : Record}
    (read : Record.ofDocument d = .ok (id, r)) : r.id = .integer id := by
  unfold Record.ofDocument at read
  repeat
    obtain ⟨_, -, rest⟩ := bind_eq_ok_iff.mp read
    clear read
    have read := rest
    clear rest
  cases read
  rfl

theorem isKeyed_foldl (read : List (Int × Record)) (keyed : reg.IsKeyed)
    (each : ∀ e ∈ read, e.2.id = .integer e.1) (nextId : Int) (log : EventLog) :
    IsKeyed ⟨read.foldl (fun known e => putRecord known e.1 e.2) reg.records, nextId, log⟩ := by
  induction read generalizing reg with
  | nil => exact keyed.of_records rfl
  | cons e read ih =>
    rw [List.forall_mem_cons] at each
    exact ih (keyed.put each.1) each.2

/-- What was read from a snapshot has its parts. -/
theorem exists_ofParts_of_restore {s : Surroundings} {drawn drawn' : Nat} {d : Document}
    (restored : restore s drawn d = (drawn', .ok reg)) : ∃ log, ofParts d log = .ok reg := by
  unfold restore at restored
  split at restored
  · cases restored
  · split at restored
    · cases restored
    · next log _ =>
      exact ⟨log, (Prod.mk.inj restored).2⟩

/-- Every record that was read from a snapshot bears the identifier under which it stands. -/
theorem isKeyed_of_restore {s : Surroundings} {drawn drawn' : Nat} {d : Document}
    (restored : restore s drawn d = (drawn', .ok reg)) : reg.IsKeyed := by
  obtain ⟨log, parts⟩ := exists_ofParts_of_restore restored
  obtain ⟨given, -, parts⟩ := bind_eq_ok_iff.mp parts
  obtain ⟨items, -, parts⟩ := bind_eq_ok_iff.mp parts
  obtain ⟨read, records, parts⟩ := bind_eq_ok_iff.mp parts
  obtain ⟨next, -, parts⟩ := bind_eq_ok_iff.mp parts
  obtain ⟨nextId, -, parts⟩ := bind_eq_ok_iff.mp parts
  cases parts
  refine isKeyed_foldl read isKeyed_empty (fun e mem => ?_) _ _
  obtain ⟨item, -, answers⟩ := exists_of_mem_mapM records mem
  exact id_of_ofDocument answers

theorem isKeyed_of_origin (origin : reg = {} ∨
    ∃ s drawn drawn' d, restore s drawn d = (drawn', .ok reg)) : reg.IsKeyed := by
  rcases origin with rfl | ⟨s, drawn, drawn', d, restored⟩
  · exact isKeyed_empty
  · exact isKeyed_of_restore restored

/-! ## What a request appends to the log -/

theorem eq_of_find {id : Document} {n : Int} {r : Record} (found : reg.find id = .ok (n, r)) :
    id = .integer n ∧ reg.record? n = some r := by
  unfold find at found
  cases id with
  | integer k =>
    cases there : reg.record? k with
    | none => simp [there] at found
    | some s =>
      simp only [there] at found
      cases found
      exact ⟨rfl, there⟩
  | _ => cases found

/-- What an event tells of a verdict on a request to an object whose record cites rules. -/
def verdictBody (id : Int) (rulesHash : Document) (req : Request) : Option Refusal → EventBody
  | none => .allowed (.integer id) (.text req.actor) (.integer req.action.number)
      (.text (req.action.digest req.context))
  | some why => .refused (.integer id) (.text req.actor) (.integer req.action.number) rulesHash
      (.text why.reason)

/-- What is told of a verdict depends on nothing that the verdict moves. -/
theorem verdictEvent_of_after {r r' : Record} {refusal : Option Refusal}
    (after : r.after refusal = .ok r') (req : Request) (correlation : Document) (stamp : Stamp) :
    verdictEvent r' req refusal correlation stamp = verdictEvent r req refusal correlation stamp := by
  rw [eq_of_after after]
  cases refusal <;> rfl

/-- The event of a verdict has the body of the verdict. -/
theorem body_verdictEvent {r : Record} {id : Int} (named : r.id = .integer id) (req : Request)
    (refusal : Option Refusal) (correlation : Document) (stamp : Stamp) :
    (verdictEvent r req refusal correlation stamp).body = verdictBody id r.rulesHash req refusal := by
  cases refusal <;> simp only [verdictEvent, verdictBody, named]

/-- Whether an outcome is that of a request to an object, told by a log record. -/
structure IsDecided (reg : Registry) (id action : Document) (context : Given Bytes)
    (actor : Document) (o : Outcome) (req : Request) (r : Record) (l : LogRecord) : Prop where
  checked : Request.check action context actor = .ok req
  named : id = .integer o.objectId
  found : reg.record? o.objectId = some r
  tells : l.Tells (verdictBody o.objectId r.rulesHash req o.refusal) o.reference

/-- Whether a registry is what an outcome leaves of another: one record has moved on, and one event
was recorded. -/
structure IsMoved (reg reg' : Registry) (o : Outcome) (r : Record) (l : LogRecord) : Prop where
  after : ∃ r', r.after o.refusal = .ok r' ∧ reg'.records = putRecord reg.records o.objectId r'
  nextId : reg'.nextId = reg.nextId
  log : reg'.log = ⟨reg.log.records ++ [l], reg.log.sequence + 1⟩

/-- A request is answered and one event is appended that tells of the outcome, or it fails and none
is. -/
theorem request_cases (keyed : reg.IsKeyed) {s : Surroundings} {d d' : Draws}
    {id action actor : Document} {context : Given Bytes} {answer : Except Fault Outcome}
    (ran : reg.request s d id action context actor = (d', reg', answer)) :
    (∃ o req r l, answer = .ok o ∧ reg.IsMoved reg' o r l ∧
      reg.IsDecided id action context actor o req r l) ∨
    ∃ f, answer = .error f ∧ reg'.log.records = reg.log.records := by
  unfold request at ran
  cases checked : Request.check action context actor with
  | error f =>
    rw [checked] at ran
    cases ran
    exact .inr ⟨f, rfl, rfl⟩
  | ok req =>
    simp only [checked, requestChecked] at ran
    cases decided : reg.verdict s.now id req with
    | error f =>
      rw [decided] at ran
      cases ran
      exact .inr ⟨f, rfl, rfl⟩
    | ok v =>
      obtain ⟨key, refusal, r'⟩ := v
      obtain ⟨r, rfl, found, -, after⟩ := exists_of_verdict decided
      have bears : r'.id = .integer key := by
        rw [eq_of_after after]
        exact keyed key r found
      simp only [decided] at ran
      generalize s.stamp (s.correlate d).2 = stamp at ran
      generalize (s.correlate d).1 = correlation at ran
      have concluded : reg.conclude stamp correlation req key refusal r' = (reg', answer) :=
        congrArg Prod.snd ran
      have left := (conclude_fst reg stamp correlation req key refusal r').symm.trans
        (congrArg Prod.fst concluded)
      have told := (conclude_snd reg stamp correlation req key refusal r').symm.trans
        (congrArg Prod.snd concluded)
      rw [bears] at left told
      rcases emit_cases ({ reg with records := putRecord reg.records key r' } : Registry) key
          (verdictEvent r' req refusal correlation stamp) with
        ⟨reference, -, digest, emitted⟩ | ⟨f, -, emitted⟩
      · rw [emitted] at left told
        refine .inl ⟨_, req, r, _, told.symm, ⟨⟨r', after, congrArg (·.records) left.symm⟩,
          congrArg (·.nextId) left.symm, congrArg (·.log) left.symm⟩, checked, rfl, found, ?_, rfl,
          digest⟩
        change (verdictEvent r' req refusal correlation stamp).body = _
        rw [verdictEvent_of_after after, body_verdictEvent (keyed key r found)]
      · rw [emitted] at left told
        exact .inr ⟨f, told.symm, congrArg (·.log.records) left.symm⟩

end Registry

end RuleBound
