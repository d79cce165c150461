import RuleBound.Proofs.Document.Numeral
import RuleBound.Proofs.Registry.Run

/-!
The history of an object: the deeds on it, the mint first and then the verdicts, in order. A
chronicle relates a record to the history that it is the outcome of. Every record of a run from an
empty registry has its chronicle, and so has an object from the moment of its mint on, whatever the
registry was before.

What is recorded is less: the log holds exactly the events of those deeds that can be recorded.
-/

namespace RuleBound

namespace Registry

/-! ## Recording an event -/

theorem emit_records (reg : Registry) (id : Document) (event : Event) :
    (reg.emit id event).1.records = reg.records := by
  unfold emit
  cases streamOf id <;> rfl

theorem emit_nextId (reg : Registry) (id : Document) (event : Event) :
    (reg.emit id event).1.nextId = reg.nextId := by
  unfold emit
  cases streamOf id <;> rfl

theorem emit_record? (reg : Registry) (id : Document) (event : Event) (key : Int) :
    (reg.emit id event).1.record? key = reg.record? key := by
  unfold record?
  rw [emit_records]

/-- The record of an event that is appended to a log. -/
def nextLogRecord (log : EventLog) (id : Int) (event : Event) (reference : String) : LogRecord where
  sequence := log.sequence + 1
  event := event
  stream := .text (toString id)
  version := (log.stream (.text (toString id))).length + 1
  reference := reference

/-- An event that can be recorded is appended; of any other the log keeps nothing but, if the object
has a stream, a number. -/
theorem emit_cases (reg : Registry) (id : Int) (event : Event) :
    (∃ reference, isRecordable id event = true ∧ event.digest = .ok reference ∧
      reg.emit (.integer id) event =
        ({ reg with log := ⟨reg.log.records ++ [nextLogRecord reg.log id event reference],
            reg.log.sequence + 1⟩ }, .ok (nextLogRecord reg.log id event reference))) ∨
    (∃ f, isRecordable id event = false ∧
      reg.emit (.integer id) event =
        ({ reg with log := ⟨reg.log.records,
            if (Document.integer id).hasLongNumeral then reg.log.sequence
            else reg.log.sequence + 1⟩ }, .error f)) := by
  unfold isRecordable emit streamOf Document.spelled
  cases long : (Document.integer id).hasLongNumeral with
  | true => exact .inr ⟨.numeralTooLong none, rfl, rfl⟩
  | false =>
    rw [if_neg Bool.false_ne_true]
    simp only []
    unfold EventLog.append
    rw [if_neg (by simp [Document.isScalar])]
    cases digest : event.digest with
    | error f => exact .inr ⟨f, rfl, rfl⟩
    | ok reference => exact .inl ⟨reference, rfl, rfl, rfl⟩

/-! ## Chronicles -/

/-- A record as the outcome of the deeds on its object. -/
inductive Chronicle (id : Int) : Record → List Deed → Prop
  | mint (now : Int) {m : Minting} (checked : m.IsChecked) (stamp : Stamp) :
    Chronicle id (newRecord id now m) [⟨id, now, .mint m, createdEvent id m stamp⟩]
  | verdict {r r' : Record} {ds : List Deed} {now : Int} {req : Request}
    {refusal : Option Refusal} (earlier : Chronicle id r ds)
    (breaks : r.refusal? now req.action req.actor = .ok refusal)
    (after : r.after refusal = .ok r') (correlation : Document) (stamp : Stamp) :
    Chronicle id r'
      (ds ++ [⟨id, now, .verdict req refusal, verdictEvent r' req refusal correlation stamp⟩])

/-- A record with the standing of another. -/
def withStandingOf (r s : Record) : Record :=
  { r with locked := s.locked, violations := s.violations, usesRemaining := s.usesRemaining }

/-- A verdict changes nothing of a record but its standing. -/
theorem eq_of_after {r r' : Record} {refusal : Option Refusal}
    (after : r.after refusal = .ok r') : r' = withStandingOf r r' := by
  cases refusal with
  | none =>
    obtain ⟨rules, -, after⟩ := bind_eq_ok_iff.mp after
    split at after
    · obtain ⟨uses, -, after⟩ := bind_eq_ok_iff.mp after
      cases after
      rfl
    · cases after
      rfl
  | some why =>
    cases why with
    | forbidden action legacy locks =>
      obtain ⟨violations, -, after⟩ := bind_eq_ok_iff.mp after
      cases after
      rfl
    | _ =>
      cases after
      rfl

/-- The verdict of a deed that is one. -/
def Deed.verdict? (d : Deed) : Option Verdict :=
  match d.act with
  | .mint _ => none
  | .verdict req refusal => some ⟨d.now, req, refusal⟩

/-- The verdicts among deeds. -/
def verdicts (ds : List Deed) : List Verdict := ds.filterMap Deed.verdict?

/-- Whether a deed is a verdict on an object that was minted under an identifier, told of by its
event. -/
inductive Deed.IsVerdictOn (id : Int) (m : Minting) : Deed → Prop
  | intro (now : Int) (req : Request) (refusal : Option Refusal) (correlation : Document)
    (stamp : Stamp) :
    IsVerdictOn id m ⟨id, now, .verdict req refusal,
      verdictEvent (newRecord id now m) req refusal correlation stamp⟩

/-- What a chronicle tells: the mint came first, then only verdicts; the record differs from the
one that was minted at most by its standing, and this is the outcome of the verdicts. -/
structure Account (id : Int) (r : Record) (born : Int) (m : Minting) (later : List Deed) :
    Prop where
  checked : m.IsChecked
  fixed : r = withStandingOf (newRecord id born m) r
  only : ∀ d ∈ later, d.IsVerdictOn id m
  standing : m.rules.IsPlain → ∃ st, r = m.recordAt id born st ∧ Decided m st (verdicts later)

theorem Chronicle.exists_account {id : Int} {r : Record} {ds : List Deed}
    (chronicle : Chronicle id r ds) :
    ∃ born m stamp later, ds = ⟨id, born, .mint m, createdEvent id m stamp⟩ :: later ∧
      Account id r born m later := by
  induction chronicle with
  | @mint now m checked stamp =>
    exact ⟨now, m, stamp, [], rfl, checked, rfl, by simp,
      fun plain => ⟨_, m.newRecord_eq plain id now, .start⟩⟩
  | @verdict r r' ds now req refusal earlier breaks after correlation stamp ih =>
    obtain ⟨born, m, stamp₀, later, rfl, checked, fixed, only, standing⟩ := ih
    have fixed' : r' = withStandingOf (newRecord id born m) r' := by
      rw [eq_of_after after, fixed]
      rfl
    refine ⟨born, m, stamp₀, later ++ [_], rfl, checked, fixed', ?_, ?_⟩
    · intro d mem
      rcases List.mem_append.mp mem with before | last
      · exact only d before
      · rw [List.mem_singleton.mp last, fixed']
        exact .intro now req refusal correlation stamp
    · intro plain
      obtain ⟨st, rfl, decided⟩ := standing plain
      rw [Minting.refusal?_recordAt plain] at breaks
      cases breaks
      rw [Minting.after_recordAt] at after
      cases after
      rw [verdicts, List.filterMap_append]
      exact ⟨_, rfl, decided.next now req⟩

/-- The deeds on an object. -/
def deedsOn (id : Int) (ds : List Deed) : List Deed := ds.filter fun d => d.objectId == id

theorem deedsOn_append (id : Int) (ds es : List Deed) :
    deedsOn id (ds ++ es) = deedsOn id ds ++ deedsOn id es := List.filter_append ..

theorem deedsOn_of_eq {id : Int} {d : Deed} (here : d.objectId = id) : deedsOn id [d] = [d] := by
  simp [deedsOn, here]

theorem deedsOn_of_ne {id : Int} {d : Deed} (elsewhere : d.objectId ≠ id) :
    deedsOn id [d] = [] := by
  simp [deedsOn, elsewhere]

theorem Happens.nextId_le {reg reg' : Registry} {d : Deed} (happens : Happens reg d reg') :
    reg.nextId ≤ reg'.nextId := by
  cases happens with
  | mint =>
    rw [emit_nextId]
    exact Int.le_of_lt (Int.lt_succ reg.nextId)
  | verdict => rw [emit_nextId]

/-- A deed changes no record but that of its object. -/
theorem Happens.record?_of_ne {reg reg' : Registry} {d : Deed} (happens : Happens reg d reg')
    {id : Int} (elsewhere : d.objectId ≠ id) : reg'.record? id = reg.record? id := by
  cases happens with
  | mint =>
    rw [emit_record?]
    exact (record?_putRecord ..).trans (if_neg (Ne.symm elsewhere))
  | verdict =>
    rw [emit_record?]
    exact (record?_putRecord ..).trans (if_neg (Ne.symm elsewhere))

/-- A deed on an object whose identifier has been given goes on with its chronicle. -/
theorem Happens.chronicle {reg reg' : Registry} {d : Deed} (happens : Happens reg d reg')
    (given : d.objectId < reg.nextId) {r : Record} {ds : List Deed}
    (found : reg.record? d.objectId = some r) (chronicle : Chronicle d.objectId r ds) :
    ∃ r', reg'.record? d.objectId = some r' ∧ Chronicle d.objectId r' (ds ++ [d]) := by
  cases happens with
  | mint => exact absurd given (Int.lt_irrefl _)
  | @verdict id now req refusal s s' there breaks after correlation stamp =>
    rw [Option.some.inj (there.symm.trans found)] at breaks after
    refine ⟨s', ?_, .verdict chronicle breaks after correlation stamp⟩
    rw [emit_record?]
    exact (record?_putRecord ..).trans (if_pos rfl)

/-- A mint gives the next identifier to an object whose chronicle consists of the mint. -/
theorem Happens.chronicle_of_mint {reg reg' : Registry} {d : Deed} (happens : Happens reg d reg')
    {m : Minting} (act : d.act = .mint m) :
    d.objectId = reg.nextId ∧ reg'.nextId = reg.nextId + 1 ∧
      reg'.record? d.objectId = some (newRecord d.objectId d.now m) ∧
      Chronicle d.objectId (newRecord d.objectId d.now m) [d] := by
  cases happens with
  | mint now checked stamp =>
    cases act
    rw [emit_record?, emit_nextId]
    exact ⟨rfl, rfl, (record?_putRecord ..).trans (if_pos rfl), .mint now checked stamp⟩
  | verdict => cases act

/-- A verdict is one on a record. -/
theorem Happens.exists_record {reg reg' : Registry} {d : Deed} (happens : Happens reg d reg')
    {req : Request} {refusal : Option Refusal} (act : d.act = .verdict req refusal) :
    ∃ r, reg.record? d.objectId = some r := by
  cases happens with
  | mint => cases act
  | verdict found => exact ⟨_, found⟩

/-- A verdict moves the record of its object on and gives no identifier. -/
theorem Happens.record?_of_verdict {reg reg' : Registry} {d : Deed} (happens : Happens reg d reg')
    {req : Request} {refusal : Option Refusal} (act : d.act = .verdict req refusal) :
    reg'.nextId = reg.nextId ∧ ∃ r r', reg.record? d.objectId = some r ∧ r.after refusal = .ok r' ∧
      reg'.records = putRecord reg.records d.objectId r' ∧ reg'.record? d.objectId = some r' := by
  cases happens with
  | mint => cases act
  | @verdict id now req' refusal' r r' found breaks after correlation stamp =>
    cases act
    refine ⟨emit_nextId .., r, r', found, after, emit_records .., ?_⟩
    rw [emit_record?]
    exact (record?_putRecord ..).trans (if_pos rfl)

/-- An object that has its chronicle keeps it in a run. -/
theorem exists_chronicle_of_run {st : State} {id : Int} {r : Record} {ds : List Deed}
    (given : id < st.registry.nextId) (found : st.registry.record? id = some r)
    (chronicle : Chronicle id r ds) (xs : List Step) :
    id < (st.run xs).registry.nextId ∧ ∃ r', (st.run xs).registry.record? id = some r' ∧
      Chronicle id r' (ds ++ deedsOn id (st.deeds xs)) := by
  have start : id < st.registry.nextId ∧ ∃ r', st.registry.record? id = some r' ∧
      Chronicle id r' (ds ++ deedsOn id []) := ⟨given, r, found, by simpa [deedsOn] using chronicle⟩
  refine State.run_induction (fun reg es => id < reg.nextId ∧ ∃ r', reg.record? id = some r' ∧
    Chronicle id r' (ds ++ deedsOn id es)) ?_ [] start xs
  rintro reg es d reg' ⟨given, r, found, chronicle⟩ happens
  refine ⟨Int.lt_of_lt_of_le given happens.nextId_le, ?_⟩
  rw [deedsOn_append, ← List.append_assoc]
  by_cases here : d.objectId = id
  · subst here
    rw [deedsOn_of_eq rfl]
    exact happens.chronicle given found chronicle
  · rw [deedsOn_of_ne here, List.append_nil, happens.record?_of_ne here]
    exact ⟨r, found, chronicle⟩

/-- The verdicts on an object in a run. -/
def State.verdictsOn (st : State) (id : Int) (xs : List Step) : List Verdict :=
  verdicts (deedsOn id (st.deeds xs))

/-- A mint request that passes its checks leaves the record of a new object. -/
theorem State.record?_of_create (st : State) (s : Surroundings) {request : MintRequest}
    {m : Minting} (checked : request.check = .ok m) :
    (st.step ⟨s, .create request⟩).1.registry.record? st.registry.nextId =
      some (newRecord st.registry.nextId s.now m) :=
  ((happens_of_deed? (st.deed?_create s checked)).chronicle_of_mint rfl).2.2.1

/-- An object that is minted has, after any further run, a record that all verdicts on it since then
account for. -/
theorem State.exists_account_of_create (st : State) (s : Surroundings) {request : MintRequest}
    {m : Minting} (checked : request.check = .ok m) (later : List Step) :
    let minted := (st.step ⟨s, .create request⟩).1
    ∃ r, (minted.run later).registry.record? st.registry.nextId = some r ∧
      Account st.registry.nextId r s.now m (deedsOn st.registry.nextId (minted.deeds later)) := by
  intro minted
  have deed := st.deed?_create s checked
  obtain ⟨-, raised, found, chronicle⟩ := (happens_of_deed? deed).chronicle_of_mint rfl
  have given : st.registry.nextId < minted.registry.nextId := raised ▸ Int.lt_succ _
  obtain ⟨-, r, found', chronicle'⟩ := exists_chronicle_of_run given found chronicle later
  obtain ⟨born, m', stamp, verdicts, all, account⟩ := chronicle'.exists_account
  rw [List.singleton_append, List.cons.injEq, Deed.mk.injEq, Act.mint.injEq] at all
  obtain ⟨⟨-, rfl, rfl, -⟩, rfl⟩ := all
  exact ⟨r, found', account⟩

/-- An object that is minted under plain rules has, after any further run, a record with the
standing that the verdicts on it have led to. -/
theorem State.exists_standing_of_create (st : State) (s : Surroundings) {request : MintRequest}
    {m : Minting} (checked : request.check = .ok m) (plain : m.rules.IsPlain) (later : List Step) :
    let minted := (st.step ⟨s, .create request⟩).1
    ∃ standing, (minted.run later).registry.record? st.registry.nextId =
        some (m.recordAt st.registry.nextId s.now standing) ∧
      Decided m standing (minted.verdictsOn st.registry.nextId later) := by
  intro minted
  obtain ⟨r, found, account⟩ := st.exists_account_of_create s checked later
  obtain ⟨standing, rfl, decided⟩ := account.standing plain
  exact ⟨standing, found, decided⟩

/-- Whether every record has its chronicle among some deeds, and these are on no other object. -/
structure Chronicled (reg : Registry) (ds : List Deed) : Prop where
  given : ∀ id r, reg.record? id = some r → id < reg.nextId
  chronicle : ∀ id r, reg.record? id = some r → Chronicle id r (deedsOn id ds)
  none : ∀ id, reg.record? id = none → deedsOn id ds = []

theorem Chronicled.step {reg reg' : Registry} {ds : List Deed} {d : Deed}
    (chronicled : Chronicled reg ds) (happens : Happens reg d reg') :
    Chronicled reg' (ds ++ [d]) := by
  obtain ⟨r', found', chronicle', given'⟩ : ∃ r', reg'.record? d.objectId = some r' ∧
      Chronicle d.objectId r' (deedsOn d.objectId ds ++ [d]) ∧ d.objectId < reg'.nextId := by
    cases act : d.act with
    | mint m =>
      obtain ⟨next, raised, found', chronicle'⟩ := happens.chronicle_of_mint act
      have fresh : deedsOn d.objectId ds = [] := by
        cases found : reg.record? d.objectId with
        | none => exact chronicled.none _ found
        | some r => exact absurd (chronicled.given _ r found) (next ▸ Int.lt_irrefl _)
      rw [fresh, raised, next]
      exact ⟨_, next ▸ found', next ▸ chronicle', Int.lt_succ _⟩
    | verdict req refusal =>
      obtain ⟨r, found⟩ := happens.exists_record act
      have given := chronicled.given _ r found
      obtain ⟨r', found', chronicle'⟩ :=
        happens.chronicle given found (chronicled.chronicle _ r found)
      exact ⟨r', found', chronicle', Int.lt_of_lt_of_le given happens.nextId_le⟩
  refine ⟨fun id r found => ?_, fun id r found => ?_, fun id missing => ?_⟩
  · by_cases here : d.objectId = id
    · exact here ▸ given'
    · rw [happens.record?_of_ne here] at found
      exact Int.lt_of_lt_of_le (chronicled.given id r found) happens.nextId_le
  · rw [deedsOn_append]
    by_cases here : d.objectId = id
    · subst here
      rw [deedsOn_of_eq rfl, Option.some.inj (found.symm.trans found')]
      exact chronicle'
    · rw [happens.record?_of_ne here] at found
      rw [deedsOn_of_ne here, List.append_nil]
      exact chronicled.chronicle id r found
  · by_cases here : d.objectId = id
    · subst here
      rw [found'] at missing
      cases missing
    · rw [happens.record?_of_ne here] at missing
      rw [deedsOn_append, deedsOn_of_ne here, List.append_nil]
      exact chronicled.none id missing

/-- Every record of a run from an empty registry has its chronicle. -/
theorem chronicled_run (xs : List Step) :
    Chronicled (State.run {} xs).registry (State.deeds {} xs) := by
  have empty : ∀ id, ({} : State).registry.record? id = none := fun _ => rfl
  refine State.run_induction Chronicled Chronicled.step [] ⟨?_, ?_, fun _ _ => rfl⟩ xs
  · intro id r found
    rw [empty] at found
    cases found
  · intro id r found
    rw [empty] at found
    cases found

/-! ## The log -/

theorem Account.id_eq {id : Int} {r : Record} {born : Int} {m : Minting} {later : List Deed}
    (account : Account id r born m later) : r.id = .integer id := by
  rw [account.fixed]
  rfl

theorem Chronicle.id_eq {id : Int} {r : Record} {ds : List Deed} (chronicle : Chronicle id r ds) :
    r.id = .integer id := by
  obtain ⟨born, m, stamp, later, -, account⟩ := chronicle.exists_account
  exact account.id_eq

/-- A deed on a record that bears its identifier is recorded in the log if it can be. -/
theorem Happens.log_cases {reg reg' : Registry} {d : Deed} (happens : Happens reg d reg')
    (named : ∀ r, reg.record? d.objectId = some r → r.id = .integer d.objectId) :
    (∃ reference, d.isRecorded = true ∧ d.event.digest = .ok reference ∧
      reg'.log = ⟨reg.log.records ++ [nextLogRecord reg.log d.objectId d.event reference],
        reg.log.sequence + 1⟩) ∨
    (d.isRecorded = false ∧ reg'.log = ⟨reg.log.records,
      if (Document.integer d.objectId).hasLongNumeral then reg.log.sequence
      else reg.log.sequence + 1⟩) := by
  cases happens with
  | @mint now m checked stamp =>
    rcases emit_cases ({ reg with
        records := putRecord reg.records reg.nextId (newRecord reg.nextId now m)
        nextId := reg.nextId + 1 } : Registry) reg.nextId (createdEvent reg.nextId m stamp) with
      ⟨reference, recordable, digest, emitted⟩ | ⟨f, not_recordable, emitted⟩
    · exact .inl ⟨reference, recordable, digest, by rw [emitted]⟩
    · exact .inr ⟨not_recordable, by rw [emitted]⟩
  | @verdict id now req refusal r r' found breaks after correlation stamp =>
    have bears : r'.id = .integer id := by
      rw [eq_of_after after]
      exact named r found
    rw [bears]
    rcases emit_cases ({ reg with records := putRecord reg.records id r' } : Registry) id
        (verdictEvent r' req refusal correlation stamp) with
      ⟨reference, recordable, digest, emitted⟩ | ⟨f, not_recordable, emitted⟩
    · exact .inl ⟨reference, recordable, digest, by rw [emitted]⟩
    · exact .inr ⟨not_recordable, by rw [emitted]⟩

/-- A request that has been decided is answered exactly if its event can be recorded, and then with
the verdict. -/
theorem State.answer_of_verdict {st : State} {x : Step} {d : Deed} (deed : st.deed? x = some d)
    {req : Request} {refusal : Option Refusal} (act : d.act = .verdict req refusal)
    (named : ∀ r, st.registry.record? d.objectId = some r → r.id = .integer d.objectId) :
    (∃ reference, d.isRecorded = true ∧ d.event.digest = .ok reference ∧
      (st.step x).2 = .decided
        (.ok ⟨d.objectId, req.actor, req.action, refusal, reference, d.event⟩)) ∨
    (∃ f, d.isRecorded = false ∧ (st.step x).2 = .decided (.error f)) := by
  have stepped := st.stepped x
  rw [deed] at stepped
  generalize (st.step x).2 = answer at stepped ⊢
  generalize (st.step x).1.registry = reg' at stepped
  cases stepped with
  | mint => cases act
  | @verdict id req' refusal' r r' found breaks after correlation stamp =>
    cases act
    have bears : r'.id = .integer id := by
      rw [eq_of_after after]
      exact named r found
    rw [conclude_snd, bears]
    rcases emit_cases ({ st.registry with
        records := putRecord st.registry.records id r' } : Registry) id
        (verdictEvent r' req refusal correlation stamp) with
      ⟨reference, recordable, digest, emitted⟩ | ⟨f, not_recordable, emitted⟩
    · exact .inl ⟨reference, recordable, digest, by rw [emitted]; rfl⟩
    · exact .inr ⟨f, not_recordable, by rw [emitted]; rfl⟩

/-- An outcome is that of a verdict which was recorded. -/
theorem State.exists_deed_of_outcome {st : State} {x : Step} {o : Outcome}
    (answer : (st.step x).2 = .decided (.ok o))
    (named : ∀ id r, st.registry.record? id = some r → r.id = .integer id) :
    ∃ d req, st.deed? x = some d ∧ d.act = .verdict req o.refusal ∧ d.isRecorded = true ∧
      d.event.digest = .ok o.reference ∧
      o = ⟨d.objectId, req.actor, req.action, o.refusal, o.reference, d.event⟩ := by
  cases deed : st.deed? x with
  | none =>
    have stepped := st.stepped x
    rw [deed, answer] at stepped
    generalize (st.step x).1.registry = reg' at stepped
    cases stepped with
    | idle _ undecided => exact absurd rfl (undecided o)
  | some d =>
    cases act : d.act with
    | mint m =>
      have stepped := st.stepped x
      rw [deed] at stepped
      generalize (st.step x).1.registry = reg' at stepped
      generalize told : (st.step x).2 = given at stepped
      rw [answer] at told
      cases stepped with
      | mint => cases told
      | verdict => cases act
    | verdict req refusal =>
      rcases answer_of_verdict deed act (named d.objectId) with
        ⟨reference, recorded, digest, told⟩ | ⟨f, -, told⟩
      · rw [answer, Answer.decided.injEq, Except.ok.injEq] at told
        subst told
        exact ⟨d, req, rfl, act, recorded, digest, rfl⟩
      · rw [answer] at told
        cases told

/-- The log has the events of the recorded deeds, in order, each in the stream of its object. -/
def Logged (log : EventLog) (ds : List Deed) : Prop :=
  (log.records.map fun r => (r.stream, r.event)) =
    (ds.filter Deed.isRecorded).map fun d => (.text (toString d.objectId), d.event)

/-- What a run from an empty registry has recorded are its deeds that can be recorded. -/
theorem logged_run (xs : List Step) :
    Logged (State.run {} xs).registry.log (State.deeds {} xs) := by
  refine (State.run_induction (fun reg ds => Chronicled reg ds ∧ Logged reg.log ds) ?_ []
    ⟨chronicled_run [], rfl⟩ xs).2
  rintro reg ds d reg' ⟨chronicled, logged⟩ happens
  refine ⟨chronicled.step happens, ?_⟩
  unfold Logged at logged ⊢
  have named := fun r found => (chronicled.chronicle d.objectId r found).id_eq
  rcases happens.log_cases named with ⟨reference, recorded, -, log⟩ | ⟨unrecorded, log⟩
  · rw [log, List.map_append, logged, List.filter_append, List.map_append]
    simp [recorded, nextLogRecord]
  · rw [log, logged, List.filter_append]
    simp [unrecorded]

/-- The events of an object are those of its recorded deeds, in order. -/
theorem Logged.events_eq {reg : Registry} {ds : List Deed} (logged : Logged reg.log ds) (id : Int) :
    (reg.events (.integer id)).map LogRecord.event =
      ((deedsOn id ds).filter Deed.isRecorded).map Deed.event := by
  have names : ∀ d : Deed, (Document.text (toString d.objectId)).agrees (.text (toString id)) =
      (d.objectId == id) := by
    intro d
    change (toString d.objectId == toString id) = (d.objectId == id)
    by_cases same : d.objectId = id
    · simp [same]
    · rw [beq_false_of_ne same]
      exact beq_false_of_ne fun eq => same (Document.toString_injective eq)
  have streams := congrArg (fun ps : List (Document × Event) =>
    (ps.filter fun p => p.1.agrees (.text (toString id))).map Prod.snd) logged
  simp only [List.filter_map, List.map_map, Function.comp_def, names, List.filter_filter] at streams
  rw [deedsOn, List.filter_filter]
  simp only [Bool.and_comm]
  exact streams

/-! ## An object that can be used once -/

/-- A mint request for an object that can be used once and never be forwarded. -/
def onceRequest (creator : String) : MintRequest where
  creator := .text creator
  kind := .member .message
  rulesHash := .text (String.ofList (List.replicate 64 'a'))
  rules := .member { forbidForward := .bool true, maxUses := .integer 1 }
  pointer := .text "shelf"
  whitelist := .null

/-- What is minted from the request. -/
def onceMinting (creator : String) : Minting where
  creator := creator
  kind := .message
  rulesHash := String.ofList (List.replicate 64 'a')
  rules := { forbidForward := .bool true, maxUses := .integer 1 }
  pointer := "shelf"
  whitelist := []

/-- A name that is half of a pair. -/
def halfName : String := String.singleton (Text.standIn 0xd800)

theorem check_onceRequest {creator : String} (named : creator = "alice" ∨ creator = halfName) :
    (onceRequest creator).check = .ok (onceMinting creator) := by
  rcases named with rfl | rfl <;> decide +kernel

theorem isPlain_onceMinting (creator : String) : (onceMinting creator).rules.IsPlain := ⟨rfl, rfl⟩

theorem record?_onceRequest (s : Surroundings) {creator : String}
    (named : creator = "alice" ∨ creator = halfName) :
    (State.step {} ⟨s, .create (onceRequest creator)⟩).1.registry.record? 1 =
      some (newRecord 1 s.now (onceMinting creator)) :=
  State.record?_of_create {} s (check_onceRequest named)

/-- A request for an object that has just been minted so is decided. -/
theorem deed?_onceRequest (s : Surroundings) {creator : String}
    (named : creator = "alice" ∨ creator = halfName) {action actor : Document}
    {context : Given Bytes} {req : Request} (form : Request.check action context actor = .ok req)
    (refusal : Option Refusal) (breaks : (onceMinting creator).refusal?
      (.initial (onceMinting creator).rules) s.now req.action req.actor = refusal) :
    let minted := (State.step {} ⟨s, .create (onceRequest creator)⟩).1
    minted.deed? ⟨s, .request (.integer 1) action context actor⟩ =
      some ⟨1, s.now, .verdict req refusal,
        verdictEvent (newRecord 1 s.now (onceMinting creator)) req refusal
          (s.correlate minted.draws).1 (s.stamp (s.correlate minted.draws).2)⟩ := by
  intro minted
  have plain := isPlain_onceMinting creator
  have decided := Minting.refusal?_recordAt plain 1 s.now (.initial (onceMinting creator).rules)
    s.now req.action req.actor
  have after := Minting.after_recordAt (m := onceMinting creator) 1 s.now
    (.initial (onceMinting creator).rules) refusal
  rw [← (onceMinting creator).newRecord_eq plain] at decided after
  rw [breaks] at decided
  refine (minted.deed?_request s form (record?_onceRequest s named) decided after).trans ?_
  cases refusal <;> rfl

theorem isDigest_onceMinting (creator : String) :
    Text.isDigest (onceMinting creator).rulesHash = true :=
  (by decide +kernel : Text.isDigest (String.ofList (List.replicate 64 'a')) = true)

/-- The event of such a mint can be recorded exactly if its creator's name has no half of a pair. -/
theorem isRecordable_onceMinting {id : Int} (short : Document.IsShort (.integer id)) {stamp : Stamp}
    (eventId : Text.IsWhole stamp.eventId) (timestamp : Text.IsWhole stamp.timestamp)
    (creator : String) :
    isRecordable id (createdEvent id (onceMinting creator) stamp) = true ↔
      Text.IsWhole creator := by
  have hash := Text.isWhole_of_isDigest (isDigest_onceMinting creator)
  have pointer : Text.IsWhole "shelf" := by decide
  rw [isRecordable_createdEvent_iff]
  exact ⟨fun all => all.2.2.2.1, fun whole => ⟨short, eventId, timestamp, whole, hash, pointer⟩⟩

/-- The event of a verdict cannot be recorded in a correlation that is a double, nor if the actor's name
is half of a pair. -/
theorem not_isRecordable_of_spoiled {s : Surroundings} {req : Request}
    (spoiled : s.correlation = .real (.ofDecimal false 15 (-1)) ∨ req.actor = halfName)
    {r : Record} {id : Int} (named : r.id = .integer id) {hash : String}
    (cites : r.rulesHash = .text hash) (digest : Text.isDigest hash = true)
    (refusal : Option Refusal) (draws : Draws) :
    isRecordable id (verdictEvent r req refusal (s.correlate draws).1
      (s.stamp (s.correlate draws).2)) = false := by
  rw [← Bool.not_eq_true, isRecordable_verdictEvent_iff named cites digest]
  rintro ⟨-, -, -, whole, exact, -⟩
  rcases spoiled with double | half
  · have correlation : (s.correlate draws).1 = .real (.ofDecimal false 15 (-1)) := by
      unfold Surroundings.correlate
      rw [if_pos (double ▸ by decide +kernel), double]
    rw [correlation] at exact
    exact exact.here
  · rw [half] at whole
    exact absurd whole (by decide)

/-- So the event of a verdict on such an object cannot be recorded. -/
theorem not_isRecordable_onceMinting {s : Surroundings} {req : Request}
    (spoiled : s.correlation = .real (.ofDecimal false 15 (-1)) ∨ req.actor = halfName)
    (creator : String) (refusal : Option Refusal) (draws : Draws) :
    isRecordable 1 (verdictEvent (newRecord 1 s.now (onceMinting creator)) req refusal
      (s.correlate draws).1 (s.stamp (s.correlate draws).2)) = false :=
  not_isRecordable_of_spoiled spoiled rfl rfl (isDigest_onceMinting creator) refusal draws

/-- The mint of the object and a request to read it. -/
def onceRun (s : Surroundings) (actor : String) : List Step :=
  [⟨s, .create (onceRequest "alice")⟩,
    ⟨s, .request (.integer 1) (.text "READ") (.member []) (.text actor)⟩]

end Registry

end RuleBound
