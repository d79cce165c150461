import RuleBound.Proofs.Registry.Growth
import RuleBound.Proofs.Registry.Regular
import RuleBound.Proofs.Registry.Traceless

/-!
Numbers that are given once. A snapshot can list its records in any order, with gaps and more than
once, and its next identifier and the numbers of its events can be anything. What is read from it
still gives each identifier and each number of an event once: identifiers in use and those handed out
are below the next one, and no event has a number above the counter. Every call keeps this.
-/

namespace RuleBound

/-! ## The numbers of events -/

namespace EventLog

variable {log log' : EventLog}

/-- Whether no event has a number above the counter. -/
def IsCounted (log : EventLog) : Prop := ∀ l ∈ log.records, l.sequence ≤ log.sequence

theorem IsCounted.load (counted : log.IsCounted) (r : LogRecord) : (log.load r).IsCounted := by
  intro l mem
  rcases List.mem_append.mp mem with before | last
  · exact (counted l before).trans (le_max_left ..)
  · rw [List.mem_singleton.mp last]
    exact le_max_right ..

/-- Reading raises the counter to every number that is read, in whatever order. -/
theorem IsCounted.loadAll (counted : log.IsCounted) {s : Surroundings} {drawn drawn' : Nat}
    {items : List Document} (read : loadAll s drawn log items = (drawn', .ok log')) :
    log'.IsCounted := by
  induction items generalizing drawn log with
  | nil =>
    cases read
    exact counted
  | cons d items ih =>
    unfold EventLog.loadAll at read
    split at read
    · cases read
    · next r _ => exact ih (counted.load r) read

theorem isCounted_of_ofDocument {s : Surroundings} {drawn drawn' : Nat} {d : Document}
    (read : ofDocument s drawn d = (drawn', .ok log)) : log.IsCounted := by
  have empty : IsCounted {} := List.forall_mem_nil _
  unfold ofDocument at read
  split at read
  · cases read
  · exact empty.loadAll read

end EventLog

namespace Registry

variable {reg reg' : Registry} {given : List Int}

theorem isCounted_of_restore {s : Surroundings} {drawn drawn' : Nat} {d : Document}
    (restored : restore s drawn d = (drawn', .ok reg)) : reg.log.IsCounted := by
  unfold restore at restored
  split at restored
  · cases restored
  · split at restored
    · cases restored
    · next log read =>
      rw [(exists_of_ofParts (Prod.mk.inj restored).2).1]
      exact EventLog.isCounted_of_ofDocument read

/-! ## What has been handed out -/

/-- The identifier that an answer hands out. -/
def Answer.handed? : Answer → Option Int
  | .created (.ok (id, _)) => some id
  | _ => none

/-- The identifiers that a run hands out: those with which its mints are answered. -/
def State.handed (st : State) : List Step → List Int
  | [] => []
  | x :: xs => (st.step x).2.handed?.toList ++ (st.step x).1.handed xs

theorem State.handed_singleton {st : State} {x : Step} {id : Int} {event : Event}
    (answer : (st.step x).2 = .created (.ok (id, event))) : st.handed [x] = [id] :=
  (List.append_nil _).trans (congrArg (fun a => Option.toList (Answer.handed? a)) answer)

/-- Whether the numbers that a registry is to give are above all that are in use or were given. -/
structure IsAbove (reg : Registry) (given : List Int) : Prop where
  keyed : reg.IsKeyed
  numbered : reg.IsNumbered
  below : ∀ id ∈ given, id < reg.nextId
  counted : reg.log.IsCounted

theorem isAbove_of_restore {s : Surroundings} {drawn drawn' : Nat} {d : Document}
    (restored : restore s drawn d = (drawn', .ok reg)) : reg.IsAbove [] where
  keyed := isKeyed_of_restore restored
  numbered := isNumbered_of_restore restored
  below := List.forall_mem_nil _
  counted := isCounted_of_restore restored

/-- An identifier that is handed out is the next one, and from then on a record stands under it. -/
theorem State.of_handed {st : State} {x : Step} {id : Int}
    (handed : (st.step x).2.handed? = some id) :
    id = st.registry.nextId ∧ (st.step x).1.registry.nextId = id + 1 ∧
      ∃ r, (st.step x).1.registry.record? id = some r ∧ r.id = .integer id := by
  obtain ⟨s, call⟩ := x
  cases call with
  | create request =>
    cases checked : request.check with
    | error f =>
      simp only [step, create, checked] at handed
      cases handed
    | ok m =>
      have deed := st.deed?_create s checked
      rcases answer_of_mint deed rfl with ⟨-, answer⟩ | ⟨f, -, answer⟩
      · rw [answer] at handed
        cases handed
        obtain ⟨-, raised, found, -⟩ := (happens_of_deed? deed).chronicle_of_mint rfl
        exact ⟨rfl, raised, _, found, rfl⟩
      · rw [answer] at handed
        cases handed
  | _ => cases handed

/-! ## What a step gives -/

/-- Whether a step gives nothing that was given before. An identifier that it hands out is above all
those handed out so far and all those of the records, and names a new record. A mint changes no record
that was there. At most one event is recorded, and its number is above those of all events before. -/
structure GivesFresh (st : State) (given : List Int) (x : Step) : Prop where
  identifier : ∀ id, (st.step x).2.handed? = some id → (∀ id' ∈ given, id' < id) ∧
    (∀ key r, st.registry.record? key = some r → r.id = .integer key ∧ key < id) ∧
    ∃ r, (st.step x).1.registry.record? id = some r ∧ r.id = .integer id
  records : ∀ m, x.call = .create m → ∀ key r, st.registry.record? key = some r →
    (st.step x).1.registry.record? key = some r
  event : (st.step x).1.registry.log.records = st.registry.log.records ∨
    ∃ l, (st.step x).1.registry.log.records = st.registry.log.records ++ [l] ∧
      ∀ l' ∈ st.registry.log.records, l'.sequence < l.sequence

variable {st : State}

theorem IsNumbered.lt_of_record? (numbered : reg.IsNumbered) {key : Int} {r : Record}
    (found : reg.record? key = some r) : key < reg.nextId := by
  obtain ⟨e, there, -⟩ := Option.map_eq_some_iff.mp found
  have here := List.find?_some there
  rw [← beq_iff_eq.mp here]
  exact numbered e (List.mem_of_find?_eq_some there)

/-- A mint leaves the records that are there as they are. -/
theorem IsNumbered.record?_of_create (numbered : st.registry.IsNumbered) {x : Step}
    {m : MintRequest} (call : x.call = .create m) {key : Int} {r : Record}
    (found : st.registry.record? key = some r) :
    (st.step x).1.registry.record? key = some r := by
  obtain ⟨s, call'⟩ := x
  obtain rfl : call' = .create m := call
  cases checked : m.check with
  | error f =>
    simp only [State.step, create, checked]
    exact found
  | ok minting =>
    have elsewhere := (numbered.lt_of_record? found).ne'
    rw [(State.happens_of_deed? (st.deed?_create s checked)).record?_of_ne elsewhere, found]

theorem IsAbove.log_cases (above : reg.IsAbove given) {d : Deed} (happens : Happens reg d reg') :
    reg'.log.IsCounted ∧ (reg'.log.records = reg.log.records ∨
      ∃ l, reg'.log.records = reg.log.records ++ [l] ∧
        ∀ l' ∈ reg.log.records, l'.sequence < l.sequence) := by
  rcases happens.log_cases (above.keyed d.objectId) with ⟨reference, -, -, log⟩ | ⟨-, log⟩
  · rw [log]
    refine ⟨fun l mem => ?_, .inr ⟨_, rfl, fun l' mem => Int.lt_add_one_of_le (above.counted l' mem)⟩⟩
    rcases List.mem_append.mp mem with before | last
    · exact (above.counted l before).trans (Int.le_of_lt (Int.lt_succ _))
    · rw [List.mem_singleton.mp last]
      exact le_rfl
  · rw [log]
    refine ⟨fun l mem => (above.counted l mem).trans ?_, .inl rfl⟩
    dsimp only
    split_ifs
    · exact le_rfl
    · exact Int.le_of_lt (Int.lt_succ _)

/-- What is to be given stays above what is in use and what was given. -/
theorem IsAbove.step (above : st.registry.IsAbove given) (x : Step) :
    (st.step x).1.registry.IsAbove (given ++ (st.step x).2.handed?.toList) := by
  have below : st.registry.nextId ≤ (st.step x).1.registry.nextId → ∀ id ∈ given ++
      (st.step x).2.handed?.toList, id < (st.step x).1.registry.nextId := by
    intro grows id mem
    rcases List.mem_append.mp mem with before | now
    · exact (above.below id before).trans_le grows
    · rw [(State.of_handed (Option.mem_toList.mp now)).2.1]
      exact Int.lt_succ id
  cases deed : st.deed? x with
  | none =>
    have same := State.step_registry_of_no_deed deed
    have kept := below (le_of_eq (congrArg Registry.nextId same.symm))
    rw [same] at kept ⊢
    exact ⟨above.keyed, above.numbered, kept, above.counted⟩
  | some d =>
    have happens := State.happens_of_deed? deed
    exact ⟨above.keyed.happens happens, above.numbered.happens happens, below happens.nextId_le,
      (above.log_cases happens).1⟩

theorem IsAbove.run (above : st.registry.IsAbove given) (xs : List Step) :
    (st.run xs).registry.IsAbove (given ++ st.handed xs) := by
  induction xs generalizing st given with
  | nil => simpa [State.handed] using above
  | cons x xs ih =>
    rw [State.run_cons, State.handed, ← List.append_assoc]
    exact ih (above.step x)

theorem IsAbove.givesFresh (above : st.registry.IsAbove given) (x : Step) :
    GivesFresh st given x where
  identifier id handed := by
    obtain ⟨rfl, -, new⟩ := State.of_handed handed
    exact ⟨above.below, fun key r found =>
      ⟨above.keyed key r found, above.numbered.lt_of_record? found⟩, new⟩
  records m call key r found := above.numbered.record?_of_create call found
  event := by
    cases deed : st.deed? x with
    | none => exact .inl (congrArg (·.log.records) (State.step_registry_of_no_deed deed))
    | some d => exact (above.log_cases (State.happens_of_deed? deed)).2

/-- Whatever snapshot a registry was read from, and whatever calls it has had since, the next one gives
nothing that was given before. -/
theorem numbers_given_once {s : Surroundings} {drawn drawn' : Nat} {d : Document}
    (restored : restore s drawn d = (drawn', .ok reg)) (draws : Draws) (before : List Step)
    (x : Step) :
    GivesFresh (State.run ⟨draws, reg⟩ before) (State.handed ⟨draws, reg⟩ before) x := by
  have start : (State.mk draws reg).registry.IsAbove [] := isAbove_of_restore restored
  exact (start.run before).givesFresh x

/-! ## A tangled snapshot -/

/-- A record in a snapshot, with no more than it must have. -/
def bareRecord (id : Int) (creator : String) : Document :=
  .object [("id", .integer id), ("creator", .text creator), ("rdo_type", .text "MESSAGE"),
    ("rules_hash", .text "c0de"), ("rules", .object []), ("metadata_pointer", .text "p")]

/-- An event in a snapshot, of a read that was allowed on the fifth object. -/
def bareEvent (sequence : Int) (reference : String) : Document :=
  .object [("sequence_number", .integer sequence), ("stream_id", .text "5"),
    ("version", .integer 1), ("tx_ref", .text reference), ("event", .object [
      ("event_type", .text "ActionAllowed"), ("event_id", .text "e"),
      ("event_timestamp", .text "t"), ("rdo_id", .integer 5), ("actor", .text "bob")])]

/-- A snapshot whose records stand in no order, with gaps and one of them twice, whose next identifier
is in use, and whose events count backwards. -/
def tangledDocument : Document :=
  .object [("next_id", .integer 3),
    ("records", .list [bareRecord 7 "alice", bareRecord 3 "bob", bareRecord 7 "carol"]),
    ("events", .list [bareEvent 9 "feed", bareEvent (-4) "c0de"])]

/-- The first mints from the tangled snapshot are given the identifiers behind the highest one. -/
theorem numbers_given_once_tangled :
    let s : Surroundings := ⟨0, "", .null, .numbered⟩
    let mint : Step := ⟨s, .create (onceRequest "alice")⟩
    ∃ reg, restore s 0 tangledDocument = (0, .ok reg) ∧ reg.nextId = 8 ∧ reg.log.sequence = 9 ∧
      State.handed ⟨{}, reg⟩ [mint] = [8] ∧
      ((State.run ⟨{}, reg⟩ [mint]).step mint).2.handed? = some 9 ∧
      GivesFresh (State.run ⟨{}, reg⟩ [mint]) [8] mint := by
  intro s mint
  have written : s.IsWritten := Source.isWritten_numbered 0 .null
  obtain ⟨reg, restored, next, counter⟩ : ∃ reg, restore s 0 tangledDocument = (0, .ok reg) ∧
      reg.nextId = 8 ∧ reg.log.sequence = 9 := ⟨_, rfl, rfl, rfl⟩
  have low : (State.mk {} reg).registry.nextId.natAbs < 10 := by
    rw [next]
    decide
  obtain ⟨event, first⟩ : ∃ event,
      (State.step ⟨{}, reg⟩ mint).2 = .created (.ok (reg.nextId, event)) :=
    created_onceRequest written _ low
  have raised := (State.of_handed (congrArg Answer.handed? first)).2.1
  rw [← State.run_nil (State.step _ _).1, ← State.run_cons] at raised
  have handed := State.handed_singleton first
  have fresh := numbers_given_once restored {} [mint] mint
  refine ⟨reg, restored, next, counter, ?_⟩
  -- the state after the first mint is given a name before anything looks into it
  generalize State.run ⟨{}, reg⟩ [mint] = st at raised fresh ⊢
  generalize State.handed ⟨{}, reg⟩ [mint] = given at handed fresh ⊢
  subst handed
  rw [next] at raised fresh ⊢
  have low : st.registry.nextId.natAbs < 10 := by
    rw [raised]
    decide
  obtain ⟨event', second⟩ : ∃ event,
      (st.step mint).2 = .created (.ok (st.registry.nextId, event)) :=
    created_onceRequest written st low
  rw [raised] at second
  exact ⟨rfl, congrArg Answer.handed? second, fresh⟩

end Registry

end RuleBound
