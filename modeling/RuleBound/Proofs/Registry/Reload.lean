import Mathlib.Data.List.Nodup
import RuleBound.Proofs.Registry.History
import RuleBound.Proofs.Registry.Saving

/-!
Reloading: a registry is written as text, and what a reader makes of the text takes its place. Moves
are calls and reloads; a reload that fails leaves the registry as it was.

A registry that is given typed rules only holds entries in the sense of `Registry.Holds`, after any
moves. Deeds are what happens in between, and the log is that of the recorded deeds.
-/

namespace RuleBound

open Document (Every IsOrderly HasDistinctNames)

namespace Registry

/-! ## Moves -/

/-- The text of a registry: its document on one line. A number that is too long cannot be
written. -/
def saved (reg : Registry) : Except Fault String := do
  let d ← reg.snapshot
  if d.hasLongNumeral then throw (.numeralTooLong none) else return d.toJson .line

namespace State

/-- The state after the registry was replaced by what a reader makes of its text, if that does not
fail. -/
def reload (st : State) (s : Surroundings) : State × Except Fault Unit :=
  match st.registry.saved.bind Document.parse with
  | .error f => (st, .error f)
  | .ok d =>
    match restore s st.draws.eventIds d with
    | (drawn, .error f) => ({ st with draws := { st.draws with eventIds := drawn } }, .error f)
    | (drawn, .ok reg) => (⟨{ st.draws with eventIds := drawn }, reg⟩, .ok ())

/-- A registry that holds entries is reloaded exactly if no number in its document is too long. -/
theorem reload_eq {st : State} {es : List Entry} (holds : st.registry.Holds es)
    (s : Surroundings) :
    st.reload s =
      if (st.registry.document es).hasLongNumeral then (st, .error (.numeralTooLong none))
      else (⟨st.draws, st.registry.reread es⟩, .ok ()) := by
  unfold reload saved
  rw [holds.snapshot_eq, ok_bind]
  cases long : (st.registry.document es).hasLongNumeral with
  | true => rfl
  | false =>
    have short := (Document.hasLongNumeral_eq_false_iff _).mp long
    have readable := Document.readable_of_orderly holds.orderly short
    have parsed := Document.parse_toJson Document.JsonStyle.isSeparating_line readable
    rw [if_neg Bool.false_ne_true, if_neg Bool.false_ne_true]
    simp only [pure, Except.pure, Except.bind, parsed, holds.restore_eq]

end State

/-! ## Entries that move -/

variable {reg reg' : Registry} {es : List Entry} {d : Deed}

theorem Holds.find?_eq (holds : reg.Holds es) (id : Int) :
    reg.record? id = (es.find? fun e => e.id == id).map Entry.record := by
  unfold record?
  rw [holds.records, List.find?_map, Option.map_map]
  rfl

theorem Holds.exists_entry (holds : reg.Holds es) {id : Int} {r : Record}
    (found : reg.record? id = some r) : ∃ e ∈ es, e.id = id ∧ r = e.record := by
  rw [holds.find?_eq, Option.map_eq_some_iff] at found
  obtain ⟨e, found, rfl⟩ := found
  exact ⟨e, List.mem_of_find?_eq_some found, by simpa using List.find?_some found, rfl⟩

theorem Holds.record?_of_mem (holds : reg.Holds es) {e : Entry} (mem : e ∈ es) :
    reg.record? e.id = some e.record := by
  have distinct : (es.map Entry.id).Nodup :=
    List.pairwise_map.mpr (holds.ordered.imp fun before => Int.ne_of_lt before)
  rw [holds.find?_eq]
  cases found : es.find? fun f => f.id == e.id with
  | none =>
    have missing := List.find?_eq_none.mp found e mem
    simp at missing
  | some f =>
    have same : f.id = e.id := by simpa using List.find?_some found
    rw [List.inj_on_of_nodup_map distinct (List.mem_of_find?_eq_some found) mem same]
    rfl

theorem Holds.id_eq (holds : reg.Holds es) {id : Int} {r : Record}
    (found : reg.record? id = some r) : r.id = .integer id := by
  obtain ⟨e, -, rfl, rfl⟩ := holds.exists_entry found
  rfl

theorem Holds.lt_nextId (holds : reg.Holds es) {id : Int} {r : Record}
    (found : reg.record? id = some r) : id < reg.nextId := by
  obtain ⟨e, mem, rfl, -⟩ := holds.exists_entry found
  exact holds.given e mem

/-- Entries with that of an identifier replaced. -/
def replaceEntry (es : List Entry) (e : Entry) : List Entry :=
  es.map fun f => if f.id = e.id then e else f

theorem putRecord_entries {es : List Entry} (ordered : es.Pairwise fun e f => e.id < f.id)
    {e : Entry} (known : ∃ f ∈ es, f.id = e.id) :
    putRecord (es.map fun f => (f.id, f.record)) e.id e.record =
      (replaceEntry es e).map fun f => (f.id, f.record) := by
  unfold replaceEntry
  induction es with
  | nil => simp at known
  | cons f es ih =>
    rw [List.pairwise_cons] at ordered
    rw [List.map_cons, putRecord, List.map_cons, List.map_cons]
    by_cases here : f.id = e.id
    · have rest : (es.map fun f => if f.id = e.id then e else f) = es := by
        refine (List.map_congr_left fun g mem => ?_).trans (List.map_id es)
        have later := ordered.1 g mem
        rw [if_neg (by omega), id]
      rw [if_pos here, if_pos here, rest]
    · have later : ∃ f ∈ es, f.id = e.id := by
        simpa [here] using known
      rw [if_neg here, if_neg here, ih ordered.2 later]

/-! ## Typed deeds -/

/-- Whether a deed mints under typed rules, and tells of itself in a correlation whose names are
distinct. -/
structure Deed.IsTyped (d : Deed) : Prop where
  rules : ∀ m, d.act = .mint m → m.rules.IsTyped
  correlation : Every HasDistinctNames d.event.correlation

/-- Whether a step hands in typed rules, in a correlation whose names are distinct. -/
structure Step.IsTyped (x : Step) : Prop where
  rules : ∀ m rules, x.call = .create m → m.rules = .member rules → rules.IsTyped
  correlation : Every HasDistinctNames x.surroundings.correlation

theorem Step.isTyped_request {s : Surroundings} (correlation : Every HasDistinctNames s.correlation)
    (id action : Document) (context : Given Bytes) (actor : Document) :
    Step.IsTyped ⟨s, .request id action context actor⟩ :=
  ⟨fun m rules is => (by cases is), correlation⟩

theorem Step.isTyped_onceRequest {s : Surroundings}
    (correlation : Every HasDistinctNames s.correlation) (creator : String) :
    Step.IsTyped ⟨s, .create (onceRequest creator)⟩ := by
  refine ⟨fun m rules is ruled => ?_, correlation⟩
  cases is
  cases ruled
  exact ⟨⟨rfl, rfl⟩, ⟨_, rfl⟩, ⟨_, rfl⟩, ⟨_, rfl⟩, ⟨_, rfl⟩, ⟨_, rfl⟩, ⟨_, rfl⟩, ⟨_, rfl⟩⟩

theorem State.isTyped_of_deed? {st : State} {x : Step} (typed : x.IsTyped) {d : Deed}
    (deed : st.deed? x = some d) : d.IsTyped := by
  obtain ⟨s, call⟩ := x
  unfold deed? at deed
  cases call with
  | create request =>
    cases checked : request.check with
    | error f =>
      simp only [checked] at deed
      cases deed
    | ok m =>
      simp only [checked] at deed
      cases deed
      refine ⟨fun m' act => ?_, by simp [createdEvent, HasDistinctNames]⟩
      cases act
      obtain ⟨-, -, fine⟩ := MintRequest.exists_of_check checked
      exact typed.rules request m.rules rfl (MintRequest.eq_of_checkRules fine).1
  | request id action context actor =>
    cases checked : Request.check action context actor with
    | error f =>
      simp only [checked] at deed
      cases deed
    | ok req =>
      cases decided : st.registry.verdict s.now id req with
      | error f =>
        simp only [checked, decided] at deed
        cases deed
      | ok v =>
        simp only [checked, decided] at deed
        cases deed
        refine ⟨fun m act => (by cases act), ?_⟩
        change Every HasDistinctNames (s.correlate st.draws).1
        unfold Surroundings.correlate
        split
        · exact typed.correlation
        · simp [HasDistinctNames]
  | _ => cases deed

/-! ## Holding entries -/

theorem lastNumber_append (records : List LogRecord) (r : LogRecord) :
    EventLog.lastNumber (records ++ [r]) = max (EventLog.lastNumber records) r.sequence := by
  simp [EventLog.lastNumber]

/-- A registry that records an event goes on to hold what it holds. -/
theorem Holds.emit (holds : reg.Holds es) (id : Int) {event : Event}
    (special : event.eventClass ≠ .general)
    (distinct : ∀ f ∈ event.fields, Every HasDistinctNames f.2) :
    (reg.emit (.integer id) event).1.Holds es := by
  obtain ⟨records, ordered, given, positive, typed, log, counted⟩ := holds
  rcases emit_cases reg id event with
    ⟨reference, -, digest, emitted⟩ | ⟨f, -, emitted⟩
  · rw [emitted]
    refine ⟨records, ordered, given, positive, typed, ?_, ?_⟩
    · intro r mem
      rcases List.mem_append.mp mem with before | last
      · exact log r before
      · rw [List.mem_singleton.mp last]
        exact ⟨⟨id, rfl⟩, digest, special, distinct⟩
    · change EventLog.lastNumber (reg.log.records ++ [nextLogRecord reg.log id event reference]) ≤ _
      rw [lastNumber_append]
      change max _ (reg.log.sequence + 1) ≤ reg.log.sequence + 1
      omega
  · have raised : reg.log.sequence ≤ if (Document.integer id).hasLongNumeral then reg.log.sequence
        else reg.log.sequence + 1 := by
      split
      · exact Int.le_refl _
      · exact Int.le_of_lt (Int.lt_succ _)
    generalize (if (Document.integer id).hasLongNumeral then reg.log.sequence
      else reg.log.sequence + 1) = n at emitted raised
    rw [emitted]
    exact ⟨records, ordered, given, positive, typed, log, le_trans counted raised⟩

theorem Holds.put (holds : reg.Holds es) {e : Entry} (known : ∃ f ∈ es, f.id = e.id)
    (typed : e.minting.IsTyped) :
    ({ reg with records := putRecord reg.records e.id e.record } : Registry).Holds
      (replaceEntry es e) where
  records := by rw [holds.records, putRecord_entries holds.ordered known]
  ordered := by
    have ids : (replaceEntry es e).map Entry.id = es.map Entry.id := by
      rw [replaceEntry, List.map_map]
      refine List.map_congr_left fun f _ => ?_
      simp only [Function.comp_apply]
      split_ifs with here
      · exact here.symm
      · rfl
    rw [← List.pairwise_map, ids, List.pairwise_map]
    exact holds.ordered
  given := by
    intro f mem
    obtain ⟨g, within, rfl⟩ := List.mem_map.mp mem
    have small := holds.given g within
    split_ifs with here
    · exact here ▸ small
    · exact small
  positive := holds.positive
  typed := by
    intro f mem
    obtain ⟨g, within, rfl⟩ := List.mem_map.mp mem
    split_ifs
    · exact typed
    · exact holds.typed g within
  log := holds.log
  counted := holds.counted

theorem Holds.add (holds : reg.Holds es) {e : Entry} (next : e.id = reg.nextId)
    (typed : e.minting.IsTyped) :
    ({ reg with
      records := putRecord reg.records e.id e.record
      nextId := e.id + 1 } : Registry).Holds (es ++ [e]) where
  records := by
    have fresh : e.id ∉ reg.records.map Prod.fst := by
      rw [holds.records, List.map_map]
      intro old
      obtain ⟨f, mem, same⟩ := List.mem_map.mp old
      have small := holds.given f mem
      replace same : f.id = e.id := same
      omega
    rw [putRecord_of_not_mem e.record fresh, holds.records, List.map_append]
    rfl
  ordered := by
    rw [List.pairwise_append]
    refine ⟨holds.ordered, List.pairwise_singleton .., fun f mem g last => ?_⟩
    rw [List.mem_singleton.mp last, next]
    exact holds.given f mem
  given := by
    intro f mem
    change f.id < e.id + 1
    rcases List.mem_append.mp mem with before | last
    · have small := holds.given f before
      omega
    · rw [List.mem_singleton.mp last]
      omega
  positive := by
    have positive := holds.positive
    change 1 ≤ e.id + 1
    omega
  typed := by
    intro f mem
    rcases List.mem_append.mp mem with before | last
    · exact holds.typed f before
    · rw [List.mem_singleton.mp last]
      exact typed
  log := holds.log
  counted := holds.counted

/-- A registry that holds entries does so after a typed deed. -/
theorem Holds.happens (holds : reg.Holds es) (happens : Happens reg d reg') (typed : d.IsTyped) :
    ∃ es', reg'.Holds es' := by
  cases happens with
  | @mint now m checked stamp =>
    have rules := typed.rules m rfl
    have record : newRecord reg.nextId now m =
        (Entry.mk reg.nextId now m (.initial m.rules)).record := m.newRecord_eq rules.toIsPlain ..
    have added := holds.add (e := ⟨reg.nextId, now, m, .initial m.rules⟩) rfl
      (checked.isTyped rules)
    rw [record]
    refine ⟨_, added.emit _ ?_ ?_⟩
    · simp [createdEvent, Event.eventClass, EventBody.eventClass]
    · simp [createdEvent, Event.fields, EventBody.fields, HasDistinctNames]
  | @verdict id now req refusal r r' found breaks after correlation stamp =>
    obtain ⟨e, mem, rfl, rfl⟩ := holds.exists_entry found
    rw [Entry.record, Minting.after_recordAt] at after
    cases after
    have put := holds.put (e := { e with standing := e.standing.after e.minting.rules refusal })
      ⟨e, mem, rfl⟩ (holds.typed e mem)
    refine ⟨_, put.emit _ ?_ ?_⟩
    · cases refusal <;> simp [verdictEvent, Event.eventClass, EventBody.eventClass]
    · have fine : Every HasDistinctNames correlation := typed.correlation
      cases refusal <;>
        simp [verdictEvent, Event.fields, EventBody.fields, Minting.recordAt, newRecord,
          HasDistinctNames, fine]

/-- What is read back holds the entries as they come back. -/
theorem Holds.reread (holds : reg.Holds es) : (reg.reread es).Holds (es.map Entry.reread) where
  records := by
    rw [List.map_map]
    rfl
  ordered := List.pairwise_map.mpr holds.ordered
  given := by
    intro f mem
    obtain ⟨e, within, rfl⟩ := List.mem_map.mp mem
    exact holds.given e within
  positive := holds.positive
  typed := by
    intro f mem
    obtain ⟨e, within, rfl⟩ := List.mem_map.mp mem
    exact (holds.typed e within).reread
  log := holds.log
  counted := Int.le_refl _

/-- An empty registry holds no entries. -/
theorem holds_empty : Holds {} [] where
  records := rfl
  ordered := .nil
  given := by simp
  positive := by decide
  typed := by simp
  log := fun r mem => by cases mem
  counted := by decide

/-- A typed step leaves a registry that holds entries, if it was one. -/
theorem State.holds_step {st : State} (holds : st.registry.Holds es) {x : Step}
    (typed : x.IsTyped) : ∃ es', (st.step x).1.registry.Holds es' := by
  cases deed : st.deed? x with
  | none => exact ⟨es, step_registry_of_no_deed deed ▸ holds⟩
  | some d => exact holds.happens (happens_of_deed? deed) (isTyped_of_deed? typed deed)

/-! ## Runs of moves -/

/-- A call or a reload. -/
inductive Move
  | call (x : Step)
  | reload (s : Surroundings)

/-- Whether a move hands in typed rules only. -/
def Move.IsTyped : Move → Prop
  | .call x => x.IsTyped
  | .reload _ => True

namespace State

/-- The state after a move. -/
def move (st : State) : Move → State
  | .call x => (st.step x).1
  | .reload s => (st.reload s).1

/-- The state after some moves. -/
def moves (st : State) (ms : List Move) : State := ms.foldl move st

@[simp] theorem moves_nil (st : State) : st.moves [] = st := rfl

@[simp] theorem moves_cons (st : State) (mv : Move) (ms : List Move) :
    st.moves (mv :: ms) = (st.move mv).moves ms := rfl

theorem moves_append (st : State) (ms ns : List Move) :
    st.moves (ms ++ ns) = (st.moves ms).moves ns := List.foldl_append

theorem moves_map_call (st : State) (xs : List Step) : st.moves (xs.map .call) = st.run xs :=
  List.foldl_map

/-- What a move brings about. -/
def moveDeed? (st : State) : Move → Option Deed
  | .call x => st.deed? x
  | .reload _ => none

/-- The deeds of some moves. -/
def moveDeeds (st : State) : List Move → List Deed
  | [] => []
  | mv :: ms => (st.moveDeed? mv).toList ++ (st.move mv).moveDeeds ms

theorem mem_moveDeeds {st : State} {ms : List Move} {d : Deed} :
    d ∈ st.moveDeeds ms ↔ ∃ before x after, ms = before ++ .call x :: after ∧
      (st.moves before).deed? x = some d := by
  induction ms generalizing st with
  | nil => simp [moveDeeds]
  | cons mv ms ih =>
    rw [moveDeeds, List.mem_append, Option.mem_toList, ih]
    constructor
    · rintro (here | ⟨before, x, after, rfl, later⟩)
      · cases mv with
        | call x => exact ⟨[], x, ms, rfl, here⟩
        | reload s => cases here
      · exact ⟨mv :: before, x, after, rfl, later⟩
    · rintro ⟨before, x, after, all, deed⟩
      cases before with
      | nil =>
        cases all
        exact .inl deed
      | cons first before =>
        cases all
        exact .inr ⟨before, x, after, rfl, deed⟩

/-- An invariant of a registry that holds entries, and of its deeds so far, holds after any typed
moves, and the registry still holds entries. -/
theorem moves_induction (P : Registry → List Deed → Prop)
    (calls : ∀ {reg es ds d reg'}, P reg ds → reg.Holds es → Happens reg d reg' → d.IsTyped →
      P reg' (ds ++ [d]))
    (reloads : ∀ {reg es ds}, P reg ds → reg.Holds es → P (reg.reread es) ds)
    {st : State} {es : List Entry} (holds : st.registry.Holds es) (ds : List Deed)
    (start : P st.registry ds) {ms : List Move} (typed : ∀ mv ∈ ms, mv.IsTyped) :
    P (st.moves ms).registry (ds ++ st.moveDeeds ms) ∧ ∃ es', (st.moves ms).registry.Holds es' := by
  induction ms generalizing st es ds with
  | nil => exact ⟨by simpa [moveDeeds] using start, es, holds⟩
  | cons mv ms ih =>
    rw [List.forall_mem_cons] at typed
    rw [moves_cons, moveDeeds, ← List.append_assoc]
    cases mv with
    -- a call without a deed leaves the registry, and adds nothing to the deeds
    | call x =>
      rw [move, moveDeed?]
      cases deed : st.deed? x with
      | none =>
        have same := step_registry_of_no_deed deed
        exact ih (same ▸ holds) _ (by simpa [same] using start) typed.2
      | some d =>
        have happens := happens_of_deed? deed
        have fine := isTyped_of_deed? typed.1 deed
        obtain ⟨es', holds'⟩ := holds.happens happens fine
        exact ih holds' _ (calls start holds happens fine) typed.2
    | reload s =>
      rw [move, moveDeed?, reload_eq holds s]
      split
      · exact ih holds _ (by simpa using start) typed.2
      · exact ih holds.reread _ (by simpa using reloads start holds) typed.2

/-- After typed moves from the start, the registry holds entries. -/
theorem holds_moves {ms : List Move} (typed : ∀ mv ∈ ms, mv.IsTyped) :
    ∃ es, (State.moves {} ms).registry.Holds es :=
  (moves_induction (fun _ _ => True) (fun _ _ _ _ => trivial) (fun _ _ => trivial) holds_empty []
    trivial typed).2

end State

end Registry

end RuleBound
