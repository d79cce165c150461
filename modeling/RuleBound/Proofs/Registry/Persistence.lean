import RuleBound.Proofs.Registry.Ordering
import RuleBound.Proofs.Registry.Reload

/-!
Persistence. A registry that is saved and read back at chosen points of a run gives the same answers
as one that is not, and the same snapshot in the end, provided that at each of these points it comes
back: it can be written at all, its texts are ones that a reader takes back as they were, and the
last number that it gave is that of a recorded event.

The last proviso is not idle. A number is used up also by an event that cannot be recorded, and is
forgotten by what is read back, so the next event gets a number that was given before. For every
state in which one of the provisos fails there are calls which tell the two registries apart.
-/

namespace RuleBound

open Document (Every IsShort)

/-! ## What comes back -/

/-- The texts of a record that its mint has brought in: creator, pointer and whitelist. -/
def Record.texts (r : Record) : List String :=
  Members.texts (r.creator :: r.pointer :: match r.whitelist with
    | .member members => members
    | .other _ => [])

namespace Registry

/-- Whether a registry that is saved comes back as it was. -/
structure ComesBack (reg : Registry) : Prop where
  written : ∃ text, reg.saved = .ok text
  texts : ∀ id r, reg.record? id = some r → ∀ text ∈ r.texts, Text.reread true text = text
  numbered : reg.log.sequence = EventLog.lastNumber reg.log.records

end Registry

namespace Registry.Entry

variable {e : Entry}

/-- An entry with texts for its whitelist. -/
def withWhitelist (e : Entry) (members : List String) : Entry :=
  { e with minting := { e.minting with whitelist := Members.documents members } }

theorem texts_record (e : Entry) {members : List String}
    (whitelist : e.minting.whitelist = Members.documents members) :
    e.record.texts = e.minting.creator :: e.minting.pointer :: members := by
  change Members.texts (.text e.minting.creator :: .text e.minting.pointer ::
    e.minting.whitelist) = _
  rw [whitelist]
  exact congrArg (fun ts => e.minting.creator :: e.minting.pointer :: ts)
    (Members.texts_documents members)

theorem inOrder_record (e : Entry) {members : List String}
    (whitelist : e.minting.whitelist = Members.documents members) :
    e.record.inOrder = (e.withWhitelist (Members.sorted members)).record := by
  change ({ e.record with whitelist := .member (e.minting.whitelist.mergeSort _) } : Record) = _
  rw [whitelist, Members.mergeSort_documents]
  rfl

/-- A record whose texts come back comes back as it was, up to the order of its whitelist. -/
theorem inOrder_reread (typed : e.minting.IsTyped)
    (texts : ∀ text ∈ e.record.texts, Text.reread true text = text) :
    e.reread.record.inOrder = e.record.inOrder := by
  obtain ⟨members, nodup, whitelist⟩ := typed.whitelist
  rw [e.texts_record whitelist, List.forall_mem_cons, List.forall_mem_cons] at texts
  obtain ⟨creator, pointer, listed⟩ := texts
  have same : (Members.sorted members).map (Text.reread true) = Members.sorted members :=
    (List.map_congr_left fun s mem => listed s ((Members.sorted_perm members).mem_iff.mp mem)).trans
      (List.map_id' _)
  have back : e.reread.minting.whitelist = Members.documents (Members.sorted members) := by
    rw [reread, Minting.whitelist_reread whitelist, same,
      Members.distinct_of_nodup ((Members.sorted_perm members).nodup_iff.mpr nodup)]
  rw [e.inOrder_record whitelist, e.reread.inOrder_record back, Members.sorted_sorted]
  unfold withWhitelist reread Minting.reread
  simp only [creator, pointer]

/-- An entry whose document comes back has texts that do. -/
theorem texts_of_document_reread (typed : e.minting.IsTyped)
    (same : e.reread.document = e.document) :
    ∀ text ∈ e.record.texts, Text.reread true text = text := by
  obtain ⟨rules, made, -⟩ := typed.rules.exists_document
  obtain ⟨members, nodup, whitelist⟩ := typed.whitelist
  have back := Minting.whitelist_reread whitelist
  rw [e.document_eq_parts made whitelist, e.reread.document_eq_parts made back] at same
  simp only [parts, Document.object.injEq, List.cons.injEq, Prod.mk.injEq, Document.text.injEq,
    Document.list.injEq, true_and, and_true] at same
  obtain ⟨-, creator, -, -, listed, pointer, -⟩ := same
  have sets :
      (Members.distinct ((Members.sorted members).map (Text.reread true))).Perm members := by
    have texts := congrArg Members.texts listed
    rw [Members.texts_documents, Members.texts_documents] at texts
    refine (Members.sorted_perm _).symm.trans ?_
    rw [texts]
    exact Members.sorted_perm members
  have all := Members.distinct_perm_of_length (by
    rw [sets.length_eq, List.length_map, (Members.sorted_perm members).length_eq])
  have carried : ((Members.sorted members).map (Text.reread true)).Perm (Members.sorted members) :=
    all.symm.trans (sets.trans (Members.sorted_perm members).symm)
  have fixed := Members.fixed_of_perm_map (Text.reread_eq_or_lt true) carried
  rw [e.texts_record whitelist, List.forall_mem_cons, List.forall_mem_cons]
  exact ⟨creator, pointer, fun s mem => fixed s ((Members.sorted_perm members).mem_iff.mpr mem)⟩

end Registry.Entry

namespace Registry

variable {reg reg' : Registry} {es es' : List Entry}

/-- The numbers of a registry come back exactly if its last deed was recorded. -/
theorem Happens.numbered_iff {d : Deed} (happens : Happens reg d reg') (holds : reg.Holds es)
    (short : IsShort (.integer d.objectId)) :
    reg'.log.sequence = EventLog.lastNumber reg'.log.records ↔ d.isRecorded = true := by
  have counted := holds.counted
  rcases happens.log_cases (fun r found => holds.id_eq found) with
    ⟨reference, recorded, -, log⟩ | ⟨unrecorded, log⟩
  · rw [log, lastNumber_append, nextLogRecord]
    exact iff_of_true (by simp only []; omega) recorded
  · have long : (Document.integer d.objectId).hasLongNumeral = false :=
      (Document.hasLongNumeral_eq_false_iff _).mpr ((Every.integer_iff ..).mpr short)
    rw [log, long, if_neg Bool.false_ne_true, unrecorded]
    clear short long
    exact iff_of_false (by simp only []; omega) Bool.false_ne_true

theorem toDocument_inOrder {e : Entry} (typed : e.minting.IsTyped) :
    e.record.inOrder.toDocument = e.record.toDocument := by
  obtain ⟨rules, made, -⟩ := typed.rules.exists_document
  obtain ⟨members, nodup, whitelist⟩ := typed.whitelist
  rw [e.toDocument_record made whitelist, e.inOrder_record whitelist]
  refine ((e.withWhitelist (Members.sorted members)).toDocument_record made rfl).trans ?_
  rw [Members.sorted_sorted]
  rfl

/-- Registries that agree up to the order of whitelists have one snapshot. -/
theorem Holds.snapshot_congr (holds : reg.Holds es) (holds' : reg'.Holds es')
    (same : reg.inOrder = reg'.inOrder) : reg.snapshot = reg'.snapshot := by
  obtain ⟨records, next, log⟩ := Registry.mk.inj same
  have documents : ∀ {reg : Registry} {es : List Entry}, reg.Holds es →
      es.map (fun e => (Except.ok (ε := Fault) e.document)) =
        (reg.records.map fun s => (s.1, s.2.inOrder)).map fun s => s.2.toDocument := by
    intro reg es holds
    rw [holds.records, List.map_map, List.map_map]
    refine List.map_congr_left fun e mem => ?_
    have typed := holds.typed e mem
    exact ((toDocument_inOrder typed).trans (e.ofDocument_document typed).1).symm
  have entries : es.map Entry.document = es'.map Entry.document := by
    have oks := (documents holds).trans (records ▸ (documents holds').symm)
    have injective : Function.Injective (Except.ok (ε := Fault) (α := Document)) :=
      fun a b => Except.ok.inj
    refine List.map_injective_iff.mpr injective ?_
    rw [List.map_map, List.map_map]
    exact oks
  rw [holds.snapshot_eq, holds'.snapshot_eq, document, document, entries, next, log]

/-- A registry with the same snapshot has the same events. -/
theorem records_of_snapshot (holds : reg.Holds es) (holds' : reg'.Holds es')
    (same : reg.snapshot = reg'.snapshot) :
    reg.log.records = reg'.log.records ∧ es.map Entry.document = es'.map Entry.document := by
  rw [holds.snapshot_eq, holds'.snapshot_eq] at same
  have parts := Except.ok.inj same
  simp only [document, Document.object.injEq, List.cons.injEq, Prod.mk.injEq, Document.list.injEq,
    true_and, and_true] at parts
  obtain ⟨-, entries, log⟩ := parts
  have read := EventLog.ofDocument_toDocument ⟨0, "", .null, .numbered⟩ 0 holds.log
  rw [log, EventLog.ofDocument_toDocument _ 0 holds'.log] at read
  simp only [Prod.mk.injEq, Except.ok.injEq, EventLog.mk.injEq, true_and] at read
  exact ⟨read.1.symm, entries⟩

theorem isShort_nextId (written : (reg.document es).hasLongNumeral = false) :
    IsShort (.integer reg.nextId) := by
  have every := (Document.hasLongNumeral_eq_false_iff _).mp written
  rw [document, Every.object_iff] at every
  exact (every.2 ("next_id", .integer reg.nextId) (by simp)).here

theorem mem_texts_inOrder (r : Record) (text : String) :
    text ∈ r.inOrder.texts ↔ text ∈ r.texts := by
  unfold Record.texts Record.inOrder
  cases r.whitelist with
  | member members =>
    exact (((List.mergeSort_perm members _).cons _).cons _).filterMap _ |>.mem_iff
  | other d => rfl

/-- Whether a registry comes back does not depend on the order of its whitelists. -/
theorem ComesBack.congr (back : reg.ComesBack) (holds : reg.Holds es) (holds' : reg'.Holds es')
    (same : reg.inOrder = reg'.inOrder) : reg'.ComesBack where
  written := by
    obtain ⟨text, written⟩ := back.written
    unfold saved at written ⊢
    rw [holds.snapshot_congr holds' same] at written
    exact ⟨text, written⟩
  texts := by
    intro id r' found text mem
    have agree : (reg.record? id).map Record.inOrder = (reg'.record? id).map Record.inOrder := by
      rw [← record?_inOrder, ← record?_inOrder, same]
    rw [found, Option.map_some, Option.map_eq_some_iff] at agree
    obtain ⟨r, found', alike⟩ := agree
    refine back.texts id r found' text ?_
    rwa [← mem_texts_inOrder, alike, mem_texts_inOrder]
  numbered := by
    have log : reg.log = reg'.log := (Registry.mk.inj same).2.2
    exact log ▸ back.numbered

theorem Holds.written_iff (holds : reg.Holds es) :
    (∃ text, reg.saved = .ok text) ↔ (reg.document es).hasLongNumeral = false := by
  unfold saved
  rw [holds.snapshot_eq, ok_bind]
  cases (reg.document es).hasLongNumeral with
  | false => exact iff_of_true ⟨_, rfl⟩ rfl
  | true => exact iff_of_false (fun ⟨_, written⟩ => by cases written) (by simp)

/-- A registry that comes back is read back as it was, up to the order of its whitelists. -/
theorem Holds.inOrder_reread (holds : reg.Holds es) (back : reg.ComesBack) :
    (reg.reread es).inOrder = reg.inOrder := by
  have records : (reg.reread es).records.map (fun s => (s.1, s.2.inOrder)) =
      reg.records.map fun s => (s.1, s.2.inOrder) := by
    rw [holds.records, Registry.reread, List.map_map, List.map_map]
    refine List.map_congr_left fun e mem => ?_
    have texts := back.texts e.id _ (holds.record?_of_mem mem)
    exact congrArg (Prod.mk e.id) (e.inOrder_reread (holds.typed e mem) texts)
  have log : (reg.reread es).log = reg.log := by
    rw [Registry.reread, ← back.numbered]
  unfold inOrder
  rw [records, log]
  rfl

/-! ## Moves with and without reloads -/

/-- Whether a move is a call. -/
def Move.isCall : Move → Bool
  | .call _ => true
  | .reload _ => false

/-- The calls among some moves. -/
def calls (ms : List Move) : List Move := ms.filter Move.isCall

namespace State

theorem reload_of_comesBack {st : State} (holds : st.registry.Holds es)
    (back : st.registry.ComesBack) (s : Surroundings) :
    (st.reload s).2 = .ok () ∧ (st.reload s).1.inOrder = st.inOrder ∧
      ∃ es', (st.reload s).1.registry.Holds es' := by
  have short := holds.written_iff.mp back.written
  rw [reload_eq holds s, short, if_neg Bool.false_ne_true]
  refine ⟨rfl, ?_, _, holds.reread⟩
  unfold inOrder
  rw [holds.inOrder_reread back]

/-- What the calls among some moves are answered, whitelists in order. -/
def replies (st : State) : List Move → List Answer
  | [] => []
  | .call x :: ms => (st.step x).2.inOrder :: (st.step x).1.replies ms
  | .reload s :: ms => (st.reload s).1.replies ms

/-- Whether the calls among some moves are answered alike from two states, and the last snapshots
are the same. -/
def Alike (st st' : State) (ms ms' : List Move) : Prop :=
  st.replies ms = st'.replies ms' ∧
    (st.moves ms).registry.snapshot = (st'.moves ms').registry.snapshot

/-- Of two states that agree up to the order of whitelists, the one may be reloaded whenever the
other comes back. -/
theorem alike_of_comesBack {st st' : State} (same : st.inOrder = st'.inOrder)
    (holds : st.registry.Holds es) (holds' : st'.registry.Holds es') {ms : List Move}
    (typed : ∀ mv ∈ ms, mv.IsTyped)
    (back : ∀ before s after, ms = before ++ .reload s :: after →
      (st.moves (calls before)).registry.ComesBack) :
    (∀ before s after, ms = before ++ .reload s :: after →
      ((st'.moves before).reload s).2 = .ok ()) ∧ Alike st st' (calls ms) ms := by
  induction ms generalizing st st' es es' with
  | nil =>
    refine ⟨fun before s after all => (by simp at all), rfl, ?_⟩
    exact holds.snapshot_congr holds' (State.mk.inj same).2
  | cons mv ms ih =>
    rw [List.forall_mem_cons] at typed
    cases mv with
    | call x =>
      obtain ⟨left, told⟩ := step_congr same x
      obtain ⟨fs, holding⟩ := holds_step holds typed.1
      obtain ⟨fs', holding'⟩ := holds_step holds' typed.1
      obtain ⟨reloads, replies, snapshots⟩ := ih left holding holding' typed.2
        fun before s after all => back (.call x :: before) s after (congrArg _ all)
      refine ⟨fun before s after all => ?_, ?_, snapshots⟩
      · cases before with
        | nil => cases all
        | cons first before =>
          cases all
          exact reloads before s after rfl
      · exact congrArg₂ List.cons told replies
    | reload s =>
      -- only the second state is reloaded: it comes back because the first would
      have here := (back [] s ms rfl).congr holds holds' (State.mk.inj same).2
      obtain ⟨fine, left, fs, holding⟩ := reload_of_comesBack holds' here s
      obtain ⟨reloads, alike⟩ := ih (same.trans left.symm) holds holding typed.2
        fun before t after all => back (.reload s :: before) t after (congrArg _ all)
      refine ⟨fun before t after all => ?_, alike⟩
      cases before with
      | nil =>
        cases all
        exact fine
      | cons first before =>
        cases all
        exact reloads before t after rfl

/-! ## Calls that tell -/

/-- A mint whose event can be recorded under any identifier that is not too long. -/
def probe : Step :=
  ⟨⟨0, "", .null, { Source.numbered with eventId := fun _ => "" }⟩, .create (onceRequest "alice")⟩

theorem isTyped_probe : probe.IsTyped :=
  Step.isTyped_onceRequest (by simp [Document.HasDistinctNames]) _

theorem records_of_probe {st : State} (holds : st.registry.Holds es)
    (short : IsShort (.integer st.registry.nextId)) :
    ∃ event reference, (st.step probe).1.registry.log.records = st.registry.log.records ++
      [nextLogRecord st.registry.log st.registry.nextId event reference] := by
  have deed : st.deed? probe = some _ := st.deed?_create _ (check_onceRequest (.inl rfl))
  rcases (happens_of_deed? deed).log_cases (fun r found => holds.id_eq found) with
    ⟨reference, -, -, log⟩ | ⟨unrecorded, -⟩
  · exact ⟨_, reference, congrArg EventLog.records log⟩
  · refine absurd ((isRecordable_onceMinting short ?_ ?_ "alice").mpr (by decide))
      (unrecorded ▸ Bool.false_ne_true)
    · exact (by decide : Text.IsWhole "")
    · exact (by decide : Text.IsWhole "")

/-- States in which such a mint leaves the same snapshot have given the same number last. -/
theorem sequence_eq_of_probe {st st' : State} (holds : st.registry.Holds es)
    (holds' : st'.registry.Holds es') (short : IsShort (.integer st.registry.nextId))
    (short' : IsShort (.integer st'.registry.nextId))
    (same : (st.step probe).1.registry.snapshot = (st'.step probe).1.registry.snapshot) :
    st.registry.log.sequence = st'.registry.log.sequence := by
  obtain ⟨fs, holding⟩ := holds_step holds isTyped_probe
  obtain ⟨fs', holding'⟩ := holds_step holds' isTyped_probe
  obtain ⟨event, reference, log⟩ := records_of_probe holds short
  obtain ⟨event', reference', log'⟩ := records_of_probe holds' short'
  have logs := (records_of_snapshot holding holding' same).1
  rw [log, log'] at logs
  have last := (List.cons.inj (List.append_inj' logs rfl).2).1
  rw [nextLogRecord, nextLogRecord, LogRecord.mk.injEq] at last
  exact (Int.add_left_inj 1).mp last.1

/-- A registry comes back if it can be reloaded and no calls tell the difference. -/
theorem comesBack_of_alike {st : State} (holds : st.registry.Holds es) {s : Surroundings}
    (fine : (st.reload s).2 = .ok ())
    (alike : ∀ more, (∀ mv ∈ more, mv.IsTyped ∧ mv.isCall = true) →
      Alike st (st.reload s).1 more more) : st.registry.ComesBack := by
  rw [reload_eq holds s] at fine alike
  cases long : (st.registry.document es).hasLongNumeral with
  | true =>
    rw [long, if_pos rfl] at fine
    cases fine
  | false =>
    rw [long, if_neg Bool.false_ne_true] at alike
    let back : State := ⟨st.draws, st.registry.reread es⟩
    replace alike : ∀ more, (∀ mv ∈ more, mv.IsTyped ∧ mv.isCall = true) →
      Alike st back more more := alike
    have holds' : back.registry.Holds _ := holds.reread
    refine ⟨holds.written_iff.mpr long, ?_, ?_⟩
    -- the snapshots tell the texts apart without any call, and one mint more tells the numbers
    · intro id r found text mem
      obtain ⟨e, within, -, rfl⟩ := holds.exists_entry found
      have now := (alike [] (by simp)).2
      have documents := (records_of_snapshot holds holds' now).2
      rw [List.map_map, List.map_inj_left] at documents
      exact e.texts_of_document_reread (holds.typed e within) (documents e within).symm text mem
    · have later := (alike [.call probe]
        (by simpa [Move.isCall, Move.IsTyped] using isTyped_probe)).2
      rw [moves_cons, moves_nil, moves_cons, moves_nil, move, move] at later
      have short := isShort_nextId long
      exact sequence_eq_of_probe holds holds' short short later

end State

/-! ## Persistence -/

/-- A run with reloads at any points at which the registry of the run without them comes back is
answered as that run, leaves the same snapshot, and no reload fails. After any moves the registry
comes back exactly if it can be reloaded and no further calls tell the difference. -/
theorem reload_unseen_iff_comesBack {ms : List Move} (typed : ∀ mv ∈ ms, mv.IsTyped) :
    ((∀ before s after, ms = before ++ .reload s :: after →
        (State.moves {} (calls before)).registry.ComesBack) →
      (∀ before s after, ms = before ++ .reload s :: after →
        ((State.moves {} before).reload s).2 = .ok ()) ∧
      State.Alike {} {} (calls ms) ms) ∧
    ∀ s, (State.moves {} ms).registry.ComesBack ↔
      ((State.moves {} ms).reload s).2 = .ok () ∧
      ∀ more, (∀ mv ∈ more, mv.IsTyped ∧ mv.isCall = true) →
        State.Alike (State.moves {} ms) ((State.moves {} ms).reload s).1 more more := by
  refine ⟨State.alike_of_comesBack rfl holds_empty holds_empty typed, fun s => ?_⟩
  obtain ⟨es, holds⟩ := State.holds_moves typed
  constructor
  · intro back
    obtain ⟨fine, left, fs, holding⟩ := State.reload_of_comesBack holds back s
    refine ⟨fine, fun more all => ?_⟩
    have kept : calls more = more := List.filter_eq_self.mpr fun mv mem => (all mv mem).2
    have alike := State.alike_of_comesBack left.symm holds holding (fun mv mem => (all mv mem).1)
      (fun before t after is => by
        have reload := (all (.reload t) (is ▸ by simp)).2
        cases reload)
    have told := alike.2
    rwa [kept] at told
  · rintro ⟨fine, alike⟩
    exact State.comesBack_of_alike holds fine alike

/-- An empty registry comes back. -/
theorem comesBack_empty : ComesBack {} where
  written := by
    rw [holds_empty.written_iff, Document.hasLongNumeral_eq_false_iff]
    simp [document, EventLog.toDocument]
  texts := fun id r found => by cases found
  numbered := rfl

/-- A run that starts with a reload is answered as if it did not. -/
theorem alike_of_reload_at_start :
    let s : Surroundings := ⟨0, "", .null, .numbered⟩
    let ms : List Move := .reload s :: (onceRun s "bob").map .call
    (∀ before t after, ms = before ++ .reload t :: after →
      ((State.moves {} before).reload t).2 = .ok ()) ∧ State.Alike {} {} (calls ms) ms := by
  intro s ms
  have correlation : Every Document.HasDistinctNames s.correlation := by
    simp [s, Document.HasDistinctNames]
  have typed : ∀ mv ∈ ms, mv.IsTyped := by
    rw [List.forall_mem_cons, List.forall_mem_map, onceRun, List.forall_mem_cons,
      List.forall_mem_singleton]
    exact ⟨trivial, Step.isTyped_onceRequest correlation _, Step.isTyped_request correlation ..⟩
  refine (reload_unseen_iff_comesBack typed).1 fun before t after is => ?_
  have start : before = [] := by
    cases before with
    | nil => rfl
    | cons mv before =>
      have mem : .reload t ∈ (onceRun s "bob").map Move.call := by
        rw [(List.cons.inj is).2]
        simp
      simp at mem
  rw [start]
  exact comesBack_empty

/-- If the request is decided and its event cannot be recorded, a reload behind it is told. -/
theorem not_alike_onceRun {s : Surroundings} {actor : String}
    (correlation : Every Document.HasDistinctNames s.correlation)
    (form : Request.check (.text "READ") (.member []) (.text actor) = .ok ⟨.read, [], actor⟩)
    (unwritten : ∀ draws, isRecordable 1 (verdictEvent (newRecord 1 s.now (onceMinting "alice"))
      ⟨.read, [], actor⟩ none (s.correlate draws).1 (s.stamp (s.correlate draws).2)) = false)
    {ms : List Move} (moves : ms = (onceRun s actor).map .call ++ [.reload s, .call State.probe]) :
    ¬ ((∀ before s after, ms = before ++ .reload s :: after →
        ((State.moves {} before).reload s).2 = .ok ()) ∧
      State.Alike {} {} (calls ms) ms) := by
  rintro ⟨fine, -, same⟩
  have decided := deed?_onceRequest s (.inl rfl) form none rfl
  generalize minted : (State.step {} ⟨s, .create (onceRequest "alice")⟩).1 = st at decided
  obtain ⟨es, holds⟩ : ∃ es, st.registry.Holds es :=
    minted ▸ State.holds_step holds_empty (Step.isTyped_onceRequest correlation _)
  generalize request :
    Step.mk s (.request (.integer 1) (.text "READ") (.member []) (.text actor)) = x at decided
  obtain ⟨fs, holding⟩ : ∃ fs, (st.step x).1.registry.Holds fs :=
    State.holds_step holds (request ▸ Step.isTyped_request correlation ..)
  have reached : State.moves {} ((onceRun s actor).map .call) = (st.step x).1 := by
    rw [State.moves_map_call, onceRun, request, State.run_cons, State.run_cons, State.run_nil,
      minted]
  have called : calls ms = (onceRun s actor).map .call ++ [.call State.probe] := by
    rw [moves]
    rfl
  have happens := State.happens_of_deed? decided
  generalize (st.step x).1 = st' at holding reached happens
  have numbers := (happens.numbered_iff holds Document.isShort_one).not.mpr (by
    rw [Deed.isRecorded]
    exact (unwritten _).symm ▸ Bool.false_ne_true)
  have reloaded := fine _ _ _ moves
  rw [called, moves, State.moves_append, State.moves_append, reached, State.moves_cons,
    State.moves_cons, State.moves_nil, State.moves_cons, State.moves_nil, State.move, State.move,
    State.move] at same
  rw [reached] at reloaded
  cases long : (st'.registry.document fs).hasLongNumeral with
  | true =>
    rw [State.reload_eq holding, long, if_pos rfl] at reloaded
    cases reloaded
  | false =>
    let back : State := ⟨st'.draws, st'.registry.reread fs⟩
    have left : (st'.reload s).1 = back := by
      rw [State.reload_eq holding, long, if_neg Bool.false_ne_true]
    rw [left] at same
    have holding' : back.registry.Holds _ := holding.reread
    have short := isShort_nextId long
    exact numbers (State.sequence_eq_of_probe holding holding' short short same)

/-- A reload behind a request that could not be recorded is told: neither one in a correlation that
is a double comes back, nor one by an actor whose name is half of a pair. -/
theorem not_alike_of_unrecorded_use :
    let double : Surroundings := ⟨0, "", .real (.ofDecimal false 15 (-1)), .numbered⟩
    let plain : Surroundings := ⟨0, "", .null, .numbered⟩
    let reloaded (s : Surroundings) (actor : String) : List Move :=
      (onceRun s actor).map .call ++ [.reload s, .call State.probe]
    ¬ ((∀ before s after, reloaded double "bob" = before ++ .reload s :: after →
        ((State.moves {} before).reload s).2 = .ok ()) ∧
      State.Alike {} {} (calls (reloaded double "bob")) (reloaded double "bob")) ∧
    ¬ ((∀ before s after, reloaded plain halfName = before ++ .reload s :: after →
        ((State.moves {} before).reload s).2 = .ok ()) ∧
      State.Alike {} {} (calls (reloaded plain halfName)) (reloaded plain halfName)) := by
  intro double plain reloaded
  exact ⟨not_alike_onceRun (by simp [double, Document.HasDistinctNames]) (by decide +kernel)
      (fun draws => not_isRecordable_onceMinting (.inl rfl) ..) rfl,
    not_alike_onceRun (by simp [plain, Document.HasDistinctNames]) (by decide +kernel)
      (fun draws => not_isRecordable_onceMinting (.inr rfl) ..) rfl⟩

end Registry

end RuleBound
