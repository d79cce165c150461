import RuleBound.Proofs.Registry.Members
import RuleBound.Proofs.Registry.Regular

/-!
Legible snapshots. A snapshot is legible if what has to be there is there and of a type that can be
read; the values may be anything. A legible snapshot is restored, or not for foreseen reasons, and the
registry that comes of it is regular and can have its refusals checked again.
-/

namespace RuleBound

namespace Document

/-- Whether a document can be asked for a whole number: it is a number that is not infinite, a truth
value or a text. -/
def IsCount : Document → Prop
  | .bool _ | .integer _ | .text _ => True
  | .real x => x = .nan ∨ x.isFinite = true
  | .null | .list _ | .object _ => False

/-- Whether a document is an object with a field that is as asked. -/
def Has (d : Document) (name : String) (P : Document → Prop) : Prop :=
  ∃ v, d.require name = .ok v ∧ P v

/-- Whether a document is an object in which a field, if it is given, is as asked. -/
def MayHave (d : Document) (name : String) (P : Document → Prop) : Prop :=
  ∃ fields, d = .object fields ∧ ∀ v, field? fields name = some v → P v

/-- Whether a document is spelled in ASCII where it is shown. -/
def IsAscii (d : Document) : Prop := Text.isAscii d.shown = true

variable {α : Type} {d v default : Document} {name : String} {P : Document → Prop}

theorem guarded_toInteger (count : d.IsCount) : Guarded d.toInteger := by
  unfold toInteger
  split
  · exact failsBy_ok _
  · exact failsBy_ok _
  · next x =>
    split
    · exact failsBy_error rfl
    · rcases count with undefined | finite
      · cases undefined
      · cases finite
    · split
      · exact failsBy_ok _
      · next nan infinite _ none =>
        cases x with
        | nan => exact absurd rfl nan
        | infinite s => exact absurd rfl (infinite s)
        | finite s m e => cases e <;> cases none
  · split
    · exact failsBy_ok _
    · exact failsBy_error rfl
    · exact failsBy_error rfl
  all_goals exact count.elim

theorem isAscii_null : IsAscii .null := by
  change Text.isAscii "None" = true
  decide

theorem isCount_integer (n : Int) : IsCount (.integer n) := trivial

theorem Has.guarded (has : d.Has name P) : Guarded (d.require name) := by
  obtain ⟨v, found, -⟩ := has
  exact failsBy_of_exists ⟨v, found⟩

theorem Has.of_require (has : d.Has name P) (found : d.require name = .ok v) : P v := by
  obtain ⟨v', found', asked⟩ := has
  cases found'.symm.trans found
  exact asked

/-- An object can be asked for any field that may be missing. -/
theorem MayHave.guarded (has : d.MayHave name P) {other : String} :
    Guarded (d.lookup other default) := by
  obtain ⟨fields, rfl, -⟩ := has
  exact failsBy_ok _

/-- A field that is as asked if it is given is so if it is replaced by something usual else. -/
theorem of_getD {fields : List (String × Document)}
    (asked : ∀ v, field? fields name = some v → P v) (usual : P default) :
    P ((field? fields name).getD default) := by
  cases given : field? fields name with
  | none => exact usual
  | some v => exact asked v given

theorem MayHave.of_lookup (has : d.MayHave name P) (usual : P default)
    (found : d.lookup name default = .ok v) : P v := by
  obtain ⟨fields, rfl, asked⟩ := has
  cases found
  exact of_getD asked usual

/-- A count that has to be there is read. -/
theorem Has.bind_count (has : d.Has name IsCount) {g : Int → Except Fault α}
    (rest : ∀ n, Guarded (g n)) : Guarded (d.require name >>= fun v => v.toInteger >>= g) :=
  has.guarded.bind fun _ found => (guarded_toInteger (has.of_require found)).bind fun n _ => rest n

/-- A count that may be missing is read. -/
theorem MayHave.bind_count (has : d.MayHave name IsCount) {n : Int} {g : Int → Except Fault α}
    (rest : ∀ n, Guarded (g n)) :
    Guarded (d.lookup name (.integer n) >>= fun v => v.toInteger >>= g) :=
  has.guarded.bind fun _ found =>
    (guarded_toInteger (has.of_lookup (isCount_integer n) found)).bind fun n _ => rest n

end Document

open Document

/-! ## Rules and records -/

/-- Whether a document can be read as rules: the scope is the name of one if it is a text. -/
structure CompactRules.IsLegible (d : Document) : Prop where
  scope : d.MayHave "access_type" fun v => ∀ s, v = .text s → ∃ a, s = AccessScope.name a
  flags : ∀ name ∈ ["forbid_copy", "forbid_forward", "forbid_export", "lock_on_violation",
    "require_identity"], d.MayHave name fun _ => True
  counts : ∀ name ∈ ["expiry", "max_uses", "version"], d.MayHave name IsCount

/-- Whether a document can be read as a record: what has to be there is there, the kind is the name
of one, and the whitelist is one of texts. -/
structure Record.IsLegible (d : Document) : Prop where
  id : d.Has "id" IsCount
  texts : ∀ name ∈ ["creator", "metadata_pointer"], d.Has name fun _ => True
  kind : d.Has "rdo_type" fun v => ∃ kind, v = .text (ObjectKind.name kind)
  rulesHash : d.Has "rules_hash" IsAscii
  rules : d.Has "rules" CompactRules.IsLegible
  whitelist : d.MayHave "whitelist" fun v => ∃ texts, v = .list (Members.documents texts)
  locked : d.MayHave "locked" fun _ => True
  counts : ∀ name ∈ ["created_at", "violation_count", "uses_remaining"], d.MayHave name IsCount

/-- Whether a document can be read as an event: what it names its object by and the rules it cites
can be compared. -/
structure Event.IsLegible (d : Document) : Prop where
  object : d.MayHave "rdo_id" fun v => v.isScalar = true
  rulesHash : d.MayHave "rules_hash" fun v => ∃ s, v = .text s ∧ Text.isAscii s = true

/-- Whether a document can be read as a record of an event. -/
structure LogRecord.IsLegible (d : Document) : Prop where
  sequence : d.Has "sequence_number" IsCount
  event : d.Has "event" Event.IsLegible
  stream : d.Has "stream_id" fun _ => True
  version : d.Has "version" IsCount
  reference : d.MayHave "tx_ref" IsAscii

/-- Whether a document can be read as a snapshot. -/
structure Registry.IsLegible (d : Document) : Prop where
  events : d.MayHave "events" fun v => ∃ items, v = .list items ∧ ∀ e ∈ items, LogRecord.IsLegible e
  records : d.MayHave "records" fun v => ∃ items, v = .list items ∧ ∀ r ∈ items, Record.IsLegible r
  next : d.MayHave "next_id" IsCount

variable {d : Document}

/-- The name of a member of a vocabulary is found. -/
theorem exists_byName {α : Type} {all : List α} {name : α → String} {a : α} (mem : a ∈ all) :
    ∃ b, byName all name (.text (name a)) = .ok b := by
  unfold byName
  have found : (all.find? fun b => Document.text (name a) == .text (name b)).isSome = true :=
    List.find?_isSome.mpr ⟨a, mem, beq_self_eq_true _⟩
  obtain ⟨b, is⟩ := Option.isSome_iff_exists.mp found
  rw [is]
  exact ⟨b, rfl⟩

theorem CompactRules.IsLegible.guarded (legible : IsLegible d) : Guarded (ofDocument d) := by
  have flag {name : String} (known : name ∈ ["forbid_copy", "forbid_forward", "forbid_export",
      "lock_on_violation", "require_identity"]) : Guarded (do
      return .bool (← d.lookup name (.bool false)).isTrue : Except Fault Document) :=
    (legible.flags name known).guarded.bind fun _ _ => failsBy_ok _
  have whole {name : String} (known : name ∈ ["expiry", "max_uses", "version"]) (n : Int) :
      Guarded (do return .integer (← (← d.lookup name (.integer n)).toInteger) :
        Except Fault Document) :=
    (legible.counts name known).bind_count fun _ => failsBy_ok _
  refine legible.scope.guarded.bind fun v found => FailsBy.bind ?_ fun _ _ =>
    (flag (by simp)).bind fun _ _ => (flag (by simp)).bind fun _ _ => (flag (by simp)).bind fun _ _ =>
    (whole (by simp) _).bind fun _ _ => (whole (by simp) _).bind fun _ _ =>
    (flag (by simp)).bind fun _ _ => (flag (by simp)).bind fun _ _ =>
    (whole (by simp) _).bind fun _ _ => failsBy_ok _
  have scope := legible.scope.of_lookup (by rintro s ⟨⟩; exact ⟨.any, rfl⟩) found
  unfold scopeOf
  split
  · next s =>
    obtain ⟨a, rfl⟩ := scope s rfl
    exact failsBy_of_exists (exists_byName (by cases a <;> decide))
  · unfold AccessScope.ofNumber byNumber
    split
    · exact failsBy_ok _
    · exact failsBy_error rfl

namespace Record

theorem IsLegible.of_whitelist (legible : IsLegible d) {v : Document}
    (found : d.lookup "whitelist" (.list []) = .ok v) :
    ∃ texts, v = .list (Members.documents texts) :=
  legible.whitelist.of_lookup ⟨[], rfl⟩ found

theorem IsLegible.guarded (legible : IsLegible d) : Guarded (ofDocument d) := by
  have text {name : String} (known : name ∈ ["creator", "metadata_pointer"]) :
      Guarded (d.require name) := (legible.texts name known).guarded
  have count {name : String} (known : name ∈ ["created_at", "violation_count", "uses_remaining"]) :=
    legible.counts name known
  refine legible.id.bind_count fun _ => (text (by simp)).bind fun _ _ =>
    legible.kind.guarded.bind fun _ named => FailsBy.bind ?_ fun _ _ =>
    legible.rulesHash.guarded.bind fun _ _ => legible.rules.guarded.bind fun _ ruled =>
    (legible.rules.of_require ruled).guarded.bind fun _ _ =>
    legible.whitelist.guarded.bind fun _ found => FailsBy.bind ?_ fun items listed =>
    FailsBy.bind ?_ fun _ _ => (text (by simp)).bind fun _ _ => (count (by simp)).bind_count fun _ =>
    legible.locked.guarded.bind fun _ _ => (count (by simp)).bind_count fun _ =>
    (count (by simp)).bind_count fun _ => failsBy_ok _
  · obtain ⟨kind, rfl⟩ := legible.kind.of_require named
    exact failsBy_of_exists (exists_byName (by cases kind <;> decide))
  · obtain ⟨texts, rfl⟩ := legible.of_whitelist found
    exact failsBy_ok _
  · obtain ⟨texts, rfl⟩ := legible.of_whitelist found
    cases listed
    exact failsBy_of_exists ⟨_, Members.distinctMembers_documents texts⟩

/-- A record that is read from a legible document has a whitelist with an order, and commits to rules
by something that is spelled in ASCII. -/
theorem IsLegible.of_ofDocument (legible : IsLegible d) {id : Int} {r : Record}
    (read : ofDocument d = .ok (id, r)) : (∃ members, r.sortedWhitelist = .ok members) ∧
      ∃ s, r.rulesHash = .text s ∧ Text.isAscii s = true := by
  obtain ⟨_, _, hash, _, _, listed, items, whitelist, _, _, _, _, _, hashed, -, -, found, split,
    distinct, rfl⟩ := Registry.exists_of_recordDocument read
  refine ⟨?_, _, rfl, legible.rulesHash.of_require hashed⟩
  obtain ⟨texts, rfl⟩ := legible.of_whitelist found
  cases split
  cases (Members.distinctMembers_documents texts).symm.trans distinct
  exact ⟨_, Members.sortedMembers_documents _⟩

end Record

/-! ## Events -/

namespace LogRecord

variable {s : Surroundings} {drawn drawn' : Nat}

theorem IsLegible.guarded (legible : IsLegible d) (s : Surroundings) (drawn : Nat) :
    Guarded (ofDocument s drawn d).2 := by
  have head : Guarded (do
      let sequence ← (← d.require "sequence_number").toInteger
      return (sequence, ← d.require "event") : Except Fault (Int × Document)) :=
    legible.sequence.bind_count fun _ => legible.event.guarded.bind fun _ _ => failsBy_ok _
  have event : ∀ body, d.require "event" = .ok body → Guarded (Event.ofDocument s drawn body).2 := by
    intro body found
    have named : Guarded (Event.classOf body) := by
      refine (legible.event.of_require found).object.guarded.bind fun name _ => ?_
      split
      · split
        · exact failsBy_error rfl
        · exact failsBy_ok _
      · exact failsBy_error rfl
    unfold Event.ofDocument
    split
    · next f failed => exact failsBy_error (named.reason f failed)
    · exact failsBy_ok _
  unfold ofDocument
  extract_lets first
  replace head : Guarded first := head
  cases reads : first with
  | error f => exact failsBy_error (head.reason f reads)
  | ok found =>
    obtain ⟨_, -, rest⟩ := bind_eq_ok_iff.mp reads
    obtain ⟨_, -, rest⟩ := bind_eq_ok_iff.mp rest
    obtain ⟨body, found, rest⟩ := bind_eq_ok_iff.mp rest
    cases rest
    replace event := event body found
    dsimp only
    split
    · next f failed =>
      rw [failed] at event
      exact failsBy_error (event.reason f rfl)
    · next drawn' e _ =>
      refine legible.stream.guarded.bind fun _ _ => legible.version.bind_count fun _ =>
        legible.reference.guarded.bind fun given _ => ?_
      dsimp only
      split
      · exact failsBy_ok _
      · exact e.toDocument.guarded_canonicalDigest.bind fun _ _ => failsBy_ok _

/-- Whether a record of an event can be compared, if it is one of a refusal: its reference is ASCII,
and the rules it cites are named by something that is. -/
def IsPlain (l : LogRecord) : Prop :=
  ∀ id actor action rulesHash reason, l.event.body = .refused id actor action rulesHash reason →
    Text.isAscii l.reference = true ∧ id.isScalar = true ∧
      ∃ t, rulesHash = .text t ∧ Text.isAscii t = true

theorem IsLegible.isPlain (legible : IsLegible d) {s : Surroundings} {drawn drawn' : Nat}
    {l : LogRecord} (read : ofDocument s drawn d = (drawn', .ok l)) : l.IsPlain := by
  unfold ofDocument at read
  extract_lets first at read
  cases reads : first with
  | error f =>
    rw [reads] at read
    cases read
  | ok found =>
    rw [reads] at read
    obtain ⟨_, -, rest⟩ := bind_eq_ok_iff.mp reads
    obtain ⟨_, -, rest⟩ := bind_eq_ok_iff.mp rest
    obtain ⟨body, found, rest⟩ := bind_eq_ok_iff.mp rest
    cases rest
    obtain ⟨⟨fields, rfl, object⟩, ⟨_, ⟨⟩, cited⟩⟩ := legible.event.of_require found
    dsimp only at read
    unfold Event.ofDocument at read
    split at read
    · cases read
    · next e made =>
      split at made
      · cases made
      · next c _ =>
        cases made
        obtain ⟨-, read⟩ := Prod.mk.inj read
        obtain ⟨_, -, read⟩ := bind_eq_ok_iff.mp read
        obtain ⟨_, -, read⟩ := bind_eq_ok_iff.mp read
        obtain ⟨_, -, read⟩ := bind_eq_ok_iff.mp read
        obtain ⟨given, gave, read⟩ := bind_eq_ok_iff.mp read
        have parts : Text.isAscii l.reference = true ∧ l.event.body = EventBody.ofFields c fields := by
          dsimp only at read
          split at read
          · cases read
            exact ⟨legible.reference.of_lookup isAscii_null gave, rfl⟩
          · obtain ⟨reference, digested, read⟩ := bind_eq_ok_iff.mp read
            obtain ⟨text, -, rfl⟩ := map_eq_ok_iff.mp digested
            cases read
            exact ⟨(Sha256.isHex_ofBytes _).isAscii, rfl⟩
        intro id actor action rulesHash reason body
        rw [parts.2] at body
        refine ⟨parts.1, ?_⟩
        cases c with
        | refused =>
          cases body
          exact ⟨of_getD object rfl, of_getD cited ⟨"", rfl, rfl⟩⟩
        | _ => cases body

end LogRecord

/-- Records of events that are legible are read, or not for foreseen reasons, and can be compared. -/
theorem EventLog.loadAll_of_legible {items : List Document}
    (legible : ∀ item ∈ items, LogRecord.IsLegible item) (s : Surroundings) (drawn : Nat)
    (log : EventLog) : Guarded (loadAll s drawn log items).2 ∧
      ((∀ l ∈ log.records, l.IsPlain) → ∀ log', (loadAll s drawn log items).2 = .ok log' →
        ∀ l ∈ log'.records, l.IsPlain) := by
  induction items generalizing drawn log with
  | nil =>
    refine ⟨failsBy_ok log, fun plain log' read => ?_⟩
    cases read
    exact plain
  | cons item rest ih =>
    rw [List.forall_mem_cons] at legible
    have guarded := legible.1.guarded s drawn
    rw [loadAll]
    cases read : LogRecord.ofDocument s drawn item with
    | mk drawn' r =>
    cases r with
    | error f =>
      rw [read] at guarded
      exact ⟨failsBy_error (guarded.reason f rfl), fun _ _ loaded => by cases loaded⟩
    | ok l =>
      obtain ⟨guarded, plain⟩ := ih legible.2 drawn' (log.load l)
      refine ⟨guarded, fun old => plain fun l' mem => ?_⟩
      rcases List.mem_append.mp mem with known | new
      · exact old l' known
      · rw [List.mem_singleton.mp new]
        exact legible.1.isPlain read

namespace Registry

variable {reg : Registry} {s : Surroundings} {drawn : Nat}

/-- The records of a legible snapshot are regular and commit to rules by something that can be
compared. -/
theorem IsLegible.of_ofParts (legible : IsLegible d) {log : EventLog} (read : ofParts d log = .ok reg) :
    reg.log = log ∧ ∀ e ∈ reg.records, e.2.IsRegular ∧
      ∃ s, e.2.rulesHash = .text s ∧ Text.isAscii s = true := by
  obtain ⟨log, listed, items, found, split, each⟩ := exists_of_ofParts read
  obtain ⟨_, rfl, fine⟩ := legible.records.of_lookup ⟨[], rfl, List.forall_mem_nil _⟩ found
  cases split
  refine ⟨log, fun e mem => ?_⟩
  obtain ⟨item, mem', made⟩ := each e mem
  obtain ⟨ordered, hash⟩ := (fine item mem').of_ofDocument made
  exact ⟨⟨isMade_of_recordDocument made, ordered⟩, hash⟩

/-- A legible snapshot is restored, or not for foreseen reasons. -/
theorem IsLegible.guarded_restore (legible : IsLegible d) : Guarded (restore s drawn d).2 := by
  have events : Guarded (d.lookup "events" (.list [])) := legible.events.guarded
  unfold restore
  cases found : d.lookup "events" (.list []) with
  | error f => exact failsBy_error (events.reason f found)
  | ok items =>
    obtain ⟨items, rfl, fine⟩ := legible.events.of_lookup ⟨[], rfl, List.forall_mem_nil _⟩ found
    have log := (EventLog.loadAll_of_legible fine s drawn {}).1
    dsimp only
    split
    · next f failed => 
      change EventLog.loadAll s drawn {} items = _ at failed
      rw [failed] at log
      exact failsBy_error (log.reason f rfl)
    · refine legible.records.guarded.bind fun listed found => FailsBy.bind ?_ fun items split =>
        FailsBy.bind (failsBy_mapM fun item mem => ?_) fun _ _ => legible.next.bind_count fun _ =>
          failsBy_ok _
      all_goals
        obtain ⟨items', rfl, fine⟩ := legible.records.of_lookup ⟨[], rfl, List.forall_mem_nil _⟩ found
      · exact failsBy_ok _
      · cases split
        exact (fine item mem).guarded

/-- A registry that is restored from a legible snapshot is regular, and its refusals can be
compared. -/
theorem IsLegible.of_restore (legible : IsLegible d) (restored : (restore s drawn d).2 = .ok reg) :
    reg.IsRegular ∧ reg.HasPlainRefusals := by
  unfold restore at restored
  split at restored
  · cases restored
  · next listed found =>
    split at restored
    · cases restored
    · next log read =>
      obtain ⟨items, rfl, fine⟩ := legible.events.of_lookup ⟨[], rfl, List.forall_mem_nil _⟩ found
      have plain := (EventLog.loadAll_of_legible fine s drawn {}).2 (List.forall_mem_nil _) log
        (congrArg Prod.snd read)
      obtain ⟨rfl, records⟩ := legible.of_ofParts restored
      refine ⟨fun e mem => (records e mem).1, fun l mem id actor action rulesHash reason body => ?_⟩
      obtain ⟨ascii, scalar, t, rfl, cited⟩ := plain l mem id actor action rulesHash reason body
      refine ⟨ascii, scalar, fun r named => ?_⟩
      unfold namedRecord? at named
      rw [if_pos scalar, Except.ok.injEq, Option.map_eq_some_iff] at named
      obtain ⟨e, known, rfl⟩ := named
      obtain ⟨s, is, hash⟩ := (records e (List.mem_of_find?_eq_some known)).2
      exact ⟨s, t, is, rfl, hash, cited⟩

end Registry

end RuleBound
