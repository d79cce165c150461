import Mathlib.Data.List.DropRight
import Mathlib.Data.List.Forall2
import RuleBound.Proofs.Event.Written

/-!
What a log tells. A log is appended to, and at times replaced by what a reader makes of its text. It
tells of the events whose appending was answered: all of them in their order, numbered from one on,
each stream numbered by itself, and each event under its digest.

Numbers stay in step exactly if no append is answered behind one that failed, unless the log was
reloaded in between: an append that fails has used up a number.
-/

namespace RuleBound

open Document (Every IsExact IsShort HasDistinctNames)

namespace EventLog

/-! ## What a log tells -/

/-- The first numbers, from one on. -/
def numbers (n : Nat) : List Int := (List.range n).map fun i : Nat => (i : Int) + 1

theorem numbers_succ (n : Nat) : numbers (n + 1) = numbers n ++ [(n : Int) + 1] := by
  rw [numbers, List.range_succ, List.map_append]
  rfl

theorem mem_numbers_iff {n : Nat} {i : Int} : i ∈ numbers n ↔ 1 ≤ i ∧ i ≤ n := by
  simp only [numbers, List.mem_map, List.mem_range]
  constructor
  · rintro ⟨k, small, rfl⟩
    omega
  · rintro ⟨pos, small⟩
    exact ⟨(i - 1).toNat, by omega, by omega⟩

theorem foldl_max_numbers (n : Nat) : (numbers n).foldl max 0 = n := by
  induction n with
  | zero => rfl
  | succ n ih =>
    rw [numbers_succ, List.foldl_append, ih, List.foldl_cons, List.foldl_nil]
    omega

/-- The records of one stream. -/
def ofStream (name : String) (records : List LogRecord) : List LogRecord :=
  records.filter fun r => decide (r.stream = .text name)

/-- Whether records are those of told events: of all of them in their order, each beside the name of
its stream, and numbered from one on. -/
structure Lists (records : List LogRecord) (told : List (String × Event)) : Prop where
  numbered : records.map LogRecord.sequence = numbers told.length
  whole : records.map (fun r => (r.stream, r.event)) =
    told.map fun p => (Document.text p.1, p.2)

/-- Whether the records of each stream are numbered from one on. -/
def Versions (records : List LogRecord) : Prop :=
  ∀ name, (ofStream name records).map LogRecord.version = numbers (ofStream name records).length

/-- Whether a log tells of events in their streams: reading it all answers with records that list
them; reading a stream answers with those of its name, numbered from one on; and of the events that
have a digest, in whatever case it is written, the latest is found under it. -/
structure Tells (log : EventLog) (told : List (String × Event)) (records : List LogRecord) :
    Prop where
  all : log.page (.integer 0) .null = .ok records
  lists : Lists records told
  streams : ∀ name, log.read (.text name) = .ok (ofStream name records)
  versions : Versions records
  found : ∀ t r, log.find? t = some r ↔
    ∃ before behind, records = before ++ r :: behind ∧ r.event.digest = .ok (Text.lower t) ∧
      ∀ r' ∈ behind, r'.event.digest ≠ .ok (Text.lower t)

variable {log : EventLog} {records : List LogRecord} {told : List (String × Event)} {r : LogRecord}
  {p : String × Event}

theorem Lists.length_eq (lists : Lists records told) : records.length = told.length := by
  simpa using congrArg List.length lists.whole

theorem Lists.exists_told (lists : Lists records told) (mem : r ∈ records) :
    ∃ p ∈ told, r.stream = .text p.1 ∧ r.event = p.2 := by
  have within := List.mem_map_of_mem (f := fun r => (r.stream, r.event)) mem
  rw [lists.whole] at within
  obtain ⟨p, mem', is⟩ := List.mem_map.mp within
  obtain ⟨stream, event⟩ := Prod.mk.inj is
  exact ⟨p, mem', stream.symm, event.symm⟩

theorem Lists.exists_record (lists : Lists records told) (mem : p ∈ told) :
    ∃ r ∈ records, r.stream = .text p.1 ∧ r.event = p.2 := by
  have within := List.mem_map_of_mem (f := fun p => (Document.text p.1, p.2)) mem
  rw [← lists.whole] at within
  obtain ⟨r, mem', is⟩ := List.mem_map.mp within
  obtain ⟨stream, event⟩ := Prod.mk.inj is
  exact ⟨r, mem', stream, event⟩

theorem lists_concat_iff : Lists (records ++ [r]) (told ++ [p]) ↔
    Lists records told ∧ r.sequence = (told.length : Int) + 1 ∧ r.stream = .text p.1 ∧
      r.event = p.2 := by
  constructor
  · rintro ⟨numbered, whole⟩
    rw [List.length_append, List.length_singleton, numbers_succ, List.map_append] at numbered
    rw [List.map_append, List.map_append] at whole
    obtain ⟨numbered, last⟩ := List.append_inj' numbered rfl
    obtain ⟨whole, last'⟩ := List.append_inj' whole rfl
    simp only [List.map_cons, List.map_nil, List.cons.injEq, and_true, Prod.mk.injEq] at last last'
    exact ⟨⟨numbered, whole⟩, last, last'⟩
  · rintro ⟨⟨numbered, whole⟩, last, stream, event⟩
    refine ⟨?_, ?_⟩
    · rw [List.length_append, List.length_singleton, numbers_succ, List.map_append, numbered,
        List.map_singleton, last]
    · rw [List.map_append, List.map_append, whole, List.map_singleton, List.map_singleton, stream,
        event]

/-- The counter of a log that is read back is the number of its records. -/
theorem Lists.lastNumber_eq (lists : Lists records told) : lastNumber records = told.length := by
  rw [lastNumber, lists.numbered, foldl_max_numbers]

theorem Versions.concat (versions : Versions records) {name : String} (named : r.stream = .text name)
    (next : r.version = ((ofStream name records).length : Int) + 1) : Versions (records ++ [r]) := by
  intro other
  by_cases same : other = name
  · have one : ofStream other (records ++ [r]) = ofStream other records ++ [r] := by
      rw [ofStream, List.filter_append, List.filter_cons_of_pos (by simp [named, same])]
      rfl
    rw [one, List.map_append, versions other, List.length_append, List.length_singleton,
      numbers_succ, List.map_singleton, next, same]
  · have none : ofStream other (records ++ [r]) = ofStream other records := by
      rw [ofStream, List.filter_append, List.filter_cons_of_neg (by simpa [named] using Ne.symm same),
        List.filter_nil, List.append_nil]
      rfl
    rw [none, versions other]

/-- The number of listed events is short if the numbers of their records are. -/
theorem Lists.short_length (lists : Lists records told)
    (short : ∀ r ∈ records, IsShort (.integer r.sequence)) : IsShort (.integer told.length) := by
  cases none : told.length with
  | zero => exact Document.isShort_zero
  | succ n =>
    have last : ((n + 1 : Nat) : Int) ∈ records.map LogRecord.sequence := by
      rw [lists.numbered, none, mem_numbers_iff]
      omega
    obtain ⟨r, mem, same⟩ := List.mem_map.mp last
    exact same ▸ short r mem

/-- The numbers of records are short if the number of events that they list is: neither in the log
nor in a stream does a record have a higher one. -/
theorem Lists.short_numbers (lists : Lists records told) (versions : Versions records)
    (short : IsShort (.integer told.length)) (mem : r ∈ records) :
    IsShort (.integer r.sequence) ∧ IsShort (.integer r.version) := by
  have small : ∀ i : Int, 1 ≤ i → i ≤ told.length → IsShort (.integer i) := by
    intro i pos most
    have whole : told.length < 10 ^ Document.numeralLimit := short
    change i.natAbs < 10 ^ Document.numeralLimit
    omega
  constructor
  · have number := List.mem_map_of_mem (f := LogRecord.sequence) mem
    rw [lists.numbered, mem_numbers_iff] at number
    exact small _ number.1 number.2
  · obtain ⟨p, -, stream, -⟩ := lists.exists_told mem
    have here : r ∈ ofStream p.1 records := by simp [ofStream, mem, stream]
    have number := List.mem_map_of_mem (f := LogRecord.version) here
    rw [versions, mem_numbers_iff] at number
    have most : (ofStream p.1 records).length ≤ records.length := List.length_filter_le _ _
    rw [lists.length_eq] at most
    exact small _ number.1 (number.2.trans (by omega))

theorem stream_text (log : EventLog) (name : String) :
    log.stream (.text name) = ofStream name log.records := by
  have agrees : ∀ d : Document, d.agrees (.text name) = decide (d = .text name) := by
    intro d
    cases d with
    | text s => exact Bool.eq_iff_iff.mpr (by simp [Document.agrees])
    | _ => rfl
  simp only [stream, ofStream, agrees]

/-- The record that is found under a reference is the latest whose event has it as its digest. -/
theorem find?_eq_some_iff (genuine : ∀ r ∈ log.records, r.IsGenuine) (t : String) (r : LogRecord) :
    log.find? t = some r ↔ ∃ before behind, log.records = before ++ r :: behind ∧
      r.event.digest = .ok (Text.lower t) ∧ ∀ r' ∈ behind, r'.event.digest ≠ .ok (Text.lower t) := by
  have bears : ∀ r ∈ log.records, (r.reference == Text.lower t) = true ↔
      r.event.digest = .ok (Text.lower t) := by
    intro r mem
    rw [(genuine r mem).digest, Except.ok.injEq, beq_iff_eq]
  rw [find?, List.find?_eq_some_iff_append]
  constructor
  · rintro ⟨here, behind, before, split, later⟩
    have records : log.records = before.reverse ++ r :: behind.reverse := by
      rw [← List.reverse_reverse log.records, split]
      simp
    have mem : r ∈ log.records := by rw [records]; simp
    refine ⟨_, _, records, (bears r mem).mp here, fun r' within is => ?_⟩
    have mem' : r' ∈ log.records := by rw [records]; simp [List.mem_reverse.mp within]
    have other := later r' (List.mem_reverse.mp within)
    rw [(bears r' mem').mpr is] at other
    cases other
  · rintro ⟨before, behind, records, here, later⟩
    have mem : r ∈ log.records := by rw [records]; simp
    refine ⟨(bears r mem).mpr here, behind.reverse, before.reverse, by simp [records], ?_⟩
    intro r' within
    have mem' : r' ∈ log.records := by rw [records]; simp [List.mem_reverse.mp within]
    rw [Bool.not_eq_true', Bool.eq_false_iff, ne_eq, bears r' mem']
    exact later r' (List.mem_reverse.mp within)

/-- A log of genuine records tells of what they list if each stream is numbered by itself. -/
theorem tells_of_lists (genuine : ∀ r ∈ log.records, r.IsGenuine) (lists : Lists log.records told)
    (versions : Versions log.records) : log.Tells told log.records where
  all := by
    simp only [page, boundOf, slice, clampIndex, ok_bind]
    simp [pure, Except.pure]
  lists := lists
  streams name := by
    rw [read, if_pos (by rfl), stream_text]
  versions := versions
  found := find?_eq_some_iff genuine

end EventLog

/-! ## Moves -/

/-- What is done with a log: an event is appended to the stream of a name, or the log gives way to
what a reader makes of its text. -/
inductive LogMove
  | append (stream : String) (event : Event)
  | reload (s : Surroundings) (drawn : Nat)

namespace LogMove

open EventLog

/-- Whether a move is a reload. -/
def isReload : LogMove → Bool
  | append _ _ => false
  | reload _ _ => true

/-- What a move tells: an event that has a digest, beside the name of its stream. -/
def told? : LogMove → Option (String × Event)
  | append stream event => if event.digest.isOk then some (stream, event) else none
  | reload _ _ => none

/-- A log after a move. An append that fails leaves the log as it has become by then. -/
def run (log : EventLog) : LogMove → Except Fault EventLog
  | append stream event => .ok (log.append (.text stream) event).1
  | reload s drawn => log.reload s drawn

/-- The log after moves that begin with the empty one, if no reload fails. -/
def logAfter (moves : List LogMove) : Except Fault EventLog := moves.foldlM run {}

/-- What moves tell, in order. -/
def told (moves : List LogMove) : List (String × Event) := moves.filterMap told?

/-- Whether no append has failed since the last reload. -/
def AreSettled (moves : List LogMove) : Prop :=
  ∀ m ∈ moves.rtakeWhile (fun m => !m.isReload), m.told?.isSome = true

/-- Whether told events can be written and read back: they are of classes of their own, no name of a
stream has the halves of a pair side by side, and their number is not too long. -/
structure AreReloadable (told : List (String × Event)) : Prop where
  short : IsShort (.integer told.length)
  special : ∀ p ∈ told, p.2.eventClass ≠ .general
  stable : ∀ p ∈ told, Text.reread true p.1 = p.1

/-- Whether a move behind others keeps the log in step: an append that is answered if no append has
failed since the last reload, a reload if what was told can be read back. -/
def Fits (before : List LogMove) : LogMove → Prop
  | append _ event => event.digest.isOk = true → AreSettled before
  | reload _ _ => AreReloadable (told before)

/-- Whether each of some moves keeps the log in step. -/
def AreInStep (moves : List LogMove) : Prop :=
  ∀ before m behind, moves = before ++ m :: behind → m.Fits before

/-- Whether names are distinct in the objects that the event of a move holds. -/
def IsDistinct : LogMove → Prop
  | append _ event => ∀ f ∈ event.fields, Every HasDistinctNames f.2
  | reload _ _ => True

variable {moves : List LogMove} {log log' : EventLog} {m : LogMove} {stream : String} {event : Event}

/-! ### One move more -/

theorem areInStep_concat_iff : AreInStep (moves ++ [m]) ↔ AreInStep moves ∧ m.Fits moves := by
  constructor
  · intro inStep
    refine ⟨fun before m' behind is => ?_, inStep moves m [] rfl⟩
    exact inStep before m' (behind ++ [m]) (by rw [is, List.append_assoc, List.cons_append])
  · rintro ⟨inStep, fits⟩ before m' behind is
    rcases List.eq_nil_or_concat' behind with rfl | ⟨behind, last, rfl⟩
    · obtain ⟨rfl, same⟩ := List.append_inj' is rfl
      rw [List.singleton_inj] at same
      exact same ▸ fits
    · rw [← List.cons_append, ← List.append_assoc] at is
      exact inStep before m' behind (List.append_inj' is rfl).1

theorem logAfter_concat (moves : List LogMove) (m : LogMove) :
    logAfter (moves ++ [m]) = logAfter moves >>= fun log => run log m := by
  rw [logAfter, List.foldlM_append]
  simp only [List.foldlM_cons, List.foldlM_nil, bind_pure]
  rfl

theorem told_reload (s : Surroundings) (drawn : Nat) :
    told (moves ++ [reload s drawn]) = told moves := by
  rw [told, List.filterMap_append]
  exact List.append_nil _

theorem told_of_ok {reference : String} (digest : event.digest = .ok reference) :
    told (moves ++ [append stream event]) = told moves ++ [(stream, event)] := by
  have telling : told? (append stream event) = some (stream, event) := by
    rw [told?, digest]
    rfl
  rw [told, List.filterMap_append, List.filterMap_cons_some telling]
  rfl

theorem told_of_error {f : Fault} (digest : event.digest = .error f) :
    told (moves ++ [append stream event]) = told moves := by
  have silent : told? (append stream event) = none := by
    rw [told?, digest]
    rfl
  rw [told, List.filterMap_append, List.filterMap_cons_none silent]
  exact List.append_nil _

theorem areSettled_reload (s : Surroundings) (drawn : Nat) :
    AreSettled (moves ++ [reload s drawn]) := by
  rw [AreSettled, List.rtakeWhile_concat_neg _ _ _ (by simp [isReload])]
  exact List.forall_mem_nil _

theorem areSettled_append_iff : AreSettled (moves ++ [append stream event]) ↔
    AreSettled moves ∧ event.digest.isOk = true := by
  rw [AreSettled, List.rtakeWhile_concat_pos _ _ _ (by simp [isReload]), List.forall_mem_append,
    List.forall_mem_singleton, told?]
  cases event.digest.isOk <;> simp [AreSettled]

/-- An append that is answered adds a record with the next number of the log and the next of its
stream. -/
theorem append_of_ok {reference : String} (digest : event.digest = .ok reference) :
    (log.append (.text stream) event).1 = ⟨log.records ++ [⟨log.sequence + 1, event, .text stream,
      ((ofStream stream log.records).length : Int) + 1, reference⟩], log.sequence + 1⟩ := by
  have scalar : (!(Document.text stream).isScalar) = false := by rfl
  unfold EventLog.append
  rw [scalar, if_neg Bool.false_ne_true, stream_text]
  simp only [digest]

/-- An append that fails has used up a number. -/
theorem append_of_error {f : Fault} (digest : event.digest = .error f) :
    (log.append (.text stream) event).1 = { log with sequence := log.sequence + 1 } := by
  have scalar : (!(Document.text stream).isScalar) = false := by rfl
  unfold EventLog.append
  rw [scalar, if_neg Bool.false_ne_true]
  simp only [digest]

/-! ### Whatever the moves -/

/-- Whether a record is of a told event, in the stream of its name or of a shorter one. -/
def IsOf (r : LogRecord) (p : String × Event) : Prop :=
  r.event = p.2 ∧ ∃ name, r.stream = .text name ∧ (name = p.1 ∨ name.length < p.1.length)

/-- A record that is read back is of what it was of. -/
theorem IsOf.reread {r : LogRecord} {p : String × Event} (is : IsOf r p) : IsOf r.reread p := by
  obtain ⟨event, name, named, near⟩ := is
  refine ⟨event, Text.reread true name, by rw [LogRecord.reread, named]; rfl, ?_⟩
  rcases Text.reread_eq_or_lt true name with same | shorter
  · rwa [same]
  · rcases near with rfl | near
    · exact .inr shorter
    · exact .inr (shorter.trans near)

/-- Whatever the moves are, the records of the log are genuine, and they are those of the told
events but for names that have become shorter. -/
theorem genuine_of_logAfter (distinct : ∀ m ∈ moves, m.IsDistinct) (after : logAfter moves = .ok log) :
    (∀ r ∈ log.records, r.IsGenuine) ∧ List.Forall₂ IsOf log.records (told moves) := by
  induction moves using List.reverseRecOn generalizing log with
  | nil =>
    cases after
    exact ⟨List.forall_mem_nil _, .nil⟩
  | append_singleton moves m ih =>
    rw [List.forall_mem_append, List.forall_mem_singleton] at distinct
    rw [logAfter_concat, bind_eq_ok_iff] at after
    obtain ⟨before, earlier, moved⟩ := after
    obtain ⟨genuine, same⟩ := ih distinct.1 earlier
    cases m with
    | append stream event =>
      have log_eq := (Except.ok.inj moved).symm
      cases digest : event.digest with
      | error f =>
        rw [append_of_error digest] at log_eq
        rw [log_eq, told_of_error digest]
        exact ⟨genuine, same⟩
      | ok reference =>
        rw [append_of_ok digest] at log_eq
        rw [log_eq, told_of_ok digest]
        refine ⟨?_, List.rel_append same (.cons ⟨rfl, stream, rfl, .inl rfl⟩ .nil)⟩
        rw [List.forall_mem_append, List.forall_mem_singleton]
        exact ⟨genuine, ⟨stream, rfl⟩, digest, distinct.2⟩
    | reload s drawn =>
      obtain ⟨-, -, rfl⟩ := (reload_eq_ok_iff genuine).mp moved
      rw [told_reload]
      refine ⟨List.forall_mem_map.mpr fun r mem => (genuine r mem).reread, ?_⟩
      exact List.forall₂_map_left_iff.mpr (same.imp fun r p is => is.reread)

/-! ### Moves in step -/

/-- Records that list told events when they are read back listed them before, and no name of a
stream has changed. -/
theorem lists_of_reread {records : List LogRecord} {told : List (String × Event)}
    (same : List.Forall₂ IsOf records told) (lists : Lists (records.map LogRecord.reread) told) :
    Lists records told ∧ ∀ p ∈ told, Text.reread true p.1 = p.1 := by
  obtain ⟨numbered, whole⟩ := lists
  rw [List.map_map] at numbered whole
  have back : records.map (fun r => (r.stream, r.event)) = (told.map fun p => (.text p.1, p.2)) ∧
      ∀ p ∈ told, Text.reread true p.1 = p.1 := by
    clear numbered
    induction same with
    | nil => exact ⟨rfl, List.forall_mem_nil _⟩
    | @cons r p records told is same ih =>
      simp only [List.map_cons, List.cons.injEq, Function.comp_apply, Prod.mk.injEq] at whole
      obtain ⟨⟨stream, event⟩, whole⟩ := whole
      obtain ⟨-, name, named, near⟩ := is
      have back : Text.reread true name = p.1 := by
        rw [LogRecord.reread, named] at stream
        exact Document.text.inj stream
      have here : name = p.1 := by
        refine near.resolve_right fun shorter => ?_
        rw [← back] at shorter
        rcases Text.reread_eq_or_lt true name with kept | fewer
        · rw [kept] at shorter
          exact Nat.lt_irrefl _ shorter
        · exact Nat.lt_asymm shorter fewer
      obtain ⟨whole, stable⟩ := ih whole
      subst here
      rw [List.map_cons, List.map_cons, named, whole]
      exact ⟨by rw [← event]; rfl, List.forall_mem_cons.mpr ⟨back, stable⟩⟩
  exact ⟨⟨numbered, back.1⟩, back.2⟩

/-- Moves are in step if the log after them lists what they tell. The counter is never behind, and
it is ahead if an append has failed since the last reload. -/
theorem areInStep_of_lists (distinct : ∀ m ∈ moves, m.IsDistinct) (after : logAfter moves = .ok log)
    (lists : Lists log.records (told moves)) :
    AreInStep moves ∧ ((told moves).length : Int) ≤ log.sequence ∧
      (log.sequence = (told moves).length → AreSettled moves) := by
  induction moves using List.reverseRecOn generalizing log with
  | nil =>
    cases after
    exact ⟨fun before m behind is => by simp at is, Int.le_refl 0, fun _ => List.forall_mem_nil _⟩
  | append_singleton moves m ih =>
    rw [List.forall_mem_append, List.forall_mem_singleton] at distinct
    rw [logAfter_concat, bind_eq_ok_iff] at after
    obtain ⟨before, earlier, moved⟩ := after
    obtain ⟨genuine, same⟩ := genuine_of_logAfter distinct.1 earlier
    rw [areInStep_concat_iff]
    cases m with
    | append stream event =>
      rw [areSettled_append_iff]
      have log_eq := (Except.ok.inj moved).symm
      cases digest : event.digest with
      | error f =>
        rw [append_of_error digest] at log_eq
        rw [told_of_error digest, log_eq] at lists ⊢
        obtain ⟨inStep, ahead, -⟩ := ih distinct.1 earlier lists
        refine ⟨⟨inStep, fun answered => ?_⟩, Int.le_trans ahead (Int.le_add_of_nonneg_right ?_),
          fun level => ?_⟩
        · rw [digest] at answered
          cases answered
        · decide
        · dsimp only at level
          omega
      | ok reference =>
        rw [append_of_ok digest] at log_eq
        rw [told_of_ok digest, log_eq] at lists ⊢
        obtain ⟨lists, next, -⟩ := lists_concat_iff.mp lists
        obtain ⟨inStep, ahead, settled⟩ := ih distinct.1 earlier lists
        dsimp only at next
        have settled := settled (by omega)
        rw [List.length_append, List.length_singleton]
        exact ⟨⟨inStep, fun _ => settled⟩, by dsimp only; omega, fun _ => ⟨settled, rfl⟩⟩
    | reload s drawn =>
      obtain ⟨short, special, rfl⟩ := (reload_eq_ok_iff genuine).mp moved
      rw [told_reload] at lists ⊢
      obtain ⟨lists, stable⟩ := lists_of_reread same lists
      obtain ⟨inStep, -, -⟩ := ih distinct.1 earlier lists
      refine ⟨⟨inStep, lists.short_length fun r mem => (short r mem).1, ?_, stable⟩,
        Int.le_of_eq lists.lastNumber_eq.symm, fun _ => areSettled_reload s drawn⟩
      intro p mem
      obtain ⟨r, mem', -, event⟩ := lists.exists_record mem
      exact event ▸ special r mem'

/-- Records that list told events which can be read back are written, and come back as they were. -/
theorem reload_of_lists {s : Surroundings} {drawn : Nat} (genuine : ∀ r ∈ log.records, r.IsGenuine)
    {told : List (String × Event)} (lists : Lists log.records told) (versions : Versions log.records)
    (reloadable : AreReloadable told) :
    log.reload s drawn = .ok ⟨log.records, lastNumber log.records⟩ := by
  have special : ∀ r ∈ log.records, r.event.eventClass ≠ .general := by
    intro r mem
    obtain ⟨p, mem', -, event⟩ := lists.exists_told mem
    exact event ▸ reloadable.special p mem'
  have stays : log.records.map LogRecord.reread = log.records := by
    refine (List.map_congr_left fun r mem => ?_).trans (List.map_id _)
    obtain ⟨p, mem', stream, -⟩ := lists.exists_told mem
    have back : r.stream.reread .line = r.stream := by
      rw [stream]
      exact congrArg Document.text (reloadable.stable p mem')
    rw [LogRecord.reread, back, id]
  rw [reload_eq_ok_iff genuine, stays]
  exact ⟨fun r mem => lists.short_numbers versions reloadable.short mem, special, rfl⟩

/-- Moves in step lead to a log that lists what they tell and numbers each stream by itself. If no
append has failed since the last reload, its counter is at the number of records. -/
theorem exists_lists_of_areInStep (distinct : ∀ m ∈ moves, m.IsDistinct)
    (inStep : AreInStep moves) :
    ∃ log, logAfter moves = .ok log ∧ Lists log.records (told moves) ∧ Versions log.records ∧
      (AreSettled moves → log.sequence = (told moves).length) := by
  induction moves using List.reverseRecOn with
  | nil => exact ⟨{}, rfl, ⟨rfl, rfl⟩, fun _ => rfl, fun _ => rfl⟩
  | append_singleton moves m ih =>
    rw [List.forall_mem_append, List.forall_mem_singleton] at distinct
    obtain ⟨inStep, fits⟩ := areInStep_concat_iff.mp inStep
    obtain ⟨log, after, lists, versions, level⟩ := ih distinct.1 inStep
    obtain ⟨genuine, -⟩ := genuine_of_logAfter distinct.1 after
    rw [logAfter_concat, after, ok_bind]
    cases m with
    | append stream event =>
      rw [areSettled_append_iff]
      cases digest : event.digest with
      | error f =>
        rw [told_of_error digest]
        refine ⟨_, rfl, ?_, ?_, fun settled => ?_⟩
        · rwa [append_of_error digest]
        · rwa [append_of_error digest]
        · cases settled.2
      | ok reference =>
        have next := level (fits (by rw [digest]; rfl))
        rw [told_of_ok digest]
        refine ⟨_, rfl, ?_, ?_, fun _ => ?_⟩
        · rw [append_of_ok digest, next]
          exact lists_concat_iff.mpr ⟨lists, rfl, rfl, rfl⟩
        · rw [append_of_ok digest]
          exact versions.concat rfl rfl
        · rw [append_of_ok digest, next, List.length_append, List.length_singleton]
          rfl
    | reload s drawn =>
      rw [told_reload]
      exact ⟨_, reload_of_lists genuine lists versions fits, lists, versions,
        fun _ => lists.lastNumber_eq⟩

/-- After moves a log tells of the events whose appending was answered exactly if the moves were in
step: no append was answered behind one that failed, unless the log was reloaded in between, and it
was reloaded only where everything it told can be read back. -/
theorem tells_iff_areInStep (distinct : ∀ m ∈ moves, m.IsDistinct) :
    (∃ log records, logAfter moves = .ok log ∧ log.Tells (told moves) records) ↔
      AreInStep moves := by
  constructor
  · rintro ⟨log, records, after, tells⟩
    obtain ⟨genuine, -⟩ := genuine_of_logAfter distinct after
    have same : records = log.records := by
      have whole := tells.all
      simp only [page, boundOf, slice, clampIndex, ok_bind] at whole
      simpa [pure, Except.pure, eq_comm] using whole
    exact (areInStep_of_lists distinct after (same ▸ tells.lists)).1
  · intro inStep
    obtain ⟨log, after, lists, versions, -⟩ := exists_lists_of_areInStep distinct inStep
    obtain ⟨genuine, -⟩ := genuine_of_logAfter distinct after
    exact ⟨log, log.records, after, tells_of_lists genuine lists versions⟩

/-! ### Refusals of one actor after another -/

/-- A refusal that an actor was met with. -/
def refusal (actor : String) : Event where
  id := .text "e"
  timestamp := .text "t"
  correlation := .null
  body := .refused (.integer 1) (.text actor) (.integer 1) (.text "ab") (.text "no")

theorem isOk_digest_refusal_iff (actor : String) :
    (refusal actor).digest.isOk = true ↔ Text.IsWhole actor := by
  have known : ∀ s ∈ ["e", "t", "ab", "no"], Text.IsWhole s := by decide
  simp only [List.forall_mem_cons, List.not_mem_nil, false_implies, implies_true, and_true] at known
  obtain ⟨e, t, ab, no⟩ := known
  rw [Event.isOk_digest_iff, Event.exact_toDocument_iff, Event.short_toDocument_iff,
    Event.whole_toDocument_iff]
  simp [Event.fields, EventBody.fields, refusal, IsExact, Document.HasWholeTexts, e, t, ab, no]

theorem isDistinct_refusal (stream actor : String) : (append stream (refusal actor)).IsDistinct := by
  simp [IsDistinct, Event.fields, EventBody.fields, refusal, HasDistinctNames]

/-- Half of a pair, as the name of an actor. -/
def half : String := String.singleton (Text.standIn 0xd800)

theorem exists_digest_half : ∃ f, (refusal half).digest = .error f := by
  have broken : ¬ Text.IsWhole half := by decide
  rw [← isOk_digest_refusal_iff] at broken
  cases digest : (refusal half).digest with
  | ok reference => exact absurd (by rw [digest]; rfl) broken
  | error f => exact ⟨f, rfl⟩

/-- A log tells of two refusals with a reload between them, and of nothing else if a third behind
them has no digest. -/
theorem tells_of_two_refusals :
    let moves := [append "1" (refusal "bob"), reload ⟨0, "", .null, .numbered⟩ 0,
      append "1" (refusal "eve"), append "2" (refusal half)]
    (∀ m ∈ moves, m.IsDistinct) ∧
      ∃ log records, logAfter moves = .ok log ∧ log.Tells (told moves) records := by
  intro moves
  have distinct : ∀ m ∈ moves, m.IsDistinct := by
    simp only [moves, List.forall_mem_cons, isDistinct_refusal, true_and]
    exact ⟨trivial, List.forall_mem_nil _⟩
  refine ⟨distinct, (tells_iff_areInStep distinct).mpr ?_⟩
  have steps : moves = [] ++ [append "1" (refusal "bob")] ++ [reload ⟨0, "", .null, .numbered⟩ 0] ++
      [append "1" (refusal "eve")] ++ [append "2" (refusal half)] := rfl
  have bob : (refusal "bob").digest.isOk = true := (isOk_digest_refusal_iff _).mpr (by decide)
  have first : told ([] ++ [append "1" (refusal "bob")]) = [("1", refusal "bob")] := by
    simp [told, told?, bob]
  rw [steps]
  simp only [areInStep_concat_iff]
  refine ⟨⟨⟨⟨fun before m behind is => by simp at is, fun _ => List.forall_mem_nil _⟩, ?_⟩,
    fun _ => areSettled_reload _ _⟩, fun answered => ?_⟩
  · change AreReloadable _
    rw [first]
    refine ⟨Document.isShort_one, ?_, ?_⟩
    · exact List.forall_mem_singleton.mpr (by decide)
    · exact List.forall_mem_singleton.mpr (Text.IsWhole.reread_eq (by decide) true)
  · obtain ⟨f, fails⟩ := exists_digest_half
    rw [fails] at answered
    cases answered

/-- Behind a refusal that has no digest the first record of a log has the number two. -/
theorem not_tells_behind_half :
    let moves := [append "1" (refusal half), append "1" (refusal "bob")]
    ∃ log, logAfter moves = .ok log ∧ told moves = [("1", refusal "bob")] ∧
      log.records.map (fun r => (r.sequence, r.event)) = [(2, refusal "bob")] ∧
      ∀ records, ¬ log.Tells (told moves) records := by
  intro moves
  obtain ⟨f, fails⟩ := exists_digest_half
  obtain ⟨reference, digest⟩ :=
    isOk_eq_true_iff.mp ((isOk_digest_refusal_iff "bob").mpr (by decide))
  have telling : told moves = [("1", refusal "bob")] := by
    simp [moves, told, told?, fails, digest, Except.isOk, Except.toBool]
  have after : logAfter moves = .ok ⟨[⟨2, refusal "bob", .text "1", 1, reference⟩], 2⟩ := by
    change (Except.ok _ >>= fun log => run log (append "1" (refusal "bob")) >>= pure) = _
    rw [append_of_error fails, ok_bind, run, append_of_ok digest]
    rfl
  refine ⟨_, after, telling, rfl, fun records tells => ?_⟩
  have whole := tells.all
  have numbered := tells.lists.numbered
  rw [telling] at numbered
  cases whole
  cases numbered

end LogMove

end RuleBound
