import Mathlib.Data.List.Induction
import Mathlib.Data.List.Permutation
import RuleBound.Event.Bus
import RuleBound.Proofs.Number.Order

/-!
Dispatch. Whatever has been subscribed and ended on a bus before, an event goes to those registrations
that stand and cover it, each once, in falling order of priority and by turns among equal ones; a
subscriber that fails keeps none of the others from being called. The counts of the bus tell of all
calls.
-/

namespace RuleBound

namespace Document

/-- Whether a document is a number with a place on the line of numbers. -/
def IsRank (d : Document) : Prop := ∃ a, d.numeric? = some a ∧ a.IsProper

/-- The place of a document on the line of numbers. What is no number counts as zero. -/
def place (d : Document) : WithBot (WithTop ℚ) :=
  d.numeric?.elim ((0 : ℚ) : WithTop ℚ) Numeric.place

variable {a b : Document}

theorem compareNumbers?_eq_cmp (ha : a.IsRank) (hb : b.IsRank) :
    a.compareNumbers? b = some (cmp a.place b.place) := by
  obtain ⟨x, is, proper⟩ := ha
  obtain ⟨y, is', proper'⟩ := hb
  unfold compareNumbers? place
  rw [is, is']
  exact Numeric.compare?_eq_cmp proper proper'

/-- Only a number with a place can be equal to a number, and then their places agree. -/
theorem place_eq_of_compareNumbers? (ha : a.IsRank) (same : a.compareNumbers? b = some .eq) :
    a.place = b.place := by
  obtain ⟨x, is, proper⟩ := id ha
  have known : b.IsRank := by
    unfold compareNumbers? at same
    rw [is] at same
    cases is' : b.numeric? with
    | none =>
      rw [is'] at same
      cases same
    | some y =>
      rw [is'] at same
      refine ⟨y, is', ?_⟩
      rintro rfl
      cases (Numeric.compare?_nan_right x).symm.trans same
  rw [compareNumbers?_eq_cmp ha known] at same
  exact (cmp_eq_eq_iff _ _).mp (Option.some.inj same)

end Document

/-! ## The order of calls -/

/-- Whether some subscriptions are others in another order, in which equal priorities keep their turns. -/
structure KeepTurns (registered ordered : List Subscription) : Prop where
  perm : ordered.Perm registered
  turns : ∀ p : Document, ordered.filter (fun s => s.priority.compareNumbers? p == some .eq) =
    registered.filter fun s => s.priority.compareNumbers? p == some .eq

/-- Whether subscriptions are in order: in falling order of priority, and equal priorities by turns. -/
structure AreInOrder (registered ordered : List Subscription) : Prop
    extends KeepTurns registered ordered where
  falling : ordered.Pairwise fun s t => s.priority.compareNumbers? t.priority ≠ some .lt

variable {l l' l'' : List Subscription}

theorem KeepTurns.trans (first : KeepTurns l l') (next : KeepTurns l' l'') : KeepTurns l l'' where
  perm := next.perm.trans first.perm
  turns p := (next.turns p).trans (first.turns p)

theorem KeepTurns.append (kept : KeepTurns l l') (more : List Subscription) :
    KeepTurns (l ++ more) (l' ++ more) where
  perm := kept.perm.append_right more
  turns p := by rw [List.filter_append, List.filter_append, kept.turns]

theorem KeepTurns.filter (kept : KeepTurns l l') (P : Subscription → Bool) :
    KeepTurns (l.filter P) (l'.filter P) where
  perm := kept.perm.filter P
  turns p := by
    rw [List.filter_comm, kept.turns, List.filter_comm]

theorem AreInOrder.filter (inOrder : AreInOrder l l') (P : Subscription → Bool) :
    AreInOrder (l.filter P) (l'.filter P) where
  toKeepTurns := inOrder.toKeepTurns.filter P
  falling := inOrder.falling.filter P

theorem mayPrecede_eq {s t : Subscription} (hs : s.priority.IsRank) (ht : t.priority.IsRank) :
    EventBus.mayPrecede s t = decide (t.priority.place ≤ s.priority.place) := by
  unfold EventBus.mayPrecede
  rw [Document.compareNumbers?_eq_cmp hs ht, Bool.eq_iff_iff, decide_eq_true_iff, bne_iff_ne]
  exact (not_congr (Option.some_inj.trans (cmp_eq_lt_iff _ _))).trans not_lt

/-- Subscriptions whose priorities are numbers can be put into order. -/
theorem areInOrder_mergeSort (ranked : ∀ s ∈ l, s.priority.IsRank) :
    AreInOrder l (l.mergeSort EventBus.mayPrecede) := by
  -- Sorting goes by places, by which all subscriptions can be compared.
  let above (s t : Subscription) : Bool := decide (t.priority.place ≤ s.priority.place)
  have trans (s t u : Subscription) : above s t → above t u → above s u := fun high low =>
    decide_eq_true ((of_decide_eq_true low).trans (of_decide_eq_true high))
  have total (s t : Subscription) : above s t || above t s := by
    rw [Bool.or_eq_true, decide_eq_true_iff, decide_eq_true_iff]
    exact le_total ..
  have same : l.mergeSort EventBus.mayPrecede = l.mergeSort above := by
    have mapped := List.map_mergeSort (r := EventBus.mayPrecede) (s := above) (f := id) (l := l)
      fun s hs t ht => mayPrecede_eq (ranked s hs) (ranked t ht)
    rwa [List.map_id, List.map_id] at mapped
  have perm := List.mergeSort_perm l above
  rw [same]
  refine ⟨⟨perm, fun p => ?_⟩, ?_⟩
  · let equal (s : Subscription) : Bool := s.priority.compareNumbers? p == some .eq
    -- Subscriptions of one priority stay a sublist, and those in the result are as many.
    have falling : (l.filter equal).Pairwise fun s t => above s t := by
      refine List.pairwise_of_forall_mem_list fun s hs t ht => decide_eq_true (le_of_eq ?_)
      obtain ⟨hs, eqs⟩ := List.mem_filter.mp hs
      obtain ⟨ht, eqt⟩ := List.mem_filter.mp ht
      exact (Document.place_eq_of_compareNumbers? (ranked t ht) (eq_of_beq eqt)).trans
        (Document.place_eq_of_compareNumbers? (ranked s hs) (eq_of_beq eqs)).symm
    have kept := (List.sublist_mergeSort trans total falling List.filter_sublist).filter equal
    rw [List.filter_filter] at kept
    simp only [Bool.and_self] at kept
    exact (kept.eq_of_length (perm.filter equal).length_eq.symm).symm
  · refine (List.pairwise_mergeSort trans total l).imp_of_mem fun hs ht high => ?_
    have before := mayPrecede_eq (ranked _ (perm.mem_iff.mp hs)) (ranked _ (perm.mem_iff.mp ht))
    exact bne_iff_ne.mp (before.trans high)

/-! ## Histories of a bus -/

/-- What can be done with a bus. A subscriber is known by its name. -/
inductive BusMove
  | subscribe (name : String) (classes : List EventClass) (priority : Document)
  | unsubscribe (name : String)
  | publish (e : Event)

namespace BusMove

/-- Whether the priority of a subscription, if it is one, is a number. -/
def IsRanked : BusMove → Prop
  | subscribe _ _ priority => priority.IsRank
  | unsubscribe _ | publish _ => True

/-- Whether an event is published. -/
def isPublish : BusMove → Bool
  | publish _ => true
  | subscribe _ _ _ | unsubscribe _ => false

end BusMove

/-- What handlers do when they are called: by the name of the subscriber and the number of calls before,
the text of the failure if there is one. -/
abbrev Handlers := String → Nat → Option String

namespace Handlers

/-- A subscriber with its handler, which does not call back into the bus. -/
def subscriber (h : Handlers) (name : String) : Subscriber := { name, reaction := .react (h name) }

/-- The registrations that stand after a move, by turns. -/
def register (h : Handlers) (registered : List Subscription) : BusMove → List Subscription
  | .subscribe name classes priority =>
    registered ++ [⟨h.subscriber name, if classes.isEmpty then [.general] else classes, priority⟩]
  | .unsubscribe name => registered.filter fun s => s.subscriber.name != name
  | .publish _ => registered

/-- The registrations that stand after moves, by turns. -/
def registered (h : Handlers) (moves : List BusMove) : List Subscription :=
  moves.foldl h.register []

/-- A move on a bus. -/
def move (h : Handlers) (d : Delivery) : BusMove → Delivery
  | .subscribe name classes priority => (d.subscribe (h.subscriber name) classes priority).1
  | .unsubscribe name => { d with bus := d.bus.unsubscribe name }
  | .publish e => d.publish e

/-- Moves on a bus that is new. -/
def moved (h : Handlers) (moves : List BusMove) : Delivery := moves.foldl h.move {}

/-- How many of some calls have failed. -/
def failures (h : Handlers) (calls : List (String × EventClass)) : Nat :=
  calls.zipIdx.countP fun (call, before) => (h call.1 before).isSome

/-- Whether the counts of a bus tell of its calls. -/
structure Counts (h : Handlers) (d : Delivery) : Prop where
  failed : d.bus.failed = h.failures d.calls
  all : d.bus.handled + d.bus.failed = d.calls.length

/-- Whether a bus stands as moves leave it. -/
structure Stands (h : Handlers) (moves : List BusMove) (d : Delivery) : Prop where
  known : ∀ s ∈ d.known, s = h.subscriber s.name
  own : ∀ s ∈ h.registered moves, s.subscriber = h.subscriber s.subscriber.name
  ranked : ∀ s ∈ h.registered moves, s.priority.IsRank
  inOrder : AreInOrder (h.registered moves) d.bus.subscriptions
  published : d.bus.published = moves.countP BusMove.isPublish
  counts : h.Counts d

variable {h : Handlers} {moves : List BusMove} {d : Delivery}

theorem registered_concat (h : Handlers) (moves : List BusMove) (m : BusMove) :
    h.registered (moves ++ [m]) = h.register (h.registered moves) m := by
  rw [registered, List.foldl_concat]
  rfl

theorem failures_concat (h : Handlers) (calls : List (String × EventClass)) (name : String)
    (c : EventClass) :
    h.failures (calls ++ [(name, c)]) =
      h.failures calls + if (h name calls.length).isSome then 1 else 0 := by
  unfold failures
  rw [List.zipIdx_append, List.countP_append, Nat.zero_add, List.zipIdx_singleton,
    List.countP_singleton]

/-- Whether one bus has gone on from another by calls of some subscriptions for an event. -/
structure HasCalled (d d' : Delivery) (e : Event) (receivers : List Subscription) : Prop where
  known : d'.known = d.known
  subscriptions : d'.bus.subscriptions = d.bus.subscriptions
  published : d'.bus.published = d.bus.published
  calls : d'.calls = d.calls ++ receivers.map fun s => (s.subscriber.name, e.eventClass)

theorem HasCalled.trans {d' d'' : Delivery} {e : Event} {l l' : List Subscription}
    (first : HasCalled d d' e l) (next : HasCalled d' d'' e l') : HasCalled d d'' e (l ++ l') where
  known := next.known.trans first.known
  subscriptions := next.subscriptions.trans first.subscriptions
  published := next.published.trans first.published
  calls := by rw [next.calls, first.calls, List.map_append, List.append_assoc]

/-- A call of one subscriber is counted by what its handler does. -/
theorem hasCalled_call {s : Subscription} (own : s.subscriber = h.subscriber s.subscriber.name)
    (again : Delivery → Event → Delivery) (e : Event) (counts : h.Counts d) :
    HasCalled d (d.call again e s) e [s] ∧ h.Counts (d.call again e s) := by
  have reaction : s.subscriber.reaction = .react (h s.subscriber.name) :=
    congrArg Subscriber.reaction own
  have failures := h.failures_concat d.calls s.subscriber.name e.eventClass
  have one : (d.calls ++ [(s.subscriber.name, e.eventClass)]).length = d.calls.length + 1 :=
    List.length_append
  obtain ⟨failed, all⟩ := counts
  unfold Delivery.call
  simp only [reaction]
  cases outcome : h s.subscriber.name d.calls.length with
  | none =>
    rw [outcome] at failures
    exact ⟨⟨rfl, rfl, rfl, rfl⟩, failed.trans failures.symm,
      (Nat.add_right_comm ..).trans ((congrArg (· + 1) all).trans one.symm)⟩
  | some text =>
    rw [outcome] at failures
    exact ⟨⟨rfl, rfl, rfl, rfl⟩, (congrArg (· + 1) failed).trans failures.symm,
      (congrArg (· + 1) all).trans one.symm⟩

/-- Calls of subscribers, one after the other, are counted by what their handlers do. -/
theorem hasCalled_foldl {receivers : List Subscription}
    (own : ∀ s ∈ receivers, s.subscriber = h.subscriber s.subscriber.name)
    (again : Delivery → Event → Delivery) (e : Event) (counts : h.Counts d) :
    let d' := receivers.foldl (Delivery.call again e) d
    HasCalled d d' e receivers ∧ h.Counts d' := by
  induction receivers generalizing d with
  | nil => exact ⟨⟨rfl, rfl, rfl, (List.append_nil _).symm⟩, counts⟩
  | cons s receivers ih =>
    obtain ⟨called, counts⟩ := hasCalled_call (own s List.mem_cons_self) again e counts
    obtain ⟨later, counts⟩ := ih (fun t mem => own t (List.mem_cons_of_mem s mem)) counts
    exact ⟨called.trans later, counts⟩

/-- Who subscribes under a name is who has been met under it. -/
theorem Stands.exists_subscribe (stands : h.Stands moves d) (name : String)
    (classes : List EventClass) (priority : Document) :
    ∃ known, (∀ s ∈ known, s = h.subscriber s.name) ∧
      h.move d (.subscribe name classes priority) =
        { d with bus := (d.bus.subscribe (h.subscriber name) classes priority).1, known } := by
  change ∃ known, _ ∧ (d.subscribe (h.subscriber name) classes priority).1 = _
  unfold Delivery.subscribe
  cases met : d.subscriber? (h.subscriber name).name with
  | some s =>
    have found : d.known.find? (fun s => s.name == name) = some s := met
    have named := List.find?_some found
    have is := stands.known s (List.mem_of_find?_eq_some found)
    rw [eq_of_beq named] at is
    subst is
    exact ⟨d.known, stands.known, rfl⟩
  | none =>
    refine ⟨_, fun s mem => ?_, rfl⟩
    rcases List.mem_append.mp mem with mem | mem
    · exact stands.known s mem
    · cases List.mem_singleton.mp mem
      rfl

/-- Subscriptions whose priorities are numbers are put into order as soon as one is added. -/
theorem subscribe_fst {bus : EventBus} {s : Subscriber} {classes : List EventClass}
    {priority : Document} {subscriptions : List Subscription}
    (is : bus.subscriptions ++ [⟨s, if classes.isEmpty then [.general] else classes, priority⟩] =
      subscriptions)
    (ranked : ∀ s ∈ subscriptions, s.priority.IsRank) :
    (bus.subscribe s classes priority).1 =
      { bus with subscriptions := subscriptions.mergeSort EventBus.mayPrecede } := by
  have numbers : (subscriptions.all fun s => s.priority.numeric?.isSome) = true := by
    refine List.all_eq_true.mpr fun s mem => ?_
    obtain ⟨a, number, -⟩ := ranked s mem
    rw [number]
    rfl
  unfold EventBus.subscribe EventBus.inOrder
  simp only [is, numbers, if_true]

/-- A subscription is put behind those before it, and then into order. -/
theorem Stands.subscribe (stands : h.Stands moves d) (name : String) (classes : List EventClass)
    {priority : Document} (ranked : priority.IsRank) :
    h.Stands (moves ++ [.subscribe name classes priority])
      (h.move d (.subscribe name classes priority)) := by
  obtain ⟨known, own, subscribed⟩ := stands.exists_subscribe name classes priority
  let new : Subscription :=
    ⟨h.subscriber name, if classes.isEmpty then [.general] else classes, priority⟩
  have registered : h.registered (moves ++ [.subscribe name classes priority]) =
    h.registered moves ++ [new] := h.registered_concat ..
  have rankedAll : ∀ s ∈ d.bus.subscriptions ++ [new], s.priority.IsRank := by
    intro s mem
    rcases List.mem_append.mp mem with mem | mem
    · exact stands.ranked s (stands.inOrder.perm.mem_iff.mp mem)
    · cases List.mem_singleton.mp mem
      exact ranked
  have sorted := areInOrder_mergeSort rankedAll
  rw [subscribed, subscribe_fst rfl rankedAll]
  refine ⟨own, ?_, ?_, ?_, ?_, stands.counts.failed, stands.counts.all⟩
  · rw [registered]
    intro s mem
    rcases List.mem_append.mp mem with mem | mem
    · exact stands.own s mem
    · cases List.mem_singleton.mp mem
      rfl
  · rw [registered]
    intro s mem
    exact rankedAll s (List.mem_append.mpr ((List.mem_append.mp mem).imp_left
      stands.inOrder.perm.mem_iff.mpr))
  · rw [registered]
    exact ⟨(stands.inOrder.toKeepTurns.append [new]).trans sorted.toKeepTurns, sorted.falling⟩
  · rw [List.countP_append]
    exact stands.published

theorem Stands.unsubscribe (stands : h.Stands moves d) (name : String) :
    h.Stands (moves ++ [.unsubscribe name]) (h.move d (.unsubscribe name)) := by
  have registered : h.registered (moves ++ [.unsubscribe name]) =
    (h.registered moves).filter fun s => s.subscriber.name != name := h.registered_concat ..
  have remains {s : Subscription} (mem : s ∈ h.registered (moves ++ [.unsubscribe name])) :
      s ∈ h.registered moves := by
    rw [registered] at mem
    exact (List.mem_filter.mp mem).1
  refine ⟨stands.known, fun s mem => stands.own s (remains mem),
    fun s mem => stands.ranked s (remains mem), ?_, ?_, stands.counts.failed, stands.counts.all⟩
  · rw [registered]
    exact stands.inOrder.filter _
  · rw [List.countP_append]
    exact stands.published

/-- An event that is published goes to the registrations that stand and cover it, in order. -/
theorem Stands.receivers (stands : h.Stands moves d) (e : Event) :
    AreInOrder ((h.registered moves).filter fun s => s.covers e) (d.bus.receivers e) :=
  stands.inOrder.filter _

theorem Stands.publish (stands : h.Stands moves d) (e : Event) :
    (d.publish e).calls = d.calls ++ (d.bus.receivers e).map
        (fun s => (s.subscriber.name, e.eventClass)) ∧
      h.Stands (moves ++ [.publish e]) (h.move d (.publish e)) := by
  have registered : h.registered (moves ++ [.publish e]) = h.registered moves :=
    h.registered_concat ..
  have own : ∀ s ∈ d.bus.receivers e, s.subscriber = h.subscriber s.subscriber.name := by
    intro s mem
    exact stands.own s (stands.inOrder.perm.mem_iff.mp (List.mem_filter.mp mem).1)
  let opened : Delivery := { d with bus := { d.bus with published := d.bus.published + 1 } }
  have counts : h.Counts opened := ⟨stands.counts.failed, stands.counts.all⟩
  obtain ⟨called, counts⟩ :=
    hasCalled_foldl own (Delivery.publishWithin Delivery.callLimit) e counts
  refine ⟨called.calls, ?_, ?_, ?_, ?_, ?_, counts⟩
  · exact fun s mem => stands.known s (called.known ▸ mem)
  · rw [registered]
    exact stands.own
  · rw [registered]
    exact stands.ranked
  · rw [registered]
    exact called.subscriptions ▸ stands.inOrder
  · rw [List.countP_append]
    exact called.published.trans (congrArg (· + 1) stands.published)

/-- Every move keeps to the registrations before it, if priorities are numbers. -/
theorem Stands.move (stands : h.Stands moves d) {m : BusMove} (ranked : m.IsRanked) :
    h.Stands (moves ++ [m]) (h.move d m) := by
  cases m with
  | subscribe name classes priority => exact stands.subscribe name classes ranked
  | unsubscribe name => exact stands.unsubscribe name
  | publish e => exact (stands.publish e).2

/-- A refusal that says nothing. -/
def refusal : Event := ⟨.null, .null, .null, .refused .null .null .null .null .null⟩

end Handlers

end RuleBound
