import RuleBound.Event.Basic

/-!
The event bus: events are handed to subscribers at once, one after the other.

Subscriptions are kept in falling order of priority, and in the order of subscription among equal
priorities. Which of them receive an event is settled before the first is called, so a subscriber
that leaves during a publication is still called in it. What a subscriber does never reaches the
publisher: a failure is counted and worded, and the next subscriber is called.
-/

namespace RuleBound

/-- What a subscriber does when it is called. -/
inductive Reaction
  /-- It takes notice, or fails with a text, as may be settled by how many calls came before. -/
  | react (failure? : (before : Nat) → Option String)
  /-- It ends all subscriptions of a subscriber, who has to be known by that name. -/
  | dismiss (name : Document)
  /-- It makes and publishes another event, as long as few calls have been made. An event that
  cannot be made is a failure. -/
  | publish (event : Except Fault Event)
  deriving Inhabited

/-- It takes notice of every call. -/
def Reaction.notice : Reaction := react fun _ => none

/-- It fails at every call, with a text. -/
def Reaction.fail (text : String) : Reaction := react fun _ => some text

/-- A subscriber. -/
structure Subscriber where
  name : String
  reaction : Reaction
  /-- Whether an event that it publishes takes a fresh identifier. -/
  draws : Bool := false
  deriving Inhabited

/-- A subscription of a subscriber to some classes of events. -/
structure Subscription where
  subscriber : Subscriber
  classes : List EventClass
  /-- A number; another value keeps subscriptions from being put into order. -/
  priority : Document
  deriving Inhabited

/-- Whether a subscription covers an event. -/
def Subscription.covers (s : Subscription) (e : Event) : Bool :=
  s.classes.any e.eventClass.isIn

/-- The subscriptions in force, and counts of what has been published and handled. -/
structure EventBus where
  subscriptions : List Subscription := []
  published : Nat := 0
  handled : Nat := 0
  failed : Nat := 0
  deriving Inhabited

namespace EventBus

/-- Whether one subscription may stand before another. -/
def mayPrecede (s t : Subscription) : Bool := s.priority.compareNumbers? t.priority != some .lt

/-- Subscriptions in falling order of priority, equal ones in the order in which they stand. -/
def inOrder (subscriptions : List Subscription) : Except Fault (List Subscription) :=
  if subscriptions.all fun s => s.priority.numeric?.isSome then
    .ok (subscriptions.mergeSort mayPrecede)
  else .error .wrongType

/-- Subscribe to classes of events; to no class means to all events. A subscription that cannot be
put into order stays at the end. -/
def subscribe (bus : EventBus) (subscriber : Subscriber) (classes : List EventClass)
    (priority : Document) : EventBus × Except Fault Unit :=
  let classes := if classes.isEmpty then [EventClass.general] else classes
  let subscriptions := bus.subscriptions ++ [⟨subscriber, classes, priority⟩]
  match inOrder subscriptions with
  | .ok subscriptions => ({ bus with subscriptions }, .ok ())
  | .error f => ({ bus with subscriptions }, .error f)

/-- End all subscriptions of a subscriber. -/
def unsubscribe (bus : EventBus) (name : String) : EventBus :=
  { bus with subscriptions := bus.subscriptions.filter fun s => s.subscriber.name != name }

/-- Whether a subscriber has a subscription. -/
def hasSubscriber (bus : EventBus) (name : String) : Bool :=
  bus.subscriptions.any fun s => s.subscriber.name == name

/-- The subscriptions that receive an event, in the order in which they are called. -/
def receivers (bus : EventBus) (e : Event) : List Subscription :=
  bus.subscriptions.filter fun s => s.covers e

/-- The counts as a document. -/
def metrics (bus : EventBus) : Document :=
  .object [("published_count", .integer bus.published), ("handled_count", .integer bus.handled),
    ("error_count", .integer bus.failed),
    ("handler_count", .integer bus.subscriptions.length)]

end EventBus

/-- A bus with an account of the calls made on it and the failures among them. -/
structure Delivery where
  bus : EventBus := {}
  /-- All who have subscribed so far, also those who have left. -/
  known : List Subscriber := []
  calls : List (String × EventClass) := []
  failures : List String := []
  deriving Inhabited

namespace Delivery

/-- The number of calls from which on a subscriber publishes nothing more. -/
def callLimit : Nat := 20

/-- The text of a subscriber's failure. -/
def failureText (name : String) (e : Event) (text : String) : String :=
  "Handler " ++ name ++ " failed for " ++ e.eventClass.name ++ ": " ++ text

/-- Count a call that succeeded. -/
def succeed (d : Delivery) : Delivery :=
  { d with bus := { d.bus with handled := d.bus.handled + 1 } }

/-- Count and word a call that failed. -/
def fail (d : Delivery) (name : String) (e : Event) (text : String) : Delivery :=
  { d with
    bus := { d.bus with failed := d.bus.failed + 1 }
    failures := d.failures ++ [failureText name e text] }

/-- The subscriber that is known by a name. -/
def subscriber? (d : Delivery) (name : String) : Option Subscriber :=
  d.known.find? fun s => s.name == name

/-- Why nobody is known by a name: it is no name at all, or nobody has it. -/
def unknownText (name : Document) : String :=
  if name.isScalar then name.quoted else "unhashable type: '" ++ name.typeName ++ "'"

/-- Call one subscriber, where `again` publishes on its behalf. -/
def call (again : Delivery → Event → Delivery) (e : Event) (d : Delivery) (s : Subscription) :
    Delivery :=
  let name := s.subscriber.name
  let before := d.calls.length
  let d := { d with calls := d.calls ++ [(name, e.eventClass)] }
  match s.subscriber.reaction with
  | .react failure? =>
    match failure? before with
    | none => d.succeed
    | some text => d.fail name e text
  | .dismiss other =>
    match other.asText?.bind d.subscriber? with
    | some known => succeed { d with bus := d.bus.unsubscribe known.name }
    | none => d.fail name e (unknownText other)
  | .publish other =>
    if d.calls.length < callLimit then
      match other with
      | .ok other => (again d other).succeed
      | .error f => d.fail name e f.message
    else d.succeed

/-- Publish an event to those who receive it; `depth` bounds how deeply publications nest. -/
def publishWithin : (depth : Nat) → Delivery → Event → Delivery
  | 0, d, _ => d
  | depth + 1, d, e =>
    let receivers := d.bus.receivers e
    let d := { d with bus := { d.bus with published := d.bus.published + 1 } }
    receivers.foldl (call (publishWithin depth) e) d

/-- Publish an event. A nested publication takes a call below the limit, so the limit bounds
the depth. -/
def publish (d : Delivery) (e : Event) : Delivery := publishWithin (callLimit + 1) d e

/-- Subscribe on a bus. Someone who is known by that name already is not met anew. -/
def subscribe (d : Delivery) (subscriber : Subscriber) (classes : List EventClass)
    (priority : Document) : Delivery × Except Fault Unit :=
  let (met, known) := match d.subscriber? subscriber.name with
    | some met => (met, d.known)
    | none => (subscriber, d.known ++ [subscriber])
  let (bus, result) := d.bus.subscribe met classes priority
  ({ d with bus, known }, result)

/-- How many fresh identifiers the calls from a number on have taken: one for each event that a
subscriber has published. -/
def drawnSince (d : Delivery) (before : Nat) : Nat :=
  ((d.calls.zipIdx.drop before).filter fun (call, i) =>
    i + 1 < callLimit && (d.subscriber? call.1).any Subscriber.draws).length

end Delivery

end RuleBound
