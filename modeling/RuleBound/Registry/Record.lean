import RuleBound.Registry.Action
import RuleBound.Document.Arithmetic
import RuleBound.Document.Canonical
import RuleBound.Text.Hash

/-!
Records of objects and verdicts on requests.

A record is fixed when its object is minted, but for three fields: whether it is locked, how many
violations there were, and how many uses remain. A verdict is the first rule that a request
breaks; it depends on the record, the clock, the action and who acts, and on nothing else.

A record that was minted or read holds texts, whole numbers, truth values and members where they
belong. Its fields can be replaced one by one by any value; a verdict that then needs a value of
another type is a fault.
-/

namespace RuleBound

/-- The record of an object. -/
structure Record where
  id : Document
  creator : Document
  kind : Given ObjectKind
  rulesHash : Document
  rules : Given CompactRules
  /-- Who may use the object if its scope is a list, each once. -/
  whitelist : Given (List Document)
  pointer : Document
  createdAt : Document
  locked : Document
  violations : Document
  usesRemaining : Document
  deriving DecidableEq

/-- The rule that a request breaks. -/
inductive Refusal
  | locked
  | notListed
  | notCreator
  | expired
  /-- The action is forbidden; legacy rules have one wording for that, and the violation may lock
  the object. -/
  | forbidden (action : Action) (legacy locks : Bool)
  | usedUp
  deriving DecidableEq, Repr

/-- Why a forbidden action is refused. -/
def Action.forbiddenReason : Action → String
  | .forward => "Forwarding forbidden"
  | .copy => "Copying forbidden"
  | .download => "Export forbidden"
  | .read | .execute => ""

/-- What is appended to a reason when the object becomes locked. -/
def lockedSuffix : String := " (Object Locked)"

/-- The reason that is recorded for a refusal. -/
def Refusal.reason : Refusal → String
  | locked => "OBJECT_LOCKED"
  | notListed => "Access denied (Not in whitelist)"
  | notCreator => "Access denied (Creator only)"
  | expired => "RDO has expired"
  | forbidden action legacy locks =>
    (if legacy then "Forwarding is not allowed" else action.forbiddenReason) ++
      (if locks then lockedSuffix else "")
  | usedUp => "Usage limit exceeded"

/-- Whether rules have expired at a moment. -/
def CompactRules.hasExpired (r : CompactRules) (now : Document) : Except Fault Bool :=
  if r.expiry.isNumber 0 then .ok false else r.expiry.isAtMost now

/-- Whether a collection holds a text: a list one that agrees with it, an object a field of that
name, a text a passage. -/
def Document.holds (d : Document) (s : String) : Except Fault Bool :=
  match d with
  | .list items => .ok (items.any fun d => d.agrees (.text s))
  | .object fields => .ok (fields.any fun f => f.1 == s)
  | .text t => .ok (decide (1 < (t.splitOn s).length))
  | _ => .error .wrongType

namespace Record

/-- The rules of a record; another value in their place has none of their parts. -/
def compactRules (r : Record) : Except Fault CompactRules :=
  match r.rules with
  | .member rules => .ok rules
  | .other _ => .error .noPart

/-- Whether an actor is on the whitelist of a record. -/
def lists (r : Record) (actor : String) : Except Fault Bool :=
  match r.whitelist with
  | .member members => .ok (members.contains (.text actor))
  | .other d => d.holds actor

/-- Whether the scope of an object leaves an actor out, and how. -/
def outOfScope? (r : Record) (rules : CompactRules) (actor : String) :
    Except Fault (Option Refusal) := do
  if rules.hasScope .list then
    return if ← r.lists actor then none else some .notListed
  else if rules.hasScope .creatorOnly then
    return if r.creator = .text actor then none else some .notCreator
  else return none

/-- The first rule that a request of an actor in scope breaks, none if it is allowed. -/
def refusalInScope? (r : Record) (rules : CompactRules) (now : Int) (action : Action) :
    Except Fault (Option Refusal) := do
  if ← rules.hasExpired (.integer now) then return some .expired
  else if rules.forbids action then
    return some (.forbidden action rules.isLegacy rules.lockOnViolation.isTrue)
  else if rules.limitsUses then
    return if ← r.usesRemaining.isAtMost (.integer 0) then some .usedUp else none
  else return none

/-- The first rule that a request breaks, none if it is allowed. -/
def refusal? (r : Record) (now : Int) (action : Action) (actor : String) :
    Except Fault (Option Refusal) := do
  if r.locked.isTrue then return some .locked
  else
    let rules ← r.compactRules
    match ← r.outOfScope? rules actor with
    | some why => return some why
    | none => r.refusalInScope? rules now action

/-- The record after a verdict. A violation is counted before the object is locked. -/
def after (r : Record) : Option Refusal → Except Fault Record
  | none => do
    let rules ← r.compactRules
    if rules.limitsUses then
      return { r with usesRemaining := ← r.usesRemaining.minus (.integer 1) }
    else return r
  | some (.forbidden _ _ locks) => do
    let violations ← r.violations.plus (.integer 1)
    return { r with violations, locked := if locks then .bool true else r.locked }
  | some _ => .ok r

/-- The name of a record's state. -/
def state (r : Record) : String := if r.locked.isTrue then "LOCKED" else "ACTIVE"

/-- What is shown of a record's state at a moment. -/
def status (r : Record) (now : Document) : Except Fault String := do
  if r.locked.isTrue then return "LOCKED"
  else if ← (← r.compactRules).hasExpired now then return "EXPIRED"
  else return "ACTIVE"

end Record

/-- Members of a sequence, each once, as a set of them. What no set can hold has the wrong
type. -/
def distinctMembers (items : List Document) : Except Fault (List Document) :=
  if items.all Document.isScalar then
    .ok (items.foldl (fun known d => if known.any d.agrees then known else known ++ [d]) [])
  else .error .wrongType

/-- Whether one member of a set comes before another; none if they cannot be compared. -/
def memberBefore? : Document → Document → Option Bool
  | .text a, .text b => some (decide (a ≤ b))
  | a, b => (a.compareNumbers? b).map fun o => o != .gt

/-- The members of a set in order. Members that cannot be compared have the wrong type. -/
def sortedMembers (members : List Document) : Except Fault (List Document) :=
  if members.length < 2 || members.all fun d => (memberBefore? (members.headD .null) d).isSome then
    .ok (members.mergeSort fun a b => (memberBefore? a b).getD true)
  else .error .wrongType

namespace Record

/-- The members of a whitelist in order. A text has its characters as members, an object its
names. -/
def sortedWhitelist (r : Record) : Except Fault (List Document) :=
  match r.whitelist with
  | .member members => sortedMembers members
  | .other d => d.toItems >>= sortedMembers

/-- A record as a document. -/
def toDocument (r : Record) : Except Fault Document := do
  let kind ← r.kind.nameOf ObjectKind.name
  let rules ← (← r.compactRules).toDocument
  let whitelist ← r.sortedWhitelist
  return .object [("id", r.id), ("creator", r.creator), ("rdo_type", .text kind),
    ("rules_hash", r.rulesHash), ("rules", rules), ("whitelist", .list whitelist),
    ("metadata_pointer", r.pointer), ("created_at", r.createdAt), ("locked", r.locked),
    ("violation_count", r.violations), ("uses_remaining", r.usesRemaining)]

/-- Read a record from a document, with the identifier that it has. -/
def ofDocument (d : Document) : Except Fault (Int × Record) := do
  let id ← (← d.require "id").toInteger
  let creator := (← d.require "creator").shown
  let kind ← ObjectKind.ofName (← d.require "rdo_type")
  let rulesHash := (← d.require "rules_hash").shown
  let rules ← CompactRules.ofDocument (← d.require "rules")
  let whitelist ← distinctMembers (← (← d.lookup "whitelist" (.list [])).toItems)
  let pointer := (← d.require "metadata_pointer").shown
  let createdAt ← (← d.lookup "created_at" (.integer 0)).toInteger
  let locked := (← d.lookup "locked" (.bool false)).isTrue
  let violations ← (← d.lookup "violation_count" (.integer 0)).toInteger
  let usesRemaining ← (← d.lookup "uses_remaining" (.integer 0)).toInteger
  return (id, {
    id := .integer id
    creator := .text creator
    kind := .member kind
    rulesHash := .text rulesHash
    rules := .member rules
    whitelist := .member whitelist
    pointer := .text pointer
    createdAt := .integer createdAt
    locked := .bool locked
    violations := .integer violations
    usesRemaining := .integer usesRemaining })

/-- A record with one of its fields replaced by a value. A name that no field has changes nothing;
the state follows from whether the record is locked and cannot be replaced. -/
def replaceField (r : Record) (name : String) (value : Document) : Except Fault Record :=
  match name with
  | "id" => .ok { r with id := value }
  | "creator" => .ok { r with creator := value }
  | "rdo_type" => .ok { r with kind := .other value }
  | "rules_hash" => .ok { r with rulesHash := value }
  | "rules" => .ok { r with rules := .other value }
  | "whitelist" => .ok { r with whitelist := .other value }
  | "metadata_pointer" => .ok { r with pointer := value }
  | "created_at" => .ok { r with createdAt := value }
  | "locked" => .ok { r with locked := value }
  | "violation_count" => .ok { r with violations := value }
  | "uses_remaining" => .ok { r with usesRemaining := value }
  | "state" => .error .noPart
  | _ => .ok r

end Record

end RuleBound
