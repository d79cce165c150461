import RuleBound.Rules.Terms

/-!
Compact rules: the fixed shape in which a registry keeps and decides rules.

The values are kept as they were given. A flag is set if its value counts as true, a limit has to
be a number, and the scope may be a member or any number of that value. Rules that are read from a
document or compiled from a sheet hold truth values, whole numbers and members only.
-/

namespace RuleBound

/-- The rules that a registry enforces. -/
structure CompactRules where
  forbidCopy : Document := .bool false
  forbidForward : Document := .bool false
  forbidExport : Document := .bool false
  /-- The moment from which everything is refused; zero is never. -/
  expiry : Document := .integer 0
  scope : Given AccessScope := .member .any
  /-- The number of uses; zero is no limit. -/
  maxUses : Document := .integer 0
  lockOnViolation : Document := .bool false
  requireIdentity : Document := .bool false
  version : Document := .integer 1
  deriving DecidableEq

namespace CompactRules

/-- The rules as a document. A scope that is no member has no name. -/
def toDocument (r : CompactRules) : Except Fault Document := do
  let scope ← r.scope.nameOf AccessScope.name
  return .object [("forbid_copy", r.forbidCopy), ("forbid_forward", r.forbidForward),
    ("forbid_export", r.forbidExport), ("expiry", r.expiry), ("access_type", .text scope),
    ("max_uses", r.maxUses), ("lock_on_violation", r.lockOnViolation),
    ("require_identity", r.requireIdentity), ("version", r.version)]

/-- The scope that a document gives by name or by number. -/
def scopeOf (d : Document) : Except Fault AccessScope :=
  match d with
  | .text _ => AccessScope.ofName d
  | d => AccessScope.ofNumber d

/-- Read rules from a document; a missing field takes its default. -/
def ofDocument (d : Document) : Except Fault CompactRules := do
  let scope ← scopeOf (← d.lookup "access_type" (.text "ANY"))
  let flag (name : String) : Except Fault Document := do
    return .bool (← d.lookup name (.bool false)).isTrue
  let whole (name : String) (default : Int) : Except Fault Document := do
    return .integer (← (← d.lookup name (.integer default)).toInteger)
  return {
    forbidCopy := ← flag "forbid_copy"
    forbidForward := ← flag "forbid_forward"
    forbidExport := ← flag "forbid_export"
    expiry := ← whole "expiry" 0
    scope := .member scope
    maxUses := ← whole "max_uses" 0
    lockOnViolation := ← flag "lock_on_violation"
    requireIdentity := ← flag "require_identity"
    version := ← whole "version" 1 }

/-- The names of the fields of rules. -/
def fieldNames : List String :=
  ["forbid_copy", "forbid_forward", "forbid_export", "expiry", "access_type", "max_uses",
    "lock_on_violation", "require_identity", "version"]

/-- Rules with the fields that an object gives, as they are; only a scope is looked up if it is
given by name. A field that rules do not have has the wrong type. -/
def ofRaw (d : Document) : Except Fault CompactRules := do
  let base : CompactRules := {}
  let scope ← match d.get? "access_type" with
    | some given => Given.ofDocument AccessScope.ofName given
    | none => pure base.scope
  if !d.fields.all (fun f => fieldNames.contains f.1) then throw .wrongType
  return {
    forbidCopy := d.getD "forbid_copy" base.forbidCopy
    forbidForward := d.getD "forbid_forward" base.forbidForward
    forbidExport := d.getD "forbid_export" base.forbidExport
    expiry := d.getD "expiry" base.expiry
    scope := scope
    maxUses := d.getD "max_uses" base.maxUses
    lockOnViolation := d.getD "lock_on_violation" base.lockOnViolation
    requireIdentity := d.getD "require_identity" base.requireIdentity
    version := d.getD "version" base.version }

/-- Whether the scope of rules is a given one, by member or by number. -/
def hasScope (r : CompactRules) (s : AccessScope) : Bool :=
  match r.scope with
  | .member t => t == s
  | .other d => d.isNumber s.number

/-- Whether rules are of version 0. -/
def isLegacy (r : CompactRules) : Bool := r.version.isNumber 0

/-- Whether rules limit the number of uses. -/
def limitsUses (r : CompactRules) : Bool := !r.maxUses.isNumber 0

end CompactRules

end RuleBound
