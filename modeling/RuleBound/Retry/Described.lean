import RuleBound.Document.Coercion
import RuleBound.Retry

/-!
Retry policies described by documents.

A description names what differs from the standard policy. Faults that may or may not pass are
named by their families.
-/

namespace RuleBound

/-- What a name stands for in a list of named things. A name that no scalar could be has the wrong
type. -/
def named {α : Type} (known : List (String × α)) (d : Document) : Except Fault α :=
  match known.find? fun k => d == .text k.1 with
  | some k => .ok k.2
  | none => .error (if d.isScalar then .missing d else .wrongType)

/-- The family of faults that a document names. -/
def Fault.Family.ofDocument : Document → Except Fault Fault.Family :=
  named [("Exception", .any), ("ValueError", .value), ("KeyError", .missing), ("RDOError", .domain),
    ("StorageError", .storage), ("NotFound", .notFound)]

/-- The way of growing that a document names. -/
def Backoff.ofDocument : Document → Except Fault Backoff :=
  named [("FIXED", .fixed), ("LINEAR", .linear), ("EXPONENTIAL", .exponential),
    ("EXPONENTIAL_JITTER", .exponentialJitter)]

namespace RetryPolicy

/-- The families in a field, or others if there are none. -/
def families (d : Document) (name : String) (default : List Fault.Family) :
    Except Fault (List Fault.Family) := do
  match d.get? name with
  | some given => (← given.toItems).mapM Fault.Family.ofDocument
  | none => return default

/-- The names that a description may use. -/
def fieldNames : List String :=
  ["max_attempts", "base_delay_seconds", "max_delay_seconds", "backoff_strategy", "jitter_factor",
    "retryable_exceptions", "non_retryable_exceptions"]

/-- The policy that a document describes. -/
def ofDocument (d : Document) : Except Fault RetryPolicy := do
  let backoff ← match d.get? "backoff_strategy" with
    | some given => Backoff.ofDocument given
    | none => pure standard.backoff
  let passing ← families d "retryable_exceptions" standard.passing
  let lasting ← families d "non_retryable_exceptions" standard.lasting
  if !d.fields.all (fun f => fieldNames.contains f.1) then throw .wrongType
  withAttempts { standard with
    baseDelay := d.getD "base_delay_seconds" standard.baseDelay
    maxDelay := d.getD "max_delay_seconds" standard.maxDelay
    backoff := backoff
    jitter := d.getD "jitter_factor" standard.jitter
    passing := passing
    lasting := lasting } (d.getD "max_attempts" standard.maxAttempts)

end RetryPolicy

end RuleBound
