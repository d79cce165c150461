import RuleBound.Registry.Basic

/-!
Snapshots: the whole registry as a document, and back.

Reading takes any document of the right shape, whatever its order; the next identifier is raised
above every identifier that is in use.
-/

namespace RuleBound.Registry

/-- Records in the order of their identifiers, which have to have one. -/
def sortedRecords (reg : Registry) : Except Fault (List Record) :=
  let records := reg.records.map Prod.snd
  let first := (records.map Record.id).headD .null
  if records.length < 2 || records.all fun r => (memberBefore? first r.id).isSome then
    .ok (records.mergeSort fun a b => (memberBefore? a.id b.id).getD true)
  else .error .wrongType

/-- The registry as a document. -/
def snapshot (reg : Registry) : Except Fault Document := do
  let records ← (← reg.sortedRecords).mapM Record.toDocument
  return .object [("next_id", .integer reg.nextId), ("records", .list records),
    ("events", reg.log.toDocument)]

/-- The least identifier above all those in use, and at least one. -/
def freeId (records : List (Int × Record)) : Int :=
  match records.map Prod.fst with
  | [] => 1
  | id :: rest => rest.foldl max id + 1

/-- Read the records and the next identifier of a snapshot beside its log. -/
def ofParts (d : Document) (log : EventLog) : Except Fault Registry := do
  let items ← (← d.lookup "records" (.list [])).toItems
  let records ← items.mapM Record.ofDocument
  let records := records.foldl (fun known r => putRecord known r.1 r.2) []
  let nextId ← (← d.lookup "next_id" (.integer 1)).toInteger
  return ⟨records, max nextId (freeId records), log⟩

/-- Read a snapshot, with the number of identifiers drawn so far and after it. -/
def restore (s : Surroundings) (drawn : Nat) (d : Document) : Nat × Except Fault Registry :=
  match d.lookup "events" (.list []) with
  | .error f => (drawn, .error f)
  | .ok events =>
    match EventLog.ofDocument s drawn events with
    | (drawn, .error f) => (drawn, .error f)
    | (drawn, .ok log) => (drawn, ofParts d log)

end RuleBound.Registry
