import RuleBound.Event.Basic
import RuleBound.Text.LetterCase

/-!
The event log: append-only, one sequence of events over all objects.

The events of one object form its stream; the stream of an object is a view of the log. A stream
is named by any value that has no parts; numbers that are equal name one stream. A record is found
by its reference, which is the digest of its event unless a document gave another. Of two records
with one reference the later is found.
-/

namespace RuleBound

/-- An event in the log. -/
structure LogRecord where
  /-- The place in the whole log, from one on. -/
  sequence : Int
  event : Event
  stream : Document
  /-- The place in the stream, from one on. -/
  version : Int
  reference : String
  deriving DecidableEq, Inhabited

/-- All recorded events, the oldest first, and the highest sequence number given so far. -/
structure EventLog where
  records : List LogRecord := []
  sequence : Int := 0
  deriving DecidableEq, Inhabited

namespace LogRecord

/-- A record as a document. -/
def toDocument (r : LogRecord) : Document :=
  .object [("sequence_number", .integer r.sequence), ("event", r.event.toDocument),
    ("stream_id", r.stream), ("version", .integer r.version),
    ("tx_ref", .text r.reference)]

/-- Read a record from a document, given how its event is read. A missing or empty reference is
computed anew. -/
def ofParts (d : Document) (sequence : Int) (event : Event) : Except Fault LogRecord := do
  let stream := (← d.require "stream_id").shown
  let version ← (← d.require "version").toInteger
  let given ← d.lookup "tx_ref" .null
  let reference ← if given.isTrue then .ok given.shown else event.digest
  return ⟨sequence, event, .text stream, version, reference⟩

/-- Read a record, with the number of identifiers drawn so far and after it. -/
def ofDocument (s : Surroundings) (drawn : Nat) (d : Document) : Nat × Except Fault LogRecord :=
  let head : Except Fault (Int × Document) := do
    let sequence ← (← d.require "sequence_number").toInteger
    return (sequence, ← d.require "event")
  match head with
  | .error f => (drawn, .error f)
  | .ok (sequence, body) =>
    match Event.ofDocument s drawn body with
    | (drawn, .error f) => (drawn, .error f)
    | (drawn, .ok event) => (drawn, ofParts d sequence event)

end LogRecord

namespace EventLog

/-- The events of one stream, the oldest first. -/
def stream (log : EventLog) (name : Document) : List LogRecord :=
  log.records.filter fun r => r.stream.agrees name

/-- The events of a stream that a caller names. -/
def read (log : EventLog) (name : Document) : Except Fault (List LogRecord) :=
  if name.isScalar then .ok (log.stream name) else .error .wrongType

/-- Append an event. The sequence number is used up even if the event has no digest, but not if
the stream cannot be named so. -/
def append (log : EventLog) (stream : Document) (event : Event) :
    EventLog × Except Fault LogRecord :=
  if !stream.isScalar then (log, .error .wrongType)
  else
    let sequence := log.sequence + 1
    match event.digest with
    | .error f => ({ log with sequence := sequence }, .error f)
    | .ok reference =>
      let record : LogRecord :=
        ⟨sequence, event, stream, (log.stream stream).length + 1, reference⟩
      (⟨log.records ++ [record], sequence⟩, .ok record)

/-- The record of a reference, in whatever case the reference is written. -/
def find? (log : EventLog) (reference : String) : Option LogRecord :=
  log.records.reverse.find? fun r => r.reference == Text.lower reference

/-- Records, the latest first, with a field of the event replaced under a reference. Nothing stands
under a reference that was never given. -/
def replaceIn (reference name : String) (value : Document) :
    List LogRecord → Except Fault (List LogRecord)
  | [] => .error .noPart
  | r :: rest =>
    if r.reference = reference then do
      let event ← r.event.replaceField name value
      return { r with event } :: rest
    else (replaceIn reference name value rest).map (r :: ·)

/-- The log with a field of the event replaced that is found under a reference. The reference
stays. -/
def replaceField (log : EventLog) (reference name : String) (value : Document) :
    Except Fault EventLog := do
  let records ← replaceIn (Text.lower reference) name value log.records.reverse
  return { log with records := records.reverse }

/-- The index that a position means in a list of `length` items: negative positions count from
the end, and what lies outside is moved to the border. -/
def clampIndex (length : Nat) (position : Int) : Nat :=
  if position < 0 then (position + length).toNat else min position.toNat length

/-- The records from a position on, at most `count` of them if there is a count. Positions may
be negative, and so may the sum of position and count. -/
def slice (log : EventLog) (position : Int) (count : Option Int) : List LogRecord :=
  let n := log.records.length
  let first := clampIndex n position
  let last := match count with
    | none => n
    | some c => clampIndex n (position + c)
  (log.records.drop first).take (last - first)

/-- A bound of a slice: a whole number, or nothing. -/
def boundOf : Document → Except Fault (Option Int)
  | .null => .ok none
  | .bool b => .ok (some (if b then 1 else 0))
  | .integer n => .ok (some n)
  | _ => .error .wrongType

/-- The records from a position on that a caller names, at most as many as a caller allows. Without
a position all records are meant, but nothing can be counted from there. -/
def page (log : EventLog) (position count : Document) : Except Fault (List LogRecord) := do
  match ← boundOf position, ← boundOf count with
  | some position, count => return log.slice position count
  | none, none => return log.records
  | none, some _ => throw .wrongType

/-- The log as a list of documents. -/
def toDocument (log : EventLog) : Document := .list (log.records.map LogRecord.toDocument)

/-- A log with a record as it was read. -/
def load (log : EventLog) (r : LogRecord) : EventLog :=
  ⟨log.records ++ [r], max log.sequence r.sequence⟩

/-- Read records one after the other onto a log. -/
def loadAll (s : Surroundings) : (drawn : Nat) → EventLog → List Document →
    Nat × Except Fault EventLog
  | drawn, log, [] => (drawn, .ok log)
  | drawn, log, d :: rest =>
    match LogRecord.ofDocument s drawn d with
    | (drawn, .error f) => (drawn, .error f)
    | (drawn, .ok r) => loadAll s drawn (log.load r) rest

/-- Read a log from a sequence of records. -/
def ofDocument (s : Surroundings) (drawn : Nat) (d : Document) : Nat × Except Fault EventLog :=
  match d.toItems with
  | .error f => (drawn, .error f)
  | .ok items => loadAll s drawn {} items

end EventLog

end RuleBound
