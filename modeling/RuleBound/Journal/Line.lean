import RuleBound.Journal.Note
import RuleBound.Document.Writer
import RuleBound.Fault
import RuleBound.Text.LetterCase

/-!
Journal lines: entries as JSON objects or as plain text.

A JSON line leaves out what is missing, empty text and empty objects. A plain line holds the
moment, the level, the origin and the message. Nothing is written of a moment that a line has no
room for: the year of a JSON line has four digits, and that of a plain line 32 bits.
-/

namespace RuleBound

-- Powers are those of the core library, whichever others are known.
attribute [local instance (high)] instPowNat

/-- The moment that a number of seconds since the beginning of 1970 means. -/
structure Moment where
  year : Int
  month : Nat
  day : Nat
  hour : Nat
  minute : Nat
  second : Nat
  deriving DecidableEq, Repr

namespace Moment

/-- The year, month and day of a day counted from the beginning of 1970. Years are taken to begin
in March, so that the leap day ends a year; 400 years have 146097 days. -/
def ofDay (day : Int) : Int × Nat × Nat :=
  let shifted := day + 719468
  let era := shifted.fdiv 146097
  let dayOfEra := (shifted - era * 146097).toNat
  let yearOfEra := (dayOfEra - dayOfEra / 1460 + dayOfEra / 36524 - dayOfEra / 146096) / 365
  let dayOfYear := dayOfEra - (365 * yearOfEra + yearOfEra / 4 - yearOfEra / 100)
  let marchMonth := (5 * dayOfYear + 2) / 153
  let month := if marchMonth < 10 then marchMonth + 3 else marchMonth - 9
  let year := yearOfEra + era * 400 + (if month ≤ 2 then 1 else 0)
  (year, month, dayOfYear - (153 * marchMonth + 2) / 5 + 1)

/-- The moment of a number of seconds. -/
def ofSeconds (now : Int) : Moment :=
  let (year, month, day) := ofDay (now.fdiv 86400)
  let rest := (now.fmod 86400).toNat
  ⟨year, month, day, rest / 3600, rest / 60 % 60, rest % 60⟩

/-- A number with zeros in front, up to a width. -/
def padded (width n : Nat) : String :=
  let ds := toString n
  String.ofList (List.replicate (width - ds.length) '0') ++ ds

/-- The date of a moment, its year with at least some number of digits. -/
def date (m : Moment) (yearDigits : Nat) : String :=
  let year := if m.year < 0 then toString m.year else padded yearDigits m.year.toNat
  year ++ "-" ++ padded 2 m.month ++ "-" ++ padded 2 m.day

/-- The time of day of a moment. -/
def time (m : Moment) : String :=
  padded 2 m.hour ++ ":" ++ padded 2 m.minute ++ ":" ++ padded 2 m.second

/-- A moment with its offset from world time. -/
def zoned (m : Moment) : String := m.date 4 ++ "T" ++ m.time ++ "+00:00"

/-- Whether the year has at most four digits and is not before the first. -/
def isCommon (m : Moment) : Bool := 1 ≤ m.year && m.year ≤ 9999

/-- Whether the year, counted from 1900, has 32 bits. -/
def isCountable (m : Moment) : Bool := -2 ^ (31 : Nat) + 1900 ≤ m.year && m.year < 2 ^ (31 : Nat)

end Moment

/-- The fields of a journal line, in order. -/
def lineFields : List String :=
  ["timestamp", "level", "logger", "message", "correlation_id", "layer", "operation",
    "duration_ms", "error_code", "context", "exception"]

/-- Whether a field of a line says nothing. -/
def saysNothing (d : Document) : Bool := d == .null || d == .text "" || d == .object []

/-- A line from given fields: those that say nothing are left out. -/
def lineDocument (given : List (String × Document)) : Document :=
  .object (lineFields.filterMap fun name =>
    match Document.field? given name with
    | some d => if saysNothing d then none else some (name, d)
    | none => none)

/-- The line of fields that someone else put together: it has to have the first four fields and
none that lines do not have. -/
def lineOfFields (given : List (String × Document)) : Except Fault Document :=
  if (lineFields.take 4).all fun name => (Document.field? given name).isSome then
    if given.all fun f => lineFields.contains f.1 then .ok (lineDocument given)
    else .error .wrongType
  else .error .wrongType

namespace Entry

/-- The moment of an entry. -/
def moment (e : Entry) : Moment := Moment.ofSeconds e.now

/-- An entry as a document. -/
def toDocument (e : Entry) : Document :=
  lineDocument [("timestamp", .text e.moment.zoned),
    ("level", .text e.note.level.name), ("logger", .text e.note.origin.fullName),
    ("message", .text e.note.message), ("correlation_id", e.correlation),
    ("layer", .text e.note.origin.layer), ("operation", e.note.operation),
    ("duration_ms", e.note.duration), ("error_code", e.note.errorCode),
    ("context", .object e.note.context), ("exception", e.note.failure)]

/-- An entry as a JSON line. -/
def jsonLine (e : Entry) : String := e.toDocument.toJson .line

/-- An entry in plain words: a line, and beneath it what is told about a failure. -/
def plainText (e : Entry) : String :=
  let line := e.moment.date 1 ++ " " ++ e.moment.time ++ ",000 " ++ e.note.level.title ++ " " ++
    e.note.origin.fullName ++ ": " ++ e.note.message
  match e.note.failure with
  | .text failure => line ++ (if line.toList.getLast? = some '\n' then "" else "\n") ++ failure
  | _ => line

end Entry

/-- How a journal is kept: from which level on, and as what sort of lines. Without a level, only
warnings and what is worse are kept. -/
structure JournalStyle where
  level : Option Level
  asJson : Bool
  deriving DecidableEq, Repr

/-- The level that a word stands for, in any case; there is a word for none. -/
def Level.ofWord (word : String) : Except Fault (Option Level) :=
  match Text.upper word with
  | "DEBUG" => .ok (some .debug)
  | "INFO" => .ok (some .info)
  | "WARNING" | "WARN" => .ok (some .warning)
  | "ERROR" => .ok (some .error)
  | "CRITICAL" | "FATAL" => .ok (some .critical)
  | "NOTSET" => .ok none
  | "BASIC_FORMAT" => .error (.notLevel "%(levelname)s:%(name)s:%(message)s")
  | "_STYLES" => .error .wrongType
  | _ => .error .noPart

namespace JournalStyle

/-- The style that a level and a sort of lines describe. -/
def ofDocuments (level lineFormat : Document) : Except Fault JournalStyle :=
  match level with
  | .text word => do return ⟨← Level.ofWord word, lineFormat == .text "json"⟩
  | _ => .error .noPart

/-- The rank of the level; zero if there is none. -/
def rank (style : JournalStyle) : Nat := (style.level.map Level.rank).getD 0

/-- Whether notes of a level are kept. -/
def keeps (style : JournalStyle) (l : Level) : Bool :=
  (style.level.getD .warning).rank ≤ l.rank

/-- What is written for entries that matter enough. -/
def texts (style : JournalStyle) (entries : List Entry) : List String :=
  let entries := entries.filter fun e => style.keeps e.note.level
  if style.asJson then (entries.filter (·.moment.isCommon)).map Entry.jsonLine
  else (entries.filter (·.moment.isCountable)).map Entry.plainText

end JournalStyle

end RuleBound
