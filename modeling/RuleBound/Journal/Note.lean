import RuleBound.Document.Basic

/-!
Notes: what the parts of the library write into the journal.

A note names its level, the part it comes from and a message; everything else is optional. Key
material, content and the fragments of links never go into a note.
-/

namespace RuleBound

/-- How much a note matters. -/
inductive Level
  | debug
  | info
  | warning
  | error
  | critical
  deriving DecidableEq, Repr, Inhabited

namespace Level

/-- All levels, the least first. -/
def all : List Level := [debug, info, warning, error, critical]

/-- The name of a level. -/
def name : Level → String
  | debug => "debug"
  | info => "info"
  | warning => "warning"
  | error => "error"
  | critical => "critical"

/-- The name of a level in capitals. -/
def title : Level → String
  | debug => "DEBUG"
  | info => "INFO"
  | warning => "WARNING"
  | error => "ERROR"
  | critical => "CRITICAL"

/-- The rank of a level. -/
def rank : Level → Nat
  | debug => 10
  | info => 20
  | warning => 30
  | error => 40
  | critical => 50

/-- The level of a name in small letters. -/
def ofName? (name : String) : Option Level := all.find? fun l => l.name == name

end Level

/-- The part of the library that a note comes from: its layer and its name within that. -/
structure Origin where
  layer : String
  name : String
  deriving DecidableEq, Repr

namespace Origin

/-- All layers. -/
def layers : List String :=
  ["compiler", "registry", "storage", "protocol", "config", "crypto", "cli"]

def compiler : Origin := ⟨"compiler", "compiler"⟩
def registry : Origin := ⟨"registry", "registry"⟩
def storage : Origin := ⟨"storage", "storage"⟩
def exchange : Origin := ⟨"protocol", "protocol"⟩
def settings : Origin := ⟨"config", "config"⟩
def sealing : Origin := ⟨"crypto", "gate"⟩
def commandLine : Origin := ⟨"cli", "cli"⟩

/-- The full name of an origin. -/
def fullName (o : Origin) : String := "rdo." ++ o.layer ++ "." ++ o.name

end Origin

/-- A note. -/
structure Note where
  level : Level
  origin : Origin
  message : String
  operation : Document := .text ""
  errorCode : Document := .text ""
  duration : Document := .null
  context : List (String × Document) := []
  /-- What is told about a failure. -/
  failure : Document := .null
  deriving DecidableEq

/-- The names of values that have places of their own in a note. -/
def Note.namedPlaces : List String := ["operation", "error_code", "duration_ms", "exc_info"]

/-- The note that named values make: some have places of their own, all others belong to the
context. -/
def Note.ofNamed (level : Level) (origin : Origin) (message : String)
    (named : List (String × Document)) : Note where
  level := level
  origin := origin
  message := message
  operation := (Document.field? named "operation").getD (.text "")
  errorCode := (Document.field? named "error_code").getD (.text "")
  duration := (Document.field? named "duration_ms").getD .null
  context := named.filter fun v => !namedPlaces.contains v.1
  failure := if ((Document.field? named "exc_info").getD .null).isTrue then noFailure else .null
where
  /-- What is told when there is no failure to tell of. -/
  noFailure : Document := .text "NoneType: None"

/-- The note that an operation has ended, well or not. -/
def Note.ended (origin : Origin) (operation : String) (duration : Document) (success : Bool)
    (named : List (String × Document)) : Note :=
  let level := if success then .info else .warning
  let message := "Operation " ++ operation ++ (if success then " completed" else " failed")
  { Note.ofNamed level origin message named with
    operation := .text operation
    duration := duration }

/-- A note with its moment and the correlation under way. -/
structure Entry where
  note : Note
  now : Int
  correlation : Document
  deriving DecidableEq

end RuleBound
