import RuleBound.Metadata
import RuleBound.Store.Pinned
import RuleBound.Journal.Note

/-!
Settings: what can be set, how it is called, what holds if nothing is set, and which values are
acceptable.

Every setting belongs to a group and is bound to a variable of the environment. The type of its
default says how the text of that variable is read.
-/

namespace RuleBound

/-- What can be set. -/
inductive Setting
  | stateDirectory
  | snapshotFile
  | backend
  | token
  | gateway
  | timeout
  | origin
  | image
  | attempts
  | baseDelay
  | level
  | lineFormat
  deriving DecidableEq, Repr

namespace Setting

/-- All settings, group by group. -/
def all : List Setting :=
  [stateDirectory, snapshotFile, backend, token, gateway, timeout, origin, image, attempts,
    baseDelay, level, lineFormat]

/-- The group of a setting. -/
def group : Setting → String
  | stateDirectory | snapshotFile => "registry"
  | backend | token | gateway | timeout => "storage"
  | origin | image | attempts | baseDelay => "protocol"
  | level | lineFormat => "observability"

/-- The groups of settings. -/
def groups : List String := ["registry", "storage", "protocol", "observability"]

/-- The name of a setting within its group. -/
def name : Setting → String
  | stateDirectory => "state_dir"
  | snapshotFile => "snapshot_file"
  | backend => "backend"
  | token => "pinata_jwt"
  | gateway => "gateway_url"
  | timeout => "timeout_seconds"
  | origin => "origin"
  | image => "default_image"
  | attempts => "retry_max_attempts"
  | baseDelay => "retry_base_delay_seconds"
  | level => "log_level"
  | lineFormat => "log_format"

/-- The path of a setting: its group, a point and its name. -/
def path (s : Setting) : String := s.group ++ "." ++ s.name

/-- The setting of a path. -/
def ofPath? (path : String) : Option Setting := all.find? fun s => s.path == path

/-- The setting of a name within a group. -/
def ofName? (group name : String) : Option Setting :=
  all.find? fun s => s.group == group && s.name == name

/-- The variable of the environment that a setting is bound to. -/
def variableName : Setting → String
  | stateDirectory => "RDO_STATE_DIR"
  | snapshotFile => "RDO_SNAPSHOT_FILE"
  | backend => "RDO_STORAGE_BACKEND"
  | token => "RDO_PINATA_JWT"
  | gateway => "RDO_GATEWAY_URL"
  | timeout => "RDO_STORAGE_TIMEOUT"
  | origin => "RDO_ORIGIN"
  | image => "RDO_DEFAULT_IMAGE"
  | attempts => "RDO_RETRY_MAX_ATTEMPTS"
  | baseDelay => "RDO_RETRY_BASE_DELAY"
  | level => "RDO_LOG_LEVEL"
  | lineFormat => "RDO_LOG_FORMAT"

/-- What holds if nothing is set. -/
def default : Setting → Document
  | stateDirectory => .text ".rdo"
  | snapshotFile => .text "registry.json"
  | backend => .text "file"
  | token => .text ""
  | gateway => .text PinningService.defaultGateway
  | timeout => .real (Binary64.ofRatio false 30 1)
  | origin => .text "https://rdo.app/rdo"
  | image => .text Metadata.defaultImage
  | attempts => .integer 3
  | baseDelay => .real (Binary64.ofRatio false 1 2)
  | level => .text Level.warning.name
  | lineFormat => .text "json"

/-- Whether the value of a setting is not to be shown. -/
def isSecret (s : Setting) : Bool := s == token

/-- Whether a document is one of some words. -/
def isWord (words : List String) (d : Document) : Except Fault Bool :=
  .ok (words.any fun w => d == .text w)

/-- Whether a text begins like a web address. -/
def isWebAddress : Document → Except Fault Bool
  | .text s => .ok ("http://".toList.isPrefixOf s.toList || "https://".toList.isPrefixOf s.toList)
  | _ => .error .noPart

/-- Whether a number stands in some order to a whole number. -/
def isBeside (accepts : Ordering → Bool) (n : Int) (d : Document) : Except Fault Bool :=
  if d.numeric?.isNone then .error .wrongType
  else .ok ((d.compareNumbers? (.integer n)).any accepts)

/-- Whether a value is acceptable for a setting. Some values are of a type that cannot even be
asked. -/
def accepts : Setting → Document → Except Fault Bool
  | stateDirectory, d => .ok d.isTrue
  | snapshotFile, d => if d.isTrue then d.holdsSlash.map not else .ok false
  | backend, d => isWord ["memory", "file", "pinata"] d
  | token, _ | image, _ => .ok true
  | gateway, d | origin, d => isWebAddress d
  | timeout, d => isBeside (· == .gt) 0 d
  | attempts, d => isBeside (· != .lt) 1 d
  | baseDelay, d => isBeside (· != .lt) 0 d
  | level, d => isWord (Level.all.map Level.name) d
  | lineFormat, d => isWord ["json", "text"] d

/-- Read the text of a variable as the type of a default. -/
def readAs (default : Document) (text : String) : Except Fault Document :=
  match default with
  | .bool _ => .ok (.bool (["true", "1", "yes", "on"].contains (Text.lower text)))
  | .integer _ => (Document.text text).toInteger.map .integer
  | .real _ =>
    match Text.readReal? text with
    | some x => .ok (.real x)
    | none => .error (.notReal text)
  | _ => .ok (.text text)

/-- The value that holds, given a default, what was set and the text of the variable: the variable
comes first and the default last. -/
def resolve (default : Document) (override : Option Document) (variableText : Option String) :
    Except Fault Document :=
  match variableText with
  | some text => readAs default text
  | none => .ok (override.getD default)

end Setting

end RuleBound
