import RuleBound.Document.Display
import RuleBound.Text.Utf8
import RuleBound.Text.Base64
import RuleBound.Text.Pattern.Reader
import RuleBound.Web.Host

/-!
Faults: everything that can keep an operation from answering.

A refusal is an answer, not a fault. Each constructor is a cause; `Fault.message` words it and
`Fault.code` names the family that journals and callers sort it into.
-/

namespace RuleBound

/-- One thing wrong with an intent or a document. -/
structure Issue where
  field : String
  message : String
  deriving DecidableEq, Repr

/-- The issue as one line. -/
def Issue.line (i : Issue) : String := i.field ++ ": " ++ i.message

/-- Why the file tree could not do what it was asked. -/
inductive DiskFault
  /-- Nothing is there. -/
  | absent (path : String)
  /-- Something is there already. -/
  | taken (path : String)
  /-- A file stands where a directory is needed. -/
  | notDirectory (path : String)
  /-- A directory stands where a file is needed. -/
  | isDirectory (path : String)
  /-- A path or a name in it is longer than any can be. -/
  | nameTooLong (path : String)
  /-- A path has a NUL in it. -/
  | hasNul
  deriving DecidableEq, Repr

/-- The family of a disk fault. -/
def DiskFault.code : DiskFault → String
  | .absent _ => "FileNotFoundError"
  | .taken _ => "FileExistsError"
  | .notDirectory _ => "NotADirectoryError"
  | .isDirectory _ => "IsADirectoryError"
  | .nameTooLong _ => "OSError"
  | .hasNul => "ValueError"

/-- A disk fault in words, with its number. -/
def DiskFault.message : DiskFault → String
  | .absent path => "[Errno 2] No such file or directory: " ++ Text.quoted path
  | .taken path => "[Errno 17] File exists: " ++ Text.quoted path
  | .notDirectory path => "[Errno 20] Not a directory: " ++ Text.quoted path
  | .isDirectory path => "[Errno 21] Is a directory: " ++ Text.quoted path
  | .nameTooLong path => "[Errno 36] File name too long: " ++ Text.quoted path
  | .hasNul => "embedded null byte"

/-- A whole number that has too many digits to be read or written, in words. -/
def longNumeralText (digits : Option Nat) : String :=
  "Exceeds the limit (4300 digits) for integer string conversion" ++
    (match digits with
      | some n => s!": value has {n} digits"
      | none => "") ++ "; use sys.set_int_max_str_digits() to increase the limit"

/-- Why a text is not YAML. -/
inductive YamlFault
  /-- The text breaks the grammar. -/
  | misshapen
  /-- The text holds a character that has no place in it. -/
  | character
  deriving DecidableEq, Repr

/-- Why an exported key cannot be imported. -/
inductive KeyFault
  | notDocument
  | notOctets
  | algorithm (shown : String)
  | missing
  | material
  | size (bits : Nat)
  deriving DecidableEq, Repr

/-- A key fault in words. -/
def KeyFault.message : KeyFault → String
  | .notDocument => "exported key is not valid JSON"
  | .notOctets => "exported key must be an 'oct' JWK"
  | .algorithm shown => "unsupported key algorithm: " ++ shown
  | .missing => "exported key is missing 'k'"
  | .material => "exported key material is not base64url"
  | .size bits => s!"key must be 256 bits, got {bits}"

/-- Why the fragment of a link holds no key. -/
inductive FragmentFault
  | base64 (defect : Text.Base64Defect)
  | utf8 (defect : Text.Utf8Defect)
  | key (fault : KeyFault)
  deriving DecidableEq, Repr

/-- A fragment fault in words. -/
def FragmentFault.message : FragmentFault → String
  | .base64 defect => defect.message
  | .utf8 defect => defect.message
  | .key fault => fault.message

/-- Why a text is no capability link. -/
inductive LinkFault
  | noFragment
  | notWeb
  | noObject (tail : String)
  | fragment (cause : FragmentFault)
  deriving DecidableEq, Repr

/-- A link fault in words. -/
def LinkFault.message : LinkFault → String
  | .noFragment => "capability link has no key fragment"
  | .notWeb => "capability link must be an http(s) URL"
  | .noObject tail => "capability link has no object id: " ++ Text.quoted tail
  | .fragment cause => "capability link key fragment is invalid: " ++ cause.message

/-- Why sealed content cannot be opened. -/
inductive OpenFault
  | notHex
  | nonceSize
  | forged
  deriving DecidableEq, Repr

/-- An opening fault in words. -/
def OpenFault.message : OpenFault → String
  | .notHex => "cannot open: iv/ciphertext are not hex"
  | .nonceSize => "cannot open: iv must be 12 bytes"
  | .forged => "cannot open: authentication failed"

/-- What went wrong on the way to a remote service. -/
inductive NetworkFault
  /-- The request could not be sent. -/
  | unreachable (text : String)
  /-- The connection broke. -/
  | broken (text : String)
  deriving DecidableEq, Repr

/-- A network fault in words. -/
def NetworkFault.message : NetworkFault → String
  | .unreachable text => "<urlopen error " ++ text ++ ">"
  | .broken text => text

/-- Why a content store failed. Pointers are kept as messages show them. -/
inductive StorageCause
  /-- The pointer is no digest. -/
  | notDigest
  | absent (pointer : String)
  /-- The stored bytes are not the ones that the pointer names. -/
  | altered (pointer : String)
  | unwritable (path : String) (fault : DiskFault)
  | unreadable (path : String) (fault : DiskFault)
  /-- The stored bytes are no document. -/
  | notJson (pointer : String)
  /-- The remote service has no access token. -/
  | noToken
  | uploadBroken (fault : NetworkFault)
  /-- The answer to an upload is not UTF-8. -/
  | uploadNotUtf8 (defect : Text.Utf8Defect)
  /-- The answer to an upload is not JSON. -/
  | uploadNotJson
  /-- A whole number in the answer to an upload has too many digits. -/
  | uploadNumeral (digits : Option Nat)
  /-- The answer to an upload names no content identifier. -/
  | noIdentifier
  /-- A content identifier is empty or holds a slash. -/
  | badIdentifier (shown : String)
  | fetchBroken (pointer : String) (fault : NetworkFault)
  /-- A metadata document commits to other rules than the record. -/
  | rulesDiffer (id : Int)
  | unavailable (text : String)
  deriving DecidableEq, Repr

/-- The cause of a storage failure in words. -/
def StorageCause.message : StorageCause → String
  | .notDigest => "pointer must be 64 lowercase hex chars"
  | .absent pointer => "content not found: " ++ pointer
  | .altered pointer => "content digest mismatch for " ++ pointer
  | .unwritable path fault => "failed to write " ++ path ++ ": " ++ fault.message
  | .unreadable path fault => "failed to read " ++ path ++ ": " ++ fault.message
  | .notJson pointer => "content at " ++ pointer ++ " is not JSON"
  | .noToken => "Pinata JWT is not configured"
  | .uploadBroken fault => "Pinata upload failed: " ++ fault.message
  | .uploadNotUtf8 defect => "Pinata upload failed: " ++ defect.message
  | .uploadNotJson => "Pinata upload failed: <json error>"
  | .uploadNumeral digits => "Pinata upload failed: " ++ longNumeralText digits
  | .noIdentifier => "Pinata upload response has no IpfsHash"
  | .badIdentifier shown => "invalid CID: " ++ shown
  | .fetchBroken pointer fault =>
    "failed to fetch " ++ pointer ++ " from gateway: " ++ fault.message
  | .rulesDiffer id =>
    "metadata for RDO " ++ toString id ++ " does not match the registry rules hash"
  | .unavailable text => text

/-- Why settings cannot be read or changed. -/
inductive SettingsFault
  | noFile (path : String)
  | notYaml (path : String)
  | notMapping (path : String)
  | unknownKey (key : String)
  | notSection (key : String)
  | noSuchPath (path : String)
  /-- The setting's own check turned the value down. -/
  | declined (shown : String)
  deriving DecidableEq, Repr

/-- A settings fault in words. -/
def SettingsFault.message : SettingsFault → String
  | .noFile path => "Configuration file not found: " ++ path
  | .notYaml path => "Invalid YAML in " ++ path ++ ": "
  | .notMapping path => "Configuration root must be a mapping: " ++ path
  | .unknownKey key => "Unknown config key: " ++ key
  | .notSection key => "Invalid config section: " ++ key
  | .noSuchPath path => "Invalid config path: " ++ path
  | .declined shown => "Invalid value for config: " ++ shown

/-- Why an operation gave no answer. -/
inductive Fault
  /-- A value has a type that the operation cannot work with. -/
  | wrongType
  /-- A field or name is missing. -/
  | missing (name : Document)
  /-- A value has no such part. -/
  | noPart
  /-- A place lies outside a sequence. -/
  | noItem
  /-- A number is out of the range that its use allows. -/
  | outOfRange
  /-- A text is no whole number. -/
  | notInteger (text : String)
  /-- A text is no number. -/
  | notReal (text : String)
  /-- A double that is no number has no whole part. -/
  | nanInteger
  /-- A value is none of the choices of a kind. -/
  | notChoice (value : Document) (kind : String)
  /-- A text is no level of a journal. -/
  | notLevel (text : String)
  /-- A count is below zero. -/
  | negativeCount
  /-- A number is not that of a byte. -/
  | notByte
  /-- A text does not spell bytes. -/
  | notHex
  /-- An item of a list of pairs has the wrong length. -/
  | notPair (index length : Nat)
  /-- A text is not JSON. -/
  | notJson
  /-- A text is not YAML. -/
  | notYaml (cause : YamlFault)
  /-- A whole number is written with too many digits, or would have to be. -/
  | numeralTooLong (digits : Option Nat)
  /-- Bytes are not UTF-8. -/
  | notUtf8 (defect : Text.Utf8Defect)
  /-- A text has no bytes. -/
  | notEncodable (defect : Text.SurrogateDefect)
  /-- The host of an address is none. -/
  | host (fault : Web.HostFault)
  /-- A text is no pattern. -/
  | pattern (fault : Text.PatternFault)
  /-- A subscriber or caller gave up with a text of its own. -/
  | gaveUp (text : String)
  /-- A fault of the domain without a closer cause. -/
  | domain (text : String)
  /-- A fault without any known cause. -/
  | unknown (text : String)
  /-- A double where only exact numbers may stand. -/
  | realInCanonical (path : String)
  | rulesVersion (value : Document)
  | eventType (value : Document)
  | noSchema (path : String)
  | attemptLimit
  | key (fault : KeyFault)
  | link (fault : LinkFault)
  | sealed (fault : OpenFault)
  | invalid (issues : List Issue)
  | malformed (field message : String)
  | notFound (id : Document)
  | disk (fault : DiskFault)
  | settings (fault : SettingsFault)
  /-- A command was used in a way it does not support. -/
  | command (message : String)
  /-- The content store failed; the pointer it was asked for, if any, is kept. -/
  | storage (cause : StorageCause) (pointer : Document)
  /-- All attempts were used up; the last fault is kept. -/
  | exhausted (attempts : Document) (last : Fault)
  /-- A content store operation failed at every attempt. -/
  | storageExhausted (what : String) (attempts : Document) (last : Fault)
  deriving DecidableEq, Repr

namespace Fault

/-- The fault in words. -/
def message : Fault → String
  | wrongType => "unsuitable type"
  | missing name => name.quoted
  | noPart => "no such part"
  | noItem => "list index out of range"
  | outOfRange => "number out of range"
  | notInteger text =>
    "invalid literal for int() with base 10: " ++ String.ofList ((Text.quoted text).toList.take 200)
  | notReal text => "could not convert string to float: " ++ Text.quoted text
  | nanInteger => "cannot convert float NaN to integer"
  | notChoice value kind => value.quoted ++ " is not a valid " ++ kind
  | notLevel text => "Unknown level: " ++ Text.quoted text
  | negativeCount => "negative count"
  | notByte => "bytes must be in range(0, 256)"
  | notHex => "not in hexadecimal digits"
  | notPair index length =>
    s!"dictionary update sequence element #{index} has length {length}; 2 is required"
  | notJson => "<json error>"
  | notYaml _ => "<yaml error>"
  | numeralTooLong digits => longNumeralText digits
  | notUtf8 defect => defect.message
  | notEncodable defect => defect.message
  | host fault => fault.message
  | pattern _ => "unsuitable pattern"
  | gaveUp text => text
  | domain text => text
  | unknown text => text
  | realInCanonical path => "Float not allowed in canonical JSON at " ++ path
  | rulesVersion value => "unsupported rules version: " ++ value.quoted
  | eventType value => "unknown event type: " ++ value.quoted
  | noSchema path => "schema not found: " ++ path
  | attemptLimit => "max_attempts must be >= 1"
  | key fault => fault.message
  | link fault => fault.message
  | sealed fault => fault.message
  | invalid issues => "Validation failed: " ++ "; ".intercalate (issues.map Issue.line)
  | malformed field message => field ++ ": " ++ message
  | notFound id => "RDO not found: " ++ id.shown
  | disk fault => fault.message
  | settings fault => fault.message
  | command message => message
  | storage cause _ => cause.message
  | exhausted attempts last =>
    "Retry exhausted after " ++ attempts.shown ++ " attempts: " ++ last.message
  | storageExhausted what attempts last =>
    what ++ " failed after " ++ attempts.shown ++ " attempts: " ++ last.message

/-- The family of a fault. -/
def code : Fault → String
  | wrongType => "TypeError"
  | missing _ => "KeyError"
  | noPart => "AttributeError"
  | noItem => "IndexError"
  | outOfRange => "OverflowError"
  | notInteger _ | notReal _ | nanInteger | notChoice _ _ | notLevel _ | negativeCount | notByte
  | notHex | notPair _ _ | numeralTooLong _ | host _ | gaveUp _ | realInCanonical _
  | rulesVersion _ | eventType _ | attemptLimit | key _ => "ValueError"
  | pattern .malformed => "error"
  | pattern .tooManyRounds => "OverflowError"
  | pattern .contradiction => "ValueError"
  | notJson => "JSONDecodeError"
  | notYaml .misshapen => "ParserError"
  | notYaml .character => "ReaderError"
  | notUtf8 _ => "UnicodeDecodeError"
  | notEncodable _ => "UnicodeEncodeError"
  | domain _ => "RDOError"
  | unknown _ => "Exception"
  | noSchema _ => "FileNotFoundError"
  | link _ => "LinkError"
  | sealed _ => "DecryptionError"
  | invalid _ => "ValidationErrors"
  | malformed _ _ => "MalformedRequest"
  | notFound _ => "NotFound"
  | disk fault => fault.code
  | settings (.declined _) => "ConfigValidationError"
  | settings _ => "ConfigError"
  | command _ => "CLIError"
  | storage _ _ | storageExhausted _ _ _ => "StorageError"
  | exhausted _ _ => "RetryExhaustedError"

/-- The pointer that a storage fault is about, null if there is none. -/
def pointer : Fault → Document
  | storage _ pointer => pointer
  | storageExhausted _ _ last => last.pointer
  | _ => .null

/-- Families of faults that a retry policy can name. -/
inductive Family
  | any
  | value
  | missing
  | domain
  | storage
  | notFound
  deriving DecidableEq, Repr

/-- Whether a fault is a bad value: one of the right type that is not acceptable. -/
def isValueFault : Fault → Bool
  | notJson | notUtf8 _ | notEncodable _ => true
  | f => f.code == "ValueError"

/-- Whether a fault belongs to this library's own domain. -/
def isDomainFault : Fault → Bool
  | domain _ | link _ | sealed _ | invalid _ | malformed _ _ | notFound _ | storage _ _
  | storageExhausted _ _ _ => true
  | _ => false

/-- Whether a fault belongs to a family. -/
def isIn (f : Fault) : Family → Bool
  | .any => true
  | .value => f.isValueFault
  | .missing => match f with
    | missing _ => true
    | _ => false
  | .domain => f.isDomainFault
  | .storage => match f with
    | storage _ _ | storageExhausted _ _ _ => true
    | _ => false
  | .notFound => match f with
    | notFound _ => true
    | _ => false

end Fault

end RuleBound
