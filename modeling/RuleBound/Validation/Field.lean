import RuleBound.Web.Address
import RuleBound.Document.Coercion
import RuleBound.Document.Arithmetic
import RuleBound.Text.Hash

/-!
Checks of single values. A check either accepts, with the value in its clean form, or lists what
is wrong.

A text is cleaned by removing blanks around it and then every NUL. An identity is compared
verbatim elsewhere, so it is refused when cleaning would change it.
-/

namespace RuleBound

/-- An issue as a document. -/
def Issue.toDocument (i : Issue) : Document :=
  .object [("field", .text i.field), ("message", .text i.message)]

/-- The outcome of a check: the clean value and warnings, or issues. -/
inductive Review (α : Type)
  | accepted (value : α) (warnings : List String)
  | refused (issues : List Issue)
  deriving DecidableEq, Repr

namespace Review

/-- What is wrong. -/
def issues {α : Type} : Review α → List Issue
  | accepted _ _ => []
  | refused issues => issues

/-- A review as a document, with its clean value written by `clean`. -/
def toDocument {α : Type} (clean : α → Document) (r : Review α) : Document :=
  let (valid, value, warnings) := match r with
    | accepted value warnings => (true, clean value, warnings)
    | refused _ => (false, .null, [])
  .object [("is_valid", .bool valid), ("errors", .list (r.issues.map Issue.toDocument)),
    ("warnings", .ofTexts warnings), ("sanitized", value)]

/-- The value of an accepted review. -/
def toExcept {α : Type} : Review α → Except Fault α
  | accepted value _ => .ok value
  | refused issues => .error (.invalid issues)

end Review

namespace Validation

/-- A text without blanks around it and without NULs. -/
def sanitize (s : String) : String :=
  String.ofList ((Text.stripChars s.toList).filter (· != '\x00'))

/-- What is wrong with a clean text: it is shorter than a minimum, longer than a maximum, or does
not have the form that is asked for. -/
def textReview (field : String) (shorterThan longerThan : Option String) (hasForm : Bool)
    (clean : String) : Review String :=
  let issues :=
    (shorterThan.map fun m => Issue.mk field ("Too short (min " ++ m ++ " chars)")).toList ++
    (longerThan.map fun m => Issue.mk field ("Too long (max " ++ m ++ " chars)")).toList ++
    (if hasForm then [] else [Issue.mk field "Does not match required pattern"])
  if issues.isEmpty then .accepted clean [] else .refused issues

/-- The refusal of a value that is no text. -/
def noText (field : String) (value : Document) : Review String :=
  .refused [⟨field, "Expected string, got " ++ value.typeName⟩]

/-- Check a text's length in characters and, if there is one, its pattern. -/
def checkText (field : String) (minLength maxLength : Int) (pattern : Option (String → Bool))
    (value : Document) : Review String :=
  match value with
  | .text s =>
    let clean := sanitize s
    textReview field
      (if (clean.length : Int) < minLength then some (toString minLength) else none)
      (if maxLength < (clean.length : Int) then some (toString maxLength) else none)
      (pattern.all fun accepts => accepts clean) clean
  | d => noText field d

/-- Check a text between bounds that are any numbers. -/
def checkTextBetween (field : String) (minLength maxLength : Document)
    (pattern : Option (String → Bool)) (value : Document) : Except Fault (Review String) := do
  match value with
  | .text s =>
    let clean := sanitize s
    let length : Document := .integer clean.length
    let isShort ← length.isBelow minLength
    let isLong ← maxLength.isBelow length
    return textReview field (if isShort then some minLength.shown else none)
      (if isLong then some maxLength.shown else none)
      (pattern.all fun accepts => accepts clean) clean
  | d => return noText field d

/-- The greatest length of a text for which no other is given. -/
def defaultMaxLength : Int := 4096

/-- Check a text that must not be empty. -/
def checkPlainText (field : String) (value : Document) : Review String :=
  checkText field 1 defaultMaxLength none value

/-- Characters of an identity. -/
def isIdentityChar (c : Char) : Bool :=
  c.isAlphanum || c == ':' || c == '.' || c == '_' || c == '@' || c == '#' || c == '-'

/-- Whether a text is 1 to 256 identity characters, perhaps followed by a line feed. -/
def isIdentityText (s : String) : Bool :=
  let body := Text.dropFinalNewline s.toList
  1 ≤ body.length && body.length ≤ 256 && body.all isIdentityChar

/-- Check an identity. -/
def checkIdentity (field : String) (value : Document) : Review String :=
  match checkText field 1 defaultMaxLength (some isIdentityText) value with
  | .accepted clean warnings =>
    if value = .text clean then .accepted clean warnings
    else .refused [⟨field, "Must not have surrounding whitespace or NUL bytes"⟩]
  | refused => refused

/-- Check a whole number that must not be negative, where `above` tells of a greatest number that
it exceeds. -/
def countReview (field : String) (above : Option String) (n : Int) : Review Int :=
  if n < 0 then .refused [⟨field, "Must be >= 0"⟩]
  else
    match above with
    | some m => .refused [⟨field, "Must be <= " ++ m⟩]
    | none => .accepted n []

/-- The refusal of a value that is no whole number. -/
def noCount (field : String) (value : Document) : Review Int :=
  .refused [⟨field, "Expected integer, got " ++ value.typeName⟩]

/-- Check a whole number that must not be negative. -/
def checkCount (field : String) (maximum : Option Int) (value : Document) : Review Int :=
  match value with
  | .integer n =>
    countReview field (maximum.bind fun m => if m < n then some (toString m) else none) n
  | d => noCount field d

/-- Check a whole number that must not be negative, nor exceed any number unless null is given for
it. -/
def checkCountUpTo (field : String) (maximum value : Document) : Except Fault (Review Int) := do
  match value with
  | .integer n =>
    let isAbove ← if n < 0 ∨ maximum = .null then .ok false else maximum.isBelow value
    return countReview field (if isAbove then some maximum.shown else none) n
  | d => return noCount field d

/-- Check a web or content address. An address that cannot be split is a fault. -/
def checkAddress (field : String) (value : Document) : Except Fault (Review String) :=
  match checkPlainText field value with
  | .refused issues => .ok (.refused issues)
  | .accepted clean warnings => do
    let a ← Web.splitParameters clean
    if (a.scheme = "http" ∨ a.scheme = "https" ∨ a.scheme = "ipfs") ∧
        (a.host ≠ "" ∨ a.path ≠ "") then
      return .accepted clean warnings
    else return .refused [⟨field, "Must be an http(s) or ipfs URL"⟩]

end Validation

end RuleBound
