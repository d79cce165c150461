import RuleBound.Key
import RuleBound.Web.Address

/-!
Capability links: an address that names an object and carries, in its fragment, the key to its
content. Whoever has the link can open the content once the registry allows it.

A link is written as the origin, a slash, the object's number and, after a number sign, the
exported key in address-safe base 64. Reading is wider than writing: it takes either alphabet,
any padding, blanks around the fragment, and queries and slashes that it drops.
-/

namespace RuleBound

/-- A link to an object and its content. The identifier of a link that was read is a whole number
above zero. -/
structure CapabilityLink where
  origin : String
  objectId : Document
  key : ContentKey
  deriving DecidableEq

namespace CapabilityLink

/-- A text without slashes at its end. -/
def dropEndSlashes (cs : List Char) : List Char := Text.dropEndWhile (· == '/') cs

/-- The fragment that carries a key. -/
def fragmentOf (key : ContentKey) : String := Text.toBase64Url (Text.utf8 key.exported)

/-- A link as text. -/
def build (l : CapabilityLink) : String :=
  String.ofList (dropEndSlashes l.origin.toList) ++ "/" ++ l.objectId.shown ++ "#" ++
    fragmentOf l.key

/-- The key that a fragment carries. -/
def keyOfFragment (fragment : String) : Except FragmentFault ContentKey :=
  match Text.fromBase64Url (Text.strip fragment) with
  | .error defect => .error (.base64 defect)
  | .ok content =>
    match Text.fromUtf8 content with
    | .error defect => .error (.utf8 defect)
    | .ok s =>
      match ContentKey.importText s with
      | .ok key => .ok key
      | .error fault => .error (.key fault)

/-- The number that the last segment of a path is; none if it is no number above zero. -/
def objectIdOf (segment : List Char) : Except Fault (Option Nat) :=
  if segment.isEmpty || !segment.all Char.isDigit then .ok none
  else if Text.integerDigitLimit < segment.length then
    .error (.numeralTooLong (some segment.length))
  else
    let n := Text.digitsToNat segment
    .ok (if n = 0 then none else some n)

/-- Split a path, without slashes at its end, before the last slash: what stands in front of it
and the last segment. -/
def splitPath (path : List Char) : List Char × List Char :=
  let path := dropEndSlashes path
  let last := (path.reverse.takeWhile (· != '/')).reverse
  (path.take (path.length - last.length - 1), last)

/-- Read a link from text. -/
def parseText (text : String) : Except Fault CapabilityLink := do
  let cs := text.toList
  if !cs.contains '#' then throw (.link .noFragment)
  let base := cs.takeWhile (· != '#')
  let fragment := (cs.dropWhile (· != '#')).drop 1
  let a ← Web.split (String.ofList base)
  if (a.scheme ≠ "http" ∧ a.scheme ≠ "https") ∨ a.host = "" then throw (.link .notWeb)
  let (head, tail) := splitPath a.path.toList
  match ← objectIdOf tail with
  | none => throw (.link (.noObject (String.ofList tail)))
  | some id =>
    match keyOfFragment (String.ofList fragment) with
    | .error cause => throw (.link (.fragment cause))
    | .ok key => return ⟨a.scheme ++ "://" ++ a.host ++ String.ofList head, .integer id, key⟩

/-- Read a link from a document, which has to be a text. -/
def parse (d : Document) : Except Fault CapabilityLink :=
  match d with
  | .text s => parseText s
  | _ => .error (.link .noFragment)

/-- A link with all its parts, its key among them. -/
def toFields (l : CapabilityLink) : List (String × Document) :=
  [("origin", .text l.origin), ("rdo_id", l.objectId),
    ("key", .text (Text.toHex l.key.bytes))]

/-- What a link shows of itself: not its key. -/
def shown (l : CapabilityLink) : String :=
  "CapabilityLink(origin=" ++ Text.quoted l.origin ++ ", rdo_id=" ++ l.objectId.shown ++
    ", key=<redacted>)"

end CapabilityLink

end RuleBound
