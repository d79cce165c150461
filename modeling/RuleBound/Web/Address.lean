import RuleBound.Fault
import RuleBound.Text.Blank

/-!
Web addresses split into scheme, host and path.

Controls and spaces in front are dropped, and tabs and line ends anywhere. The scheme ends at the
first colon, if what stands before it is a letter followed by letters, digits, `+`, `-` and `.`. A
host follows two slashes and runs to the next slash, question mark or number sign. What follows
a number sign is the fragment, what follows a question mark before it the query.
-/

namespace RuleBound.Web

/-- The parts of an address that matter here. -/
structure Address where
  scheme : String
  host : String
  path : String
  deriving DecidableEq, Repr

/-- Whether a character may stand in a scheme. -/
def isSchemeChar (c : Char) : Bool := c.isAlphanum || c == '+' || c == '-' || c == '.'

/-- Split off the scheme, if there is one. -/
def splitScheme (cs : List Char) : List Char × List Char :=
  let before := cs.takeWhile (· != ':')
  match before, cs.dropWhile (· != ':') with
  | c :: _, ':' :: rest =>
    if c.isAlpha && before.all isSchemeChar then (before.map Char.toLower, rest) else ([], cs)
  | _, _ => ([], cs)

/-- Characters whose compatibility form holds a delimiter of addresses. -/
def delimiterLike : List Nat :=
  [0x2047, 0x2048, 0x2049, 0x2100, 0x2101, 0x2105, 0x2106, 0x2a74, 0xfe13, 0xfe16, 0xfe55, 0xfe56,
    0xfe5f, 0xfe6b, 0xff03, 0xff0f, 0xff1a, 0xff1f, 0xff20]

/-- Whether a character ends the host. -/
def endsHost (c : Char) : Bool := c == '/' || c == '?' || c == '#'

/-- Split off the host, if two slashes announce one. -/
def splitHost (cs : List Char) : Except Fault (List Char × List Char) :=
  match cs with
  | '/' :: '/' :: rest =>
    let host := rest.takeWhile fun c => !endsHost c
    match hostFault? host with
    | some fault => .error (.host fault)
    | none => .ok (host, rest.dropWhile fun c => !endsHost c)
  | cs => .ok ([], cs)

/-- Split an address. The path ends before the query and the fragment. -/
def split (text : String) : Except Fault Address := do
  let cs := text.toList.dropWhile fun c => c.toNat ≤ 0x20
  let cs := cs.filter fun c => c != '\t' && c != '\r' && c != '\n'
  let (scheme, rest) := splitScheme cs
  let (host, rest) ← splitHost rest
  if host.any fun c => delimiterLike.contains c.toNat then
    throw (.host (.character (String.ofList host)))
  let path := rest.takeWhile fun c => c != '?' && c != '#'
  return ⟨String.ofList scheme, String.ofList host, String.ofList path⟩

/-- Cut parameters off the last segment of a path. -/
def dropParameters (path : List Char) : List Char :=
  let last := (path.reverse.takeWhile (· != '/')).reverse
  let front := path.take (path.length - last.length)
  front ++ last.takeWhile (· != ';')

/-- Split an address whose path may end in parameters, which web schemes allow. -/
def splitParameters (text : String) : Except Fault Address := do
  let a ← split text
  if a.scheme = "http" ∨ a.scheme = "https" then
    return { a with path := String.ofList (dropParameters a.path.toList) }
  else return a

end RuleBound.Web
