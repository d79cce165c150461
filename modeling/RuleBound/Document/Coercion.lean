import RuleBound.Bytes
import RuleBound.Fault
import RuleBound.Document.Reader
import RuleBound.Text.Numeral

/-!
Reading documents as numbers, bytes and sequences.

Whole numbers are taken from truth values, from doubles by dropping the fraction, and from text.
A sequence is a list, the characters of a text, or the names of an object. Bytes are a list of their
numbers, or a number of zeros.
-/

namespace RuleBound.Document

-- Powers are those of the core library, whichever others are known.
attribute [local instance (high)] instPowNat

/-- Read JSON text. -/
def parse (s : String) : Except Fault Document :=
  match read s with
  | .ok d => .ok d
  | .error .malformed => .error .notJson
  | .error (.numeralTooLong digits) => .error (.numeralTooLong (some digits))

/-- Characters that YAML text cannot hold. -/
def isYamlControl (c : Char) : Bool :=
  let n := c.toNat
  (n < 0x20 && n != 0x09 && n != 0x0a && n != 0x0d) || (0x7f ≤ n && n < 0xa0 && n != 0x85) ||
    n == 0xfffe || n == 0xffff

/-- Read YAML text that is also JSON text; empty text is null. -/
def parseYaml (s : String) : Except Fault Document :=
  let cs := match s.toList with
    | '\uFEFF' :: rest => rest
    | cs => cs
  if cs.any isYamlControl then .error (.notYaml .character)
  else if (skipBlanks .yaml cs).isEmpty then .ok .null
  else
    match readAs .yaml (String.ofList cs) with
    | .ok d => .ok d
    | .error (.numeralTooLong digits) => .error (.numeralTooLong (some digits))
    | .error .malformed => .error (.notYaml .misshapen)

/-- The whole number that a document stands for. -/
def toInteger : Document → Except Fault Int
  | .bool b => .ok (if b then 1 else 0)
  | .integer n => .ok n
  | .real x =>
    match x with
    | .nan => .error .nanInteger
    | .infinite _ => .error .outOfRange
    | x => match x.truncate? with
      | some n => .ok n
      | none => .error .outOfRange
  | .text s =>
    match Text.readInteger s with
    | .ok n => .ok n
    | .error .notNumeral => .error (.notInteger s)
    | .error (.tooLong digits) => .error (.numeralTooLong (some digits))
  | .null | .list _ | .object _ => .error .wrongType

/-- The byte of a number. -/
def toByte : Document → Except Fault UInt8
  | .bool b => .ok (if b then 1 else 0)
  | .integer n => if 0 ≤ n ∧ n < 256 then .ok (UInt8.ofNat n.toNat) else .error .notByte
  | _ => .error .wrongType

/-- The bytes that a document stands for: those of a list of numbers, or as many zeros as a number
says. An object without fields is an empty list. -/
def toBytes : Document → Except Fault Bytes
  | .bool b => .ok (List.replicate b.toNat 0)
  | .integer n =>
    if 2 ^ (63 : Nat) ≤ n.natAbs then .error .outOfRange
    else if n < 0 then .error .negativeCount
    else .ok (List.replicate n.toNat 0)
  | .list items => items.mapM toByte
  | .object [] => .ok []
  | _ => .error .wrongType

/-- The bytes that a text spells in hexadecimal digits. -/
def spelledBytes : Document → Except Fault Bytes
  | .text s =>
    match Text.fromHex? s with
    | some bytes => .ok bytes
    | none => .error .notHex
  | _ => .error .wrongType

/-- The items of a document that is a sequence. -/
def toItems : Document → Except Fault (List Document)
  | .list items => .ok items
  | .text s => .ok (s.toList.map fun c => .text (String.singleton c))
  | .object fields => .ok (fields.map fun f => .text f.1)
  | _ => .error .wrongType

/-- Whether a document can be a member of a set or a name in a mapping. -/
def isScalar : Document → Bool
  | .list _ | .object _ => false
  | _ => true

/-- Whether a text has a slash among its characters, a list among its items or an object among its
names. Nothing else can be looked into. -/
def holdsSlash : Document → Except Fault Bool
  | .text s => .ok (s.toList.contains '/')
  | .list items => .ok (items.contains (.text "/"))
  | .object fields => .ok ((field? fields "/").isSome)
  | _ => .error .wrongType

/-- A field that has to be there, of a document that has to be an object. -/
def require (d : Document) (name : String) : Except Fault Document :=
  match d with
  | .object fields =>
    match field? fields name with
    | some v => .ok v
    | none => .error (.missing (.text name))
  | _ => .error .wrongType

/-- A field that may be missing, of a document that has to be an object. -/
def lookup (d : Document) (name : String) (default : Document) : Except Fault Document :=
  match d with
  | .object fields => .ok ((field? fields name).getD default)
  | _ => .error .noPart

/-- A document with a value put at a path of names, all of which but the last have to be there. -/
def putAt (d : Document) (path : List String) (value : Document) : Except Fault Document :=
  match path with
  | [] => .ok value
  | [name] =>
    match d with
    | .object _ => .ok (d.withField name value)
    | _ => .error .wrongType
  | name :: rest => do
    let inner ← (← d.require name).putAt rest value
    return d.withField name inner

end RuleBound.Document
