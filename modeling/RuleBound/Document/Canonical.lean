import RuleBound.Document.Reader
import RuleBound.Document.Writer
import RuleBound.Digest.Sha256
import RuleBound.Fault

/-!
The canonical text of a document and its digest.

Canonical text sorts the fields at every level, writes no blanks and keeps every character that
needs no escape, so documents that differ only in the order of fields have one text. Doubles have
no place in it: a document that holds one anywhere has no canonical text, and the fault names the
path to the first one in the order of the document. Neither have whole numbers that are too long
to be written, nor texts without bytes.
-/

namespace RuleBound.Document

-- Powers are those of the core library, whichever others are known.
attribute [local instance (high)] instPowNat

mutual
/-- The path to the first double in a document, below a given path. -/
def realPath? (path : String) : Document → Option String
  | .real _ => some path
  | .list items => realPathItems? path 0 items
  | .object fields => realPathFields? path fields
  | _ => none

/-- The path to the first double among the items from `index` on. -/
def realPathItems? (path : String) (index : Nat) : List Document → Option String
  | [] => none
  | d :: rest =>
    match realPath? (path ++ "[" ++ toString index ++ "]") d with
    | some p => some p
    | none => realPathItems? path (index + 1) rest

/-- The path to the first double among the fields. -/
def realPathFields? (path : String) : List (String × Document) → Option String
  | [] => none
  | (name, d) :: rest =>
    match realPath? (path ++ "." ++ name) d with
    | some p => some p
    | none => realPathFields? path rest
end

mutual
/-- Whether a document holds a whole number that is too long to be written. -/
def hasLongNumeral : Document → Bool
  | .integer n => 10 ^ numeralLimit ≤ n.natAbs
  | .list items => hasLongNumeralItems items
  | .object fields => hasLongNumeralFields fields
  | _ => false

/-- Whether one of some items holds such a number. -/
def hasLongNumeralItems : List Document → Bool
  | [] => false
  | d :: rest => hasLongNumeral d || hasLongNumeralItems rest

/-- Whether one of some fields holds such a number. -/
def hasLongNumeralFields : List (String × Document) → Bool
  | [] => false
  | (_, d) :: rest => hasLongNumeral d || hasLongNumeralFields rest
end

/-- A document in text, as a message shows it, if all its whole numbers can be written. -/
def spelled (d : Document) : Except Fault String :=
  if d.hasLongNumeral then .error (.numeralTooLong none) else .ok d.shown

/-- A fault whose message shows a document. A whole number that is too long to be written is a fault
of its own, in place of the one that it would be shown in. -/
def faultShowing (d : Document) (f : Fault) : Fault :=
  if d.hasLongNumeral then .numeralTooLong none else f

/-- The canonical text of a document without doubles. It has to have bytes. -/
def canonical (d : Document) : Except Fault String :=
  match realPath? "" d with
  | some path => .error (.realInCanonical path)
  | none =>
    if d.hasLongNumeral then .error (.numeralTooLong none)
    else
      let text := toJson .canonical d
      match Text.surrogateDefect? text with
      | some defect => .error (.notEncodable defect)
      | none => .ok text

/-- The digest of the canonical text. -/
def canonicalDigest (d : Document) : Except Fault String :=
  d.canonical.map Sha256.ofText

end RuleBound.Document
