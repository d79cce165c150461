import RuleBound.Number.Decimal

/-!
Documents: the values that intents, rule sheets, snapshots, settings and metadata are written in.

A document keeps whole numbers apart from doubles and the fields of an object in the order in
which they were given. Field names are expected to be distinct; looking a name up takes the first.
-/

namespace RuleBound

/-- A value of a document. -/
inductive Document
  | null
  | bool (value : Bool)
  | integer (value : Int)
  | real (value : Binary64)
  | text (value : String)
  | list (items : List Document)
  | object (fields : List (String × Document))
  deriving Inhabited, Repr

namespace Document

mutual
/-- Equality of documents is decidable. -/
def decEq : (a b : Document) → Decidable (a = b)
  | .null, .null => isTrue rfl
  | .bool a, .bool b => decidable_of_iff (a = b) (by simp)
  | .integer a, .integer b => decidable_of_iff (a = b) (by simp)
  | .real a, .real b => decidable_of_iff (a = b) (by simp)
  | .text a, .text b => decidable_of_iff (a = b) (by simp)
  | .list a, .list b =>
    match decEqItems a b with
    | isTrue h => isTrue (by rw [h])
    | isFalse h => isFalse (by simpa using h)
  | .object a, .object b =>
    match decEqFields a b with
    | isTrue h => isTrue (by rw [h])
    | isFalse h => isFalse (by simpa using h)
  | .null, .bool _ | .null, .integer _ | .null, .real _ | .null, .text _ | .null, .list _
  | .null, .object _ | .bool _, .null | .bool _, .integer _ | .bool _, .real _
  | .bool _, .text _ | .bool _, .list _ | .bool _, .object _ | .integer _, .null
  | .integer _, .bool _ | .integer _, .real _ | .integer _, .text _ | .integer _, .list _
  | .integer _, .object _ | .real _, .null | .real _, .bool _ | .real _, .integer _
  | .real _, .text _ | .real _, .list _ | .real _, .object _ | .text _, .null | .text _, .bool _
  | .text _, .integer _ | .text _, .real _ | .text _, .list _ | .text _, .object _
  | .list _, .null | .list _, .bool _ | .list _, .integer _ | .list _, .real _ | .list _, .text _
  | .list _, .object _ | .object _, .null | .object _, .bool _ | .object _, .integer _
  | .object _, .real _ | .object _, .text _ | .object _, .list _ => isFalse (by simp)

/-- Equality of lists of documents is decidable. -/
def decEqItems : (a b : List Document) → Decidable (a = b)
  | [], [] => isTrue rfl
  | [], _ :: _ => isFalse (by simp)
  | _ :: _, [] => isFalse (by simp)
  | a :: as, b :: bs =>
    match decEq a b, decEqItems as bs with
    | isTrue h, isTrue t => isTrue (by rw [h, t])
    | isFalse h, _ => isFalse (by simp [h])
    | _, isFalse t => isFalse (by simp [t])

/-- Equality of fields of objects is decidable. -/
def decEqFields : (a b : List (String × Document)) → Decidable (a = b)
  | [], [] => isTrue rfl
  | [], _ :: _ => isFalse (by simp)
  | _ :: _, [] => isFalse (by simp)
  | (k, a) :: as, (l, b) :: bs =>
    if hk : k = l then
      match decEq a b, decEqFields as bs with
      | isTrue h, isTrue t => isTrue (by rw [hk, h, t])
      | isFalse h, _ => isFalse (by simp [h])
      | _, isFalse t => isFalse (by simp [t])
    else isFalse (by simp [hk])
end

instance : DecidableEq Document := decEq

/-- The fields of an object with the value of one name replaced in place, or added at the end. -/
def putField (fields : List (String × Document)) (name : String) (value : Document) :
    List (String × Document) :=
  match fields with
  | [] => [(name, value)]
  | (k, v) :: rest => if k = name then (k, value) :: rest else (k, v) :: putField rest name value

/-- The value of a field. -/
def field? (fields : List (String × Document)) (name : String) : Option Document :=
  (fields.find? fun f => f.1 == name).map Prod.snd

/-- The value of a field of a document that is an object. -/
def get? : Document → String → Option Document
  | .object fields, name => field? fields name
  | _, _ => none

/-- The value of a field, or another one if there is none. -/
def getD (d : Document) (name : String) (default : Document := .null) : Document :=
  (d.get? name).getD default

/-- The fields of an object; anything else has none. -/
def fields : Document → List (String × Document)
  | .object fields => fields
  | _ => []

/-- The items of a list; anything else has none. -/
def items : Document → List Document
  | .list items => items
  | _ => []

/-- The text of a document that is one. -/
def asText? : Document → Option String
  | .text s => some s
  | _ => none

/-- The text in a field, or another one if there is none. -/
def textAt (d : Document) (name : String) (default : String := "") : String :=
  ((d.get? name).bind asText?).getD default

/-- The whole number in a field, if there is one. -/
def integerAt? (d : Document) (name : String) : Option Int :=
  match d.get? name with
  | some (.integer n) => some n
  | _ => none

/-- An object with a value under a name. What is no object becomes one. -/
def withField (d : Document) (name : String) (value : Document) : Document :=
  .object (putField d.fields name value)

/-- Whether a document counts as true: all do but null, false, zero and what is empty. -/
def isTrue : Document → Bool
  | .null => false
  | .bool b => b
  | .integer n => n != 0
  | .real x => !x.isZero
  | .text s => !s.isEmpty
  | .list items => !items.isEmpty
  | .object fields => !fields.isEmpty

/-- The name of a document's type as messages give it. -/
def typeName : Document → String
  | .null => "NoneType"
  | .bool _ => "bool"
  | .integer _ => "int"
  | .real _ => "float"
  | .text _ => "str"
  | .list _ => "list"
  | .object _ => "dict"

/-- The number that a document stands for when numbers are compared: truth values count as one
and zero. -/
inductive Numeric
  | whole (n : Int)
  | double (x : Binary64)

/-- The numeric view of a document. -/
def numeric? : Document → Option Numeric
  | .bool b => some (.whole (if b then 1 else 0))
  | .integer n => some (.whole n)
  | .real x => some (.double x)
  | _ => none

/-- The order of two numbers; none if either is no number. -/
def Numeric.compare? : Numeric → Numeric → Option Ordering
  | .whole m, .whole n => some (compare m n)
  | .double x, .whole n => x.compareInt? n
  | .whole m, .double y => (y.compareInt? m).map Ordering.swap
  | .double x, .double y => x.compare? y

/-- The order of two documents that are both numbers. -/
def compareNumbers? (a b : Document) : Option Ordering :=
  match a.numeric?, b.numeric? with
  | some a, some b => a.compare? b
  | _, _ => none

mutual
/-- Agreement of documents: numbers agree by value whatever their type, and objects agree
whatever the order of their fields. -/
def agrees : Document → Document → Bool
  | .null, .null => true
  | .text a, .text b => a == b
  | .list a, .list b => agreesItems a b
  | .object a, .object b => a.length == b.length && agreesFields a b
  | .null, _ | .text _, _ | .list _, _ | .object _, _ => false
  | a, b => compareNumbers? a b == some .eq

/-- Agreement of lists, place by place. -/
def agreesItems : List Document → List Document → Bool
  | [], [] => true
  | a :: as, b :: bs => agrees a b && agreesItems as bs
  | _, _ => false

/-- Agreement of each field on the left with the field of that name on the right. -/
def agreesFields : List (String × Document) → List (String × Document) → Bool
  | [], _ => true
  | (k, v) :: rest, fields =>
    (match field? fields k with
      | some w => agrees v w
      | none => false) && agreesFields rest fields
end

/-- Whether a document is the whole number `n`, in whatever type. -/
def isNumber (d : Document) (n : Int) : Bool := d.agrees (.integer n)

/-- A list of texts as a document. -/
def ofTexts (texts : List String) : Document := .list (texts.map .text)

/-- A text or null. -/
def ofText? : Option String → Document
  | some s => .text s
  | none => .null

end Document

end RuleBound
