import RuleBound.Fault
import RuleBound.Number.Binary64

/-!
Arithmetic on documents that are numbers.

Truth values count as one and zero. Whole numbers are added and multiplied exactly; as soon as a
double takes part, a whole number is first rounded to a double, which it must not exceed.
-/

namespace RuleBound.Document

-- Powers are those of the core library, whichever others are known.
attribute [local instance (high)] instPowNat

/-- The number that a document stands for. -/
def toNumber (d : Document) : Except Fault Numeric :=
  match d.numeric? with
  | some n => .ok n
  | none => .error .wrongType

namespace Numeric

/-- A number as a document. -/
def toDocument : Numeric → Document
  | whole n => .integer n
  | double x => .real x

/-- A number as a double. -/
def toDouble : Numeric → Except Fault Binary64
  | double x => .ok x
  | whole n =>
    match Binary64.ofInt? n with
    | some x => .ok x
    | none => .error .outOfRange

/-- An operation on two numbers, exact if both are whole. -/
def combine (exact : Int → Int → Int) (rounded : Binary64 → Binary64 → Binary64) :
    Numeric → Numeric → Except Fault Numeric
  | whole m, whole n => .ok (whole (exact m n))
  | a, b => do return double (rounded (← a.toDouble) (← b.toDouble))

/-- The sum of two numbers. -/
def add : Numeric → Numeric → Except Fault Numeric := combine (· + ·) Binary64.add

/-- The difference of two numbers. -/
def sub : Numeric → Numeric → Except Fault Numeric := combine (· - ·) Binary64.sub

/-- The product of two numbers. -/
def mul : Numeric → Numeric → Except Fault Numeric := combine (· * ·) Binary64.mul

/-- Two to the power of a number: exact for a whole one that is not negative. -/
def twoTo : Numeric → Except Fault Numeric
  | whole (.ofNat n) => .ok (whole (2 ^ n))
  | n => do
    match (← n.toDouble).twoTo? with
    | some x => return double x
    | none => throw .outOfRange

end Numeric

/-- An operation on two documents that have to be numbers. -/
def calculate (operation : Numeric → Numeric → Except Fault Numeric) (a b : Document) :
    Except Fault Document := do
  return (← operation (← a.toNumber) (← b.toNumber)).toDocument

/-- The sum of two documents. -/
def plus : Document → Document → Except Fault Document := calculate Numeric.add

/-- The difference of two documents. -/
def minus : Document → Document → Except Fault Document := calculate Numeric.sub

/-- The product of two documents. -/
def times : Document → Document → Except Fault Document := calculate Numeric.mul

/-- Whether one document is below another; both have to be numbers. -/
def isBelow (a b : Document) : Except Fault Bool := do
  return (← a.toNumber).compare? (← b.toNumber) == some .lt

/-- Whether one document is at most another; both have to be numbers. -/
def isAtMost (a b : Document) : Except Fault Bool := do
  let order := (← a.toNumber).compare? (← b.toNumber)
  return order == some .lt || order == some .eq

/-- The lesser of two documents, the first if they agree. -/
def lesser (a b : Document) : Except Fault Document := do
  return if ← b.isBelow a then b else a

end RuleBound.Document
