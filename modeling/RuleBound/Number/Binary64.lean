/-!
Double precision numbers as values: a sign, a whole mantissa and a power of two.

Every operation computes the exact result as a quotient of whole numbers and rounds it once, to
the nearest double and to the even mantissa on a tie, so no step depends on a machine's floating
point unit. A finite number is kept in normal form: its mantissa is below `2^53`, its exponent is
at least `-1074`, and one of the two is tight.

The exponent of a power of two can be a fraction. It is taken apart into its binary digits: each digit
stands for one more square root of two. The roots are worked out in fixed point with far more digits
than a double has, and the result is rounded once.
-/

namespace RuleBound

-- Powers are those of the core library, whichever others are known.
attribute [local instance (high)] instPowNat

/-- A double precision number. `finite s m e` stands for `±m·2^e`. -/
inductive Binary64
  | nan
  | infinite (negative : Bool)
  | finite (negative : Bool) (mantissa : Nat) (exponent : Int)
  deriving DecidableEq, Repr, Inhabited

namespace Binary64

/-- Zero with a sign. -/
def zero (negative : Bool) : Binary64 := .finite negative 0 (-1074)

/-- `num / den` rounded to the nearest whole number, a tie to the even one. -/
def roundDiv (num den : Nat) : Nat :=
  let q := num / den
  let r := num % den
  if 2 * r < den then q else if den < 2 * r then q + 1 else q + q % 2

/-- `num / (den * 2^exponent)` rounded to a whole number. -/
def scaledRound (num den : Nat) : Int → Nat
  | .ofNat e => roundDiv num (den * 2 ^ e)
  | .negSucc e => roundDiv (num * 2 ^ (e + 1)) den

/-- The number nearest to `num / den`, infinite when that is beyond the largest finite one. -/
def ofRatio (negative : Bool) (num den : Nat) : Binary64 :=
  if num = 0 then zero negative
  else
    let estimate : Int := (num.log2 : Int) - (den.log2 : Int) - 53
    let first := max estimate (-1074)
    -- the estimate is one too low or exact; a mantissa of 54 bits shows which
    let exponent := if 2 ^ (53 : Nat) ≤ (scaledFloor num den first) then first + 1 else first
    let mantissa := scaledRound num den exponent
    let (mantissa, exponent) :=
      if mantissa = 2 ^ (53 : Nat) then (2 ^ (52 : Nat), exponent + 1) else (mantissa, exponent)
    if 971 < exponent then .infinite negative else .finite negative mantissa exponent
where
  /-- `num / (den * 2^exponent)` rounded down. -/
  scaledFloor (num den : Nat) : Int → Nat
    | .ofNat e => num / (den * 2 ^ e)
    | .negSucc e => num * 2 ^ (e + 1) / den

/-- The number nearest to a whole number; `none` when that would be infinite. -/
def ofInt? (n : Int) : Option Binary64 :=
  match ofRatio (n < 0) n.natAbs 1 with
  | .infinite _ => none
  | x => some x

/-- The number nearest to `digits · 10^power`. Powers that are certain to vanish or to exceed
every finite number are decided without computing them. -/
def ofDecimal (negative : Bool) (digits : Nat) (power : Int) : Binary64 :=
  let size : Int := (Nat.toDigits 10 digits).length
  if digits = 0 then zero negative
  else if 400 < size + power then .infinite negative
  else if size + power < -400 then zero negative
  else
    match power with
    | .ofNat p => ofRatio negative (digits * 10 ^ p) 1
    | .negSucc p => ofRatio negative digits (10 ^ (p + 1))

/-- The sign bit; a number that is none has none. -/
def isNegative : Binary64 → Bool
  | .nan => false
  | .infinite s => s
  | .finite s _ _ => s

/-- Whether the value is zero of either sign. -/
def isZero : Binary64 → Bool
  | .finite _ m _ => m == 0
  | _ => false

/-- Whether the value is a real number. -/
def isFinite : Binary64 → Bool
  | .finite _ _ _ => true
  | _ => false

/-- A finite value as a signed mantissa over a power of two. -/
def toRatio? : Binary64 → Option (Int × Nat)
  | .finite s m e =>
    let signed : Int := if s then -(m : Int) else m
    match e with
    | .ofNat e => some (signed * 2 ^ e, 1)
    | .negSucc e => some (signed, 2 ^ (e + 1))
  | _ => none

/-- The whole part of a finite value, dropping the fraction. -/
def truncate? (x : Binary64) : Option Int :=
  x.toRatio?.map fun (num, den) => num.tdiv den

/-- Whether a finite value has no fraction. -/
def isWhole (x : Binary64) : Bool :=
  match x.toRatio? with
  | some (num, den) => num % (den : Int) == 0
  | none => false

/-- The order of two values; none if either is no number. Both zeros are equal. -/
def compare? : Binary64 → Binary64 → Option Ordering
  | .nan, _ => none
  | _, .nan => none
  | .infinite s, .infinite t => some (compare t.toNat s.toNat)
  | .infinite s, .finite _ _ _ => some (if s then .lt else .gt)
  | .finite _ _ _, .infinite t => some (if t then .gt else .lt)
  | x@(.finite _ _ _), y@(.finite _ _ _) =>
    match x.toRatio?, y.toRatio? with
    | some (a, b), some (c, d) => some (compare (a * d) (c * b))
    | _, _ => none

/-- The order of a value and a whole number, without rounding the latter. -/
def compareInt? (x : Binary64) (n : Int) : Option Ordering :=
  match x with
  | .nan => none
  | .infinite s => some (if s then .lt else .gt)
  | .finite _ _ _ => x.toRatio?.map fun (a, b) => compare a (n * b)

/-- Whether the first value is below the second. -/
def lt (x y : Binary64) : Bool := x.compare? y == some .lt

/-- Equality of numbers: zeros agree, and a value that is no number equals nothing. -/
def agrees (x y : Binary64) : Bool := x.compare? y == some .eq

/-- The opposite number. -/
def neg : Binary64 → Binary64
  | .nan => .nan
  | .infinite s => .infinite !s
  | .finite s m e => .finite (!s) m e

/-- The sum, rounded once. -/
def add : Binary64 → Binary64 → Binary64
  | .nan, _ => .nan
  | _, .nan => .nan
  | .infinite s, .infinite t => if s = t then .infinite s else .nan
  | .infinite s, _ => .infinite s
  | _, .infinite t => .infinite t
  | x@(.finite s _ _), y@(.finite t _ _) =>
    match x.toRatio?, y.toRatio? with
    | some (a, b), some (c, d) =>
      let num := a * d + c * b
      if num = 0 then zero (s && t) else ofRatio (num < 0) num.natAbs (b * d)
    | _, _ => .nan

/-- The difference, rounded once. -/
def sub (x y : Binary64) : Binary64 := add x (neg y)

/-- The product, rounded once. -/
def mul : Binary64 → Binary64 → Binary64
  | .nan, _ => .nan
  | _, .nan => .nan
  | .infinite s, y => if y.isZero then .nan else .infinite (s != y.isNegative)
  | x, .infinite t => if x.isZero then .nan else .infinite (x.isNegative != t)
  | x@(.finite s _ _), y@(.finite t _ _) =>
    match x.toRatio?, y.toRatio? with
    | some (a, b), some (c, d) => ofRatio (s != t) (a.natAbs * c.natAbs) (b * d)
    | _, _ => .nan

/-! ## Powers of two -/

/-- The number of binary places of the fixed point. -/
def rootPlaces : Nat := 256

/-- The product of those roots of two that binary digits select, in fixed point: the first digit
selects the square root of `root`. -/
def rootProduct : (root product : Nat) → List Bool → Nat
  | _, product, [] => product
  | root, product, digit :: rest =>
    let root := Nat.sqrt (root * 2 ^ rootPlaces)
    rootProduct root (if digit then product * root / 2 ^ rootPlaces else product) rest

/-- The first binary digits of the fraction `num / den`, which is below one. -/
def fractionDigits : (count num den : Nat) → List Bool
  | 0, _, _ => []
  | count + 1, num, den =>
    if num = 0 then [] else decide (den ≤ 2 * num) :: fractionDigits count (2 * num % den) den

/-- Two to the power of `whole + num / den`, none if that is beyond the largest finite number. -/
def powerOfTwo? (whole : Int) (num den : Nat) : Option Binary64 :=
  let product := rootProduct (2 ^ (rootPlaces + 1)) (2 ^ rootPlaces)
    (fractionDigits 200 num den)
  if 1024 ≤ whole then none
  else if whole < -1100 then some (zero false)
  else
    let x := match whole with
      | .ofNat n => ofRatio false (product * 2 ^ n) (2 ^ rootPlaces)
      | .negSucc n => ofRatio false product (2 ^ (rootPlaces + n + 1))
    match x with
    | .infinite _ => none
    | x => some x

/-- Two to the power of a number, none if that is beyond the largest finite number. -/
def twoTo? : Binary64 → Option Binary64
  | .nan => some .nan
  | .infinite true => some (zero false)
  | .infinite false => some (.infinite false)
  | x =>
    match x.toRatio? with
    | some (num, den) => powerOfTwo? (num.fdiv den) (num.fmod den).toNat den
    | none => some .nan

end Binary64

end RuleBound
