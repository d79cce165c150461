import RuleBound.Number.Binary64

/-!
Decimal text of doubles.

Writing uses the fewest significant digits that read back to the same number, and of those the
nearest to it. For each count of digits the value's two neighbours on that decimal grid are tested
in exact arithmetic; the first grid with a neighbour inside the rounding interval wins.
-/

namespace RuleBound.Binary64

-- Powers are those of the core library, whichever others are known.
attribute [local instance (high)] instPowNat

/-- The reals that round to `±m·2^e`, as numerators over one denominator: the lower end, the value
itself, the upper end, and whether the ends belong to it. -/
structure RoundingInterval where
  low : Nat
  value : Nat
  high : Nat
  den : Nat
  closed : Bool

/-- The rounding interval of a positive finite number. Below a power of two the lower gap is half
as wide. -/
def roundingInterval (m : Nat) (e : Int) : RoundingInterval :=
  let (scale, den) : Nat × Nat :=
    match e with
    | .ofNat e => (2 ^ e, 1)
    | .negSucc e => (1, 2 ^ (e + 1))
  let lowGap := if m = 2 ^ (52 : Nat) ∧ -1074 < e then 1 else 2
  ⟨(4 * m - lowGap) * scale, 4 * m * scale, (4 * m + 2) * scale, 4 * den, m % 2 == 0⟩

/-- Whether `digits · 10^power` lies in the interval. -/
def RoundingInterval.holds (i : RoundingInterval) (digits : Nat) (power : Int) : Bool :=
  let (n, d) : Nat × Nat :=
    match power with
    | .ofNat p => (digits * 10 ^ p * i.den, 1)
    | .negSucc p => (digits * i.den, 10 ^ (p + 1))
  if i.closed then i.low * d ≤ n && n ≤ i.high * d else i.low * d < n && n < i.high * d

/-- The value in units of `10^power`, rounded down, and whether it is nearer to the next unit. -/
def RoundingInterval.grid (i : RoundingInterval) (power : Int) : Nat × Bool :=
  let (n, d) : Nat × Nat :=
    match power with
    | .ofNat p => (i.value, i.den * 10 ^ p)
    | .negSucc p => (i.value * 10 ^ (p + 1), i.den)
  (n / d, d < 2 * (n % d) || (d == 2 * (n % d) && n / d % 2 == 1))

/-- The number of decimal digits before the point of `value / den`, or minus the number of zeros
after it. -/
def RoundingInterval.magnitude (i : RoundingInterval) : Int :=
  let whole := i.value / i.den
  if 0 < whole then (Nat.toDigits 10 whole).length
  else
    let wide := i.value * 10 ^ (400 : Nat) / i.den
    ((Nat.toDigits 10 wide).length : Int) - 400

/-- Search the grids of `18 - tries`, … digits. -/
def RoundingInterval.shortest (i : RoundingInterval) (magnitude : Int) : (tries : Nat) → Nat × Int
  | 0 => (i.value / i.den, 0)
  | tries + 1 =>
    let power := magnitude - (17 - tries : Int)
    let (down, nearerUp) := i.grid power
    let (near, far) := if nearerUp then (down + 1, down) else (down, down + 1)
    if i.holds near power then (near, power)
    else if i.holds far power then (far, power)
    else i.shortest magnitude tries

/-- The shortest digits and the power of ten of the last one, for a positive finite number. -/
def shortestDigits (m : Nat) (e : Int) : Nat × Int :=
  let i := roundingInterval m e
  i.shortest i.magnitude 17

/-- Digits without trailing zeros, and the position of the decimal point after the first digits:
`(d, k)` stands for `0.d · 10^k`. -/
def pointForm (digits : Nat) (power : Int) : List Char × Int :=
  let cs := Nat.toDigits 10 digits
  ((cs.reverse.dropWhile (· == '0')).reverse, cs.length + power)

/-- Decimal text of a number: positional from `1e-4` up to below `1e16`, always with a fraction,
and otherwise with an exponent of at least two digits. -/
def toText : Binary64 → String
  | .nan => "nan"
  | .infinite false => "inf"
  | .infinite true => "-inf"
  | .finite s m e =>
    let body :=
      if m = 0 then "0.0"
      else
        let (digits, power) := shortestDigits m e
        let (ds, point) := pointForm digits power
        if 16 < point ∨ point < -3 then
          let exponent := point - 1
          let fraction := match ds.tail with
            | [] => ""
            | more => "." ++ String.ofList more
          let size := toString exponent.natAbs
          let size := if size.length < 2 then "0" ++ size else size
          let sign := if exponent < 0 then "-" else "+"
          String.ofList (ds.take 1) ++ fraction ++ "e" ++ sign ++ size
        else if point ≤ 0 then
          "0." ++ String.ofList (List.replicate point.natAbs '0' ++ ds)
        else
          let whole := point.toNat
          if ds.length ≤ whole then
            String.ofList (ds ++ List.replicate (whole - ds.length) '0') ++ ".0"
          else String.ofList (ds.take whole) ++ "." ++ String.ofList (ds.drop whole)
    if s then "-" ++ body else body

end RuleBound.Binary64
