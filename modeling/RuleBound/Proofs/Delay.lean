import Mathlib.Algebra.Group.Int.Defs
import Mathlib.Algebra.Group.Nat.Defs
import Mathlib.Order.Lattice
import RuleBound.Retry
import RuleBound.Proofs.Number.Rounding
import RuleBound.Proofs.Sequencing

/-!
Delays can be told. Whole numbers are exact and doubles are not, and where both meet a whole number
has to be rounded, which fails if it exceeds every double. So the bits of whole numbers are counted
through the arithmetic of delays: up to a thousand attempts they are too few for that, unless the
numbers of the policy have many of their own.
-/

namespace RuleBound

/-- A whole number below the largest power of two that is a double can be rounded. -/
theorem Binary64.exists_ofInt? {n : Int} {bits : Nat} (few : bits ≤ 1023)
    (fits : n.natAbs < 2 ^ bits) : ∃ x, ofInt? n = some x := by
  rcases ofInt?_cases n with ⟨beyond, -⟩ | ⟨-, x, is, -⟩
  · exact absurd (Nat.lt_trans fits (two_pow_lt_limit few)) (Nat.not_lt.mpr beyond)
  · exact ⟨x, is⟩

namespace Document

/-! ## Numbers of few bits -/

namespace Numeric

/-- Whether a number is a double, or a whole number of so many bits. -/
def FitsIn (bits : Nat) : Numeric → Prop
  | whole n => n.natAbs < 2 ^ bits
  | double _ => True

variable {a b : Numeric} {k l m : Nat}

theorem FitsIn.mono (fits : a.FitsIn k) (le : k ≤ l) : a.FitsIn l := by
  cases a with
  | whole n => exact Nat.lt_of_lt_of_le fits (Nat.pow_le_pow_right Nat.two_pos le)
  | double x => trivial

theorem FitsIn.exists_toDouble (fits : a.FitsIn k) (few : k ≤ 1023) : ∃ x, a.toDouble = .ok x := by
  cases a with
  | whole n =>
    obtain ⟨x, rounded⟩ := Binary64.exists_ofInt? few fits
    exact ⟨x, by simp only [toDouble, rounded]⟩
  | double x => exact ⟨x, rfl⟩

/-- As soon as a double takes part, the result is a double. -/
theorem combine_double (precise : Int → Int → Int) (rounded : Binary64 → Binary64 → Binary64)
    (x : Binary64) {y : Binary64} (read : b.toDouble = .ok y) :
    combine precise rounded (double x) b = .ok (double (rounded x y)) := by
  simp only [combine, read]
  rfl

theorem exists_combine_double (precise : Int → Int → Int) (rounded : Binary64 → Binary64 → Binary64)
    (x : Binary64) (fits : b.FitsIn l) (few : l ≤ 1023) :
    ∃ y, combine precise rounded (double x) b = .ok (double y) := by
  obtain ⟨y, read⟩ := fits.exists_toDouble few
  exact ⟨_, combine_double precise rounded x read⟩

/-- Numbers of few bits can be combined, and the bits of the result are those of the exact one. -/
theorem exists_combine {precise : Int → Int → Int} {rounded : Binary64 → Binary64 → Binary64}
    (fits : a.FitsIn k) (fits' : b.FitsIn l) (few : k ≤ 1023) (few' : l ≤ 1023)
    (bound : ∀ i j : Int, i.natAbs < 2 ^ k → j.natAbs < 2 ^ l → (precise i j).natAbs < 2 ^ m) :
    ∃ c, combine precise rounded a b = .ok c ∧ c.FitsIn m := by
  cases a with
  | double x =>
    obtain ⟨y, combined⟩ := exists_combine_double precise rounded x fits' few'
    exact ⟨_, combined, trivial⟩
  | whole i =>
    cases b with
    | whole j => exact ⟨_, rfl, bound i j fits fits'⟩
    | double y =>
      obtain ⟨x, read⟩ := fits.exists_toDouble few
      refine ⟨double (rounded x y), ?_, trivial⟩
      simp only [combine, read]
      rfl

theorem natAbs_add_lt {i j : Int} (left : i.natAbs < 2 ^ k) (right : j.natAbs < 2 ^ l) :
    (i + j).natAbs < 2 ^ (max k l + 1) := by
  have left' := Nat.pow_le_pow_right Nat.two_pos (le_max_left k l)
  have right' := Nat.pow_le_pow_right Nat.two_pos (le_max_right k l)
  rw [Nat.pow_succ]
  omega

theorem natAbs_sub_lt {i j : Int} (left : i.natAbs < 2 ^ k) (right : j.natAbs < 2 ^ l) :
    (i - j).natAbs < 2 ^ (max k l + 1) := by
  rw [Int.sub_eq_add_neg]
  exact natAbs_add_lt left (by rwa [Int.natAbs_neg])

theorem natAbs_mul_lt {i j : Int} (left : i.natAbs < 2 ^ k) (right : j.natAbs < 2 ^ l) :
    (i * j).natAbs < 2 ^ (k + l) := by
  rw [Int.natAbs_mul, Nat.pow_add]
  exact Nat.mul_lt_mul'' left right

theorem FitsIn.exists_mul (fits : a.FitsIn k) (fits' : b.FitsIn l) (few : k ≤ 1023)
    (few' : l ≤ 1023) : ∃ c, a.mul b = .ok c ∧ c.FitsIn (k + l) :=
  exists_combine fits fits' few few' fun _ _ => natAbs_mul_lt

end Numeric

/-- Whether a document is a double, or a whole number of so many bits. -/
def FitsIn (bits : Nat) (d : Document) : Prop := ∃ n, d.numeric? = some n ∧ n.FitsIn bits

variable {a b : Document} {k l : Nat}

theorem fitsIn_real (x : Binary64) (bits : Nat) : FitsIn bits (.real x) := ⟨_, rfl, trivial⟩

theorem fitsIn_integer {n : Int} (fits : n.natAbs < 2 ^ k) : FitsIn k (.integer n) :=
  ⟨_, rfl, fits⟩

theorem FitsIn.mono (fits : a.FitsIn k) (le : k ≤ l) : a.FitsIn l := by
  obtain ⟨n, is, fits⟩ := fits
  exact ⟨n, is, fits.mono le⟩

theorem toNumber_of_numeric? {n : Numeric} (is : a.numeric? = some n) : a.toNumber = .ok n := by
  unfold toNumber
  rw [is]

theorem fitsIn_toDocument {n : Numeric} (fits : n.FitsIn k) : n.toDocument.FitsIn k := by
  cases n with
  | whole n => exact ⟨_, rfl, fits⟩
  | double x => exact ⟨_, rfl, fits⟩

/-- An operation on numbers of few bits that gives a number of few bits is one on documents. -/
theorem exists_calculate {operation : Numeric → Numeric → Except Fault Numeric} {m : Nat}
    (fits : a.FitsIn k) (fits' : b.FitsIn l)
    (gives : ∀ x y : Numeric, x.FitsIn k → y.FitsIn l →
      ∃ z, operation x y = .ok z ∧ z.FitsIn m) :
    ∃ d, calculate operation a b = .ok d ∧ d.FitsIn m := by
  obtain ⟨x, is, fits⟩ := fits
  obtain ⟨y, is', fits'⟩ := fits'
  obtain ⟨z, given, fits''⟩ := gives x y fits fits'
  refine ⟨z.toDocument, ?_, fitsIn_toDocument fits''⟩
  unfold calculate
  rw [toNumber_of_numeric? is, ok_bind, toNumber_of_numeric? is', ok_bind, given]
  rfl

theorem FitsIn.exists_plus (fits : a.FitsIn k) (fits' : b.FitsIn l) (few : k ≤ 1023)
    (few' : l ≤ 1023) : ∃ d, a.plus b = .ok d ∧ d.FitsIn (max k l + 1) :=
  exists_calculate fits fits' fun _ _ fits fits' =>
    Numeric.exists_combine fits fits' few few' fun _ _ => Numeric.natAbs_add_lt

theorem FitsIn.exists_minus (fits : a.FitsIn k) (fits' : b.FitsIn l) (few : k ≤ 1023)
    (few' : l ≤ 1023) : ∃ d, a.minus b = .ok d ∧ d.FitsIn (max k l + 1) :=
  exists_calculate fits fits' fun _ _ fits fits' =>
    Numeric.exists_combine fits fits' few few' fun _ _ => Numeric.natAbs_sub_lt

theorem FitsIn.exists_times (fits : a.FitsIn k) (fits' : b.FitsIn l) (few : k ≤ 1023)
    (few' : l ≤ 1023) : ∃ d, a.times b = .ok d ∧ d.FitsIn (k + l) :=
  exists_calculate fits fits' fun _ _ fits fits' => fits.exists_mul fits' few few'

theorem FitsIn.exists_lesser (fits : a.FitsIn k) (fits' : b.FitsIn l) :
    ∃ d, a.lesser b = .ok d ∧ d.FitsIn (max k l) := by
  obtain ⟨x, is, -⟩ := id fits
  obtain ⟨y, is', -⟩ := id fits'
  have below : b.isBelow a = .ok (y.compare? x == some .lt) := by
    unfold isBelow
    rw [toNumber_of_numeric? is, toNumber_of_numeric? is']
    rfl
  unfold lesser
  rw [below, ok_bind]
  refine ⟨_, rfl, ?_⟩
  split
  · exact fits'.mono (le_max_right k l)
  · exact fits.mono (le_max_left k l)

/-- Whether a document is a number that a double can stand for. -/
def IsMeasurable (d : Document) : Prop := ∃ n x, d.numeric? = some n ∧ n.toDouble = .ok x

theorem FitsIn.isMeasurable (fits : b.FitsIn l) (few : l ≤ 1023) : b.IsMeasurable := by
  obtain ⟨n, is, fits⟩ := fits
  obtain ⟨x, read⟩ := fits.exists_toDouble few
  exact ⟨n, x, is, read⟩

/-- What is added to a double gives a double. -/
theorem IsMeasurable.exists_plus_real (measurable : b.IsMeasurable) (x : Binary64) :
    ∃ y, (Document.real x).plus b = .ok (.real y) := by
  obtain ⟨n, y, is, read⟩ := measurable
  refine ⟨x.add y, ?_⟩
  have known : (Document.real x).toNumber = .ok (.double x) := rfl
  unfold plus calculate
  rw [known, ok_bind, toNumber_of_numeric? is, ok_bind, Numeric.add,
    Numeric.combine_double (· + ·) Binary64.add x read]
  rfl

end Document

/-! ## Delays -/

namespace RetryPolicy

open Document (FitsIn fitsIn_integer)

/-- Whether the delay after an attempt can be told, as a number that a double can stand for. -/
def TellsDelay (p : RetryPolicy) (share : Document) (attempt : Nat) : Prop :=
  ∃ delay, p.delayAfter share (.integer attempt) = .ok delay ∧ delay.IsMeasurable

/-- Whether the numbers of a policy, with the random share of its delays, are doubles or whole
numbers of few bits. -/
structure IsMeasured (p : RetryPolicy) (share : Document) : Prop where
  base : p.baseDelay.FitsIn 16
  greatest : p.maxDelay.FitsIn 1000
  jitter : p.jitter.FitsIn 2
  share : share.FitsIn 1

variable {p : RetryPolicy} {share : Document} {attempt : Nat}

/-- The exponential delay is a product of numbers. -/
theorem scaled_eq {base : Document.Numeric} (is : p.baseDelay.numeric? = some base)
    (first : 1 ≤ attempt) :
    p.scaled (.integer attempt) = do
      return (← base.mul (.whole (2 ^ (attempt - 1)))).toDocument := by
  have exponent : ((.whole attempt : Document.Numeric).sub (.whole 1)) =
      .ok (.whole (Int.ofNat (attempt - 1))) := by
    change Except.ok (Document.Numeric.whole ((attempt : Int) - 1)) = _
    congr 2
    change (attempt : Int) - 1 = ((attempt - 1 : Nat) : Int)
    omega
  have whole : (Document.integer attempt).toNumber = .ok (.whole attempt) := rfl
  have power : (Document.Numeric.whole (Int.ofNat (attempt - 1))).twoTo =
      .ok (.whole (2 ^ (attempt - 1))) := rfl
  unfold scaled
  rw [whole, ok_bind, exponent, ok_bind, power, ok_bind, Document.toNumber_of_numeric? is, ok_bind]

variable (measured : p.IsMeasured share) (first : 1 ≤ attempt) (last : attempt ≤ 999)

include measured first last

theorem IsMeasured.exists_scaled :
    ∃ d, p.scaled (.integer attempt) = .ok d ∧ d.FitsIn 1015 := by
  obtain ⟨n, is, fits⟩ := measured.base
  have factor : (Document.Numeric.whole (2 ^ (attempt - 1))).FitsIn attempt := by
    change (2 ^ (attempt - 1) : Int).natAbs < 2 ^ attempt
    rw [Int.natAbs_pow]
    exact Nat.pow_lt_pow_right (by omega) (by omega)
  obtain ⟨c, product, small⟩ := fits.exists_mul (factor.mono last) (by omega) (by omega)
  refine ⟨c.toDocument, ?_, Document.fitsIn_toDocument small⟩
  rw [scaled_eq is first, product]
  rfl

omit first last in
theorem IsMeasured.exists_randomUpTo {bound : Document} (fits : bound.FitsIn 1017) :
    ∃ d, randomUpTo share bound = .ok d ∧ d.FitsIn 1020 := by
  have zero : (Document.integer 0).FitsIn 0 := fitsIn_integer (by decide)
  obtain ⟨width, minus, fits⟩ := fits.exists_minus zero (by omega) (by omega)
  obtain ⟨part, times, fits⟩ := fits.exists_times measured.share (by omega) (by omega)
  obtain ⟨d, plus, fits⟩ := zero.exists_plus fits (by omega) (by omega)
  refine ⟨d, ?_, fits.mono (by omega)⟩
  unfold randomUpTo
  rw [minus, ok_bind, times, ok_bind]
  exact plus

theorem IsMeasured.exists_growth :
    ∃ d, p.growth share (.integer attempt) = .ok d ∧ d.FitsIn 1021 := by
  unfold growth
  cases p.backoff with
  | fixed => exact ⟨_, rfl, measured.base.mono (by omega)⟩
  | linear =>
    have number : (Document.integer attempt).FitsIn 10 := fitsIn_integer (by
      change attempt < 1024
      omega)
    obtain ⟨d, times, fits⟩ := measured.base.exists_times number (by omega) (by omega)
    exact ⟨d, times, fits.mono (by omega)⟩
  | exponential =>
    obtain ⟨d, scaled, fits⟩ := measured.exists_scaled first last
    exact ⟨d, scaled, fits.mono (by omega)⟩
  | exponentialJitter =>
    obtain ⟨d, scaled, fits⟩ := measured.exists_scaled first last
    obtain ⟨bound, times, fits'⟩ := measured.jitter.exists_times fits (by omega) (by omega)
    obtain ⟨random, drawn, fits'⟩ := measured.exists_randomUpTo fits'
    obtain ⟨sum, plus, fits⟩ := fits.exists_plus fits' (by omega) (by omega)
    refine ⟨sum, ?_, fits.mono (by omega)⟩
    dsimp only
    rw [scaled, ok_bind, times, ok_bind, drawn, ok_bind]
    exact plus

/-- The delay after one of the first attempts can be told. -/
theorem IsMeasured.tellsDelay : p.TellsDelay share attempt := by
  obtain ⟨d, growth, fits⟩ := measured.exists_growth first last
  obtain ⟨delay, lesser, fits⟩ := fits.exists_lesser measured.greatest
  refine ⟨delay, ?_, fits.isMeasurable (by omega)⟩
  unfold delayAfter
  rw [growth, ok_bind]
  exact lesser

/-- What is waited after one of the first attempts can be added to what was waited before. -/
theorem IsMeasured.exists_delay (spent : Binary64) :
    ∃ delay total, p.delayAfter share (.integer attempt) = .ok delay ∧
      (Document.real spent).plus delay = .ok (.real total) := by
  obtain ⟨delay, told, measurable⟩ := measured.tellsDelay first last
  obtain ⟨total, plus⟩ := measurable.exists_plus_real spent
  exact ⟨delay, total, told, plus⟩

end RetryPolicy

/-! ## Delays in doubles -/

namespace Document

variable {x : Binary64} {b d : Document}

variable {precise : Int → Int → Int} {rounded : Binary64 → Binary64 → Binary64}

/-- What comes of a double is a double. -/
theorem Numeric.exists_double_of_combine {n c : Numeric}
    (combined : Numeric.combine precise rounded (.double x) n = .ok c) : ∃ z, c = .double z := by
  have is : Numeric.combine precise rounded (.double x) n = (do
      return .double (rounded x (← n.toDouble))) := by
    cases n <;> rfl
  rw [is] at combined
  obtain ⟨y, -, combined⟩ := bind_eq_ok_iff.mp combined
  cases combined
  exact ⟨_, rfl⟩

theorem exists_real_of_calculate
    (told : calculate (Numeric.combine precise rounded) (.real x) b = .ok d) :
    ∃ z, d = .real z := by
  obtain ⟨_, ⟨⟩, told⟩ := bind_eq_ok_iff.mp told
  obtain ⟨n, -, told⟩ := bind_eq_ok_iff.mp told
  obtain ⟨c, combined, told⟩ := bind_eq_ok_iff.mp told
  obtain ⟨z, rfl⟩ := Numeric.exists_double_of_combine combined
  cases told
  exact ⟨z, rfl⟩

theorem isMeasurable_real (x : Binary64) : (Document.real x).IsMeasurable := ⟨_, x, rfl, rfl⟩

end Document

namespace RetryPolicy

variable {p : RetryPolicy} {share attempt d : Document} {x y : Binary64}

theorem exists_real_of_scaled (base : p.baseDelay = .real x) (told : p.scaled attempt = .ok d) :
    ∃ z, d = .real z := by
  obtain ⟨_, -, told⟩ := bind_eq_ok_iff.mp told
  obtain ⟨_, -, told⟩ := bind_eq_ok_iff.mp told
  obtain ⟨_, -, told⟩ := bind_eq_ok_iff.mp told
  rw [base] at told
  obtain ⟨_, ⟨⟩, told⟩ := bind_eq_ok_iff.mp told
  obtain ⟨c, product, told⟩ := bind_eq_ok_iff.mp told
  obtain ⟨z, rfl⟩ := Document.Numeric.exists_double_of_combine product
  cases told
  exact ⟨z, rfl⟩

/-- A delay in doubles grows to a double. -/
theorem exists_real_of_growth (base : p.baseDelay = .real x)
    (told : p.growth share attempt = .ok d) : ∃ z, d = .real z := by
  unfold growth at told
  cases rule : p.backoff with
  | fixed =>
    rw [rule] at told
    cases told
    exact ⟨x, base⟩
  | linear =>
    rw [rule, base] at told
    exact Document.exists_real_of_calculate told
  | exponential =>
    rw [rule] at told
    exact exists_real_of_scaled base told
  | exponentialJitter =>
    rw [rule] at told
    obtain ⟨delay, scaled, told⟩ := bind_eq_ok_iff.mp told
    obtain ⟨z, rfl⟩ := exists_real_of_scaled base scaled
    obtain ⟨bound, -, told⟩ := bind_eq_ok_iff.mp told
    obtain ⟨random, -, told⟩ := bind_eq_ok_iff.mp told
    exact Document.exists_real_of_calculate told

/-- If the delays of a policy are doubles, a delay that can be told is one. -/
theorem tellsDelay_of_real {attempt : Nat} (base : p.baseDelay = .real x)
    (greatest : p.maxDelay = .real y) (told : p.delayAfter share (.integer attempt) = .ok d) :
    p.TellsDelay share attempt := by
  refine ⟨d, told, ?_⟩
  obtain ⟨grown, growth, told⟩ := bind_eq_ok_iff.mp told
  obtain ⟨z, rfl⟩ := exists_real_of_growth base growth
  obtain ⟨least, -, told⟩ := bind_eq_ok_iff.mp told
  cases told
  split
  · rw [greatest]
    exact Document.isMeasurable_real y
  · exact Document.isMeasurable_real z

end RetryPolicy

end RuleBound
