import RuleBound.Proofs.Delay
import RuleBound.Proofs.Number.Order
import RuleBound.Proofs.Number.Rounding

/-!
Backing off. The delay after an attempt is at most the greatest one of the policy, with two exceptions,
which are told exactly. A whole number that meets a double has to be rounded, and the power of two that
belongs to an attempt is such a number: behind the attempt 1024 it is beyond every double, before the
greatest delay can cut it. And where delays have a random part, zero can be multiplied by infinity.
-/

namespace RuleBound

open Document (Numeric)

namespace Binary64

theorem isNegative_ofInt? {n : Int} {x : Binary64} (is : ofInt? n = some x) :
    x.isNegative = decide (n < 0) := by
  unfold ofInt? at is
  split at is
  · cases is
  · cases is
    exact isNegative_ofRatio ..

/-- A double that is neither zero nor below zero has no sign. -/
theorem isNegative_of_compareInt? {x : Binary64} (fin : x.isFinite = true)
    (nonzero : x.isZero = false) (nonneg : x.compareInt? 0 ≠ some .lt) : x.isNegative = false := by
  obtain ⟨s, m, e, rfl⟩ := exists_of_isFinite fin
  cases s with
  | false => rfl
  | true =>
    have below : -(m : Int) < 0 := by
      have positive : m ≠ 0 := ne_of_beq_false nonzero
      omega
    refine absurd ?_ nonneg
    cases e with
    | ofNat e =>
      have power : (0 : Int) < 2 ^ e := Int.pow_pos (by decide)
      have product := Int.mul_neg_of_neg_of_pos below power
      exact congrArg some (Int.compare_eq_lt.mpr (product.trans_eq (Int.zero_mul _).symm))
    | negSucc e => exact congrArg some (Int.compare_eq_lt.mpr (below.trans_eq (Int.zero_mul _).symm))

end Binary64

namespace Document

namespace Numeric

variable {a b : Numeric} {x y : Binary64} {f : Fault}

/-- Whether a number is finite. -/
def IsFinite : Numeric → Prop
  | whole _ => True
  | double x => x.isFinite = true

/-- Whether a number is not below zero. -/
def IsNonneg (a : Numeric) : Prop := (whole 0).compare? a ≠ some .gt

instance (a : Numeric) : Decidable a.IsNonneg :=
  inferInstanceAs (Decidable ((whole 0).compare? a ≠ some .gt))

theorem IsFinite.isProper (fin : a.IsFinite) : a.IsProper := by
  rintro rfl
  cases fin

theorem isProper_double (number : x ≠ .nan) : (double x).IsProper :=
  fun is => number (double.inj is)

/-- A whole number is rounded exactly if it is below the limit of doubles. -/
theorem toDouble_whole_cases (n : Int) :
    (Binary64.limit ≤ n.natAbs ∧ (whole n).toDouble = .error .outOfRange) ∨
      (n.natAbs < Binary64.limit ∧ ∃ x, (whole n).toDouble = .ok x ∧ x.IsInRange) := by
  rcases Binary64.ofInt?_cases n with ⟨beyond, is⟩ | ⟨below, x, is, range⟩
  · exact .inl ⟨beyond, by simp only [toDouble, is]⟩
  · exact .inr ⟨below, x, by simp only [toDouble, is], range⟩

/-- What a finite number is rounded to is finite, and has its sign unless it is zero. -/
theorem isFinite_of_toDouble (fin : a.IsFinite) (read : a.toDouble = .ok x) :
    x.isFinite = true := by
  cases a with
  | double y =>
    cases read
    exact fin
  | whole n =>
    rcases toDouble_whole_cases n with ⟨-, fails⟩ | ⟨-, y, is, range⟩
    · rw [fails] at read
      cases read
    · rw [is] at read
      cases read
      exact range.isFinite

theorem isNegative_of_toDouble (fin : a.IsFinite) (nonneg : a.IsNonneg)
    (read : a.toDouble = .ok x) (nonzero : x.isZero = false) : x.isNegative = false := by
  cases a with
  | double y =>
    cases read
    refine Binary64.isNegative_of_compareInt? fin nonzero fun below => nonneg ?_
    rw [compare?, below]
    rfl
  | whole n =>
    have sign : ¬ n < 0 := fun below =>
      nonneg (congrArg some (Int.compare_eq_gt.mpr below))
    cases rounded : Binary64.ofInt? n with
    | none =>
      simp only [toDouble, rounded] at read
      cases read
    | some y =>
      simp only [toDouble, rounded] at read
      cases read
      rw [Binary64.isNegative_ofInt? rounded, decide_eq_false sign]

variable {precise : Int → Int → Int} {rounded : Binary64 → Binary64 → Binary64}

theorem combine_double_error (fails : b.toDouble = .error f) :
    combine precise rounded (double x) b = .error f := by
  simp only [combine, fails]
  rfl

theorem combine_double_right (read : a.toDouble = .ok x) :
    combine precise rounded a (double y) = .ok (double (rounded x y)) := by
  cases a <;> simp only [combine, read] <;> rfl

theorem combine_error_double (fails : a.toDouble = .error f) :
    combine precise rounded a (double y) = .error f := by
  cases a <;> simp only [combine, fails] <;> rfl

/-- A finite double times a whole number is a number, unless the latter is beyond every double. -/
theorem double_mul_whole_cases (fin : x.isFinite = true) (n : Int) :
    (Binary64.limit ≤ n.natAbs ∧ (double x).mul (whole n) = .error .outOfRange) ∨
      (n.natAbs < Binary64.limit ∧ ∃ z, (double x).mul (whole n) = .ok (double z) ∧
        (z.isFinite = true ∨ z.IsInfinite)) := by
  rcases toDouble_whole_cases n with ⟨beyond, fails⟩ | ⟨below, y, read, range⟩
  · exact .inl ⟨beyond, combine_double_error fails⟩
  · refine .inr ⟨below, _, combine_double _ _ x read, ?_⟩
    exact (Binary64.mul_isInRange_or_isInfinite fin range.isFinite).imp_left Binary64.IsInRange.isFinite

end Numeric

variable {a b : Document} {x y : Numeric}

theorem numeric?_toDocument (x : Numeric) : x.toDocument.numeric? = some x := by
  cases x <;> rfl

theorem isAtMost_of_numeric? (is : a.numeric? = some x) (is' : b.numeric? = some y) :
    a.isAtMost b = .ok (x.compare? y == some .lt || x.compare? y == some .eq) := by
  unfold isAtMost
  rw [toNumber_of_numeric? is, toNumber_of_numeric? is']
  rfl

theorem isBelow_of_numeric? (is : a.numeric? = some x) (is' : b.numeric? = some y) :
    a.isBelow b = .ok (x.compare? y == some .lt) := by
  unfold isBelow
  rw [toNumber_of_numeric? is, toNumber_of_numeric? is']
  rfl

/-- The lesser of two numbers is at most the second. -/
theorem exists_lesser_isAtMost (is : a.numeric? = some x) (is' : b.numeric? = some y)
    (proper : x.IsProper) (proper' : y.IsProper) :
    ∃ d, a.lesser b = .ok d ∧ d.isAtMost b = .ok true := by
  unfold lesser
  rw [isBelow_of_numeric? is' is, ok_bind, Numeric.compare?_eq_cmp proper' proper]
  refine ⟨_, rfl, ?_⟩
  by_cases less : (some (cmp y.place x.place) == some .lt) = true
  · rw [if_pos less, isAtMost_of_numeric? is' is', Numeric.compare?_eq_cmp proper' proper',
      cmp_self_eq_eq]
    rfl
  · rw [if_neg less, isAtMost_of_numeric? is is', Numeric.compare?_eq_cmp proper proper', ← cmp_swap]
    generalize cmp y.place x.place = order at less
    cases order with
    | lt => exact absurd rfl less
    | eq => rfl
    | gt => rfl

/-- What is no number is the lesser one, and not at most the second. -/
theorem lesser_nan (is : b.numeric? = some y) :
    (Document.real .nan).lesser b = .ok (.real .nan) ∧
      (Document.real .nan).isAtMost b = .ok false := by
  have known : (Document.real .nan).numeric? = some (.double .nan) := rfl
  rw [isAtMost_of_numeric? known is, Numeric.compare?_nan_left]
  unfold lesser
  rw [isBelow_of_numeric? is known, ok_bind, Numeric.compare?_nan_right]
  exact ⟨rfl, rfl⟩

end Document

/-! ## What goes wrong -/

namespace Backoff

/-- Whether the delay after an attempt cannot be told, because a whole number that is beyond every double
has to be rounded to one. -/
def Overflows : Backoff → (base jitter : Numeric) → (attempt : Nat) → Prop
  | .fixed, _, _, _ => False
  | .linear, .whole _, _, _ => False
  | .linear, .double _, _, n => Binary64.limit ≤ n
  | .exponential, .whole _, _, _ => False
  | .exponential, .double _, _, n => 1024 < n
  | .exponentialJitter, .whole b, .whole j, n =>
    Binary64.limit ≤ b.natAbs * 2 ^ (n - 1) * max 1 j.natAbs
  | .exponentialJitter, .whole b, .double _, n => Binary64.limit ≤ b.natAbs * 2 ^ (n - 1)
  | .exponentialJitter, .double _, .whole j, n => 1024 < n ∨ Binary64.limit ≤ j.natAbs
  | .exponentialJitter, .double _, .double _, n => 1024 < n

/-- Whether zero and infinity are multiplied to get the random part of a delay: an infinite delay has
none, or nothing is drawn from an infinite one. -/
def Clashes (delay factor share : Binary64) : Prop :=
  (delay.IsInfinite ∧ factor.isZero = true) ∨
    ((factor.mul delay).IsInfinite ∧ share.isZero = true)

/-- Whether the delay after an attempt is no number. -/
def IsUndetermined : Backoff → (base jitter : Numeric) → (share : Binary64) → (attempt : Nat) → Prop
  | .exponentialJitter, .whole _, .whole _, _, _ => False
  | .exponentialJitter, base, jitter, share, n =>
    ∃ delay factor, (do (← base.mul (.whole (2 ^ (n - 1)))).toDouble) = .ok delay ∧
      jitter.toDouble = .ok factor ∧ Clashes delay factor share
  | _, _, _, _, _ => False

/-- A delay with a random part, in doubles. -/
def blurred (delay bound share : Binary64) : Binary64 :=
  delay.add ((Binary64.zero false).add ((bound.sub (Binary64.zero false)).mul share))

variable {delay factor share : Binary64}

theorem blurred_nan (delay share : Binary64) : blurred delay .nan share = .nan := by
  cases delay <;> rfl

/-- Nothing can be drawn from an infinite bound but a part of it, and that makes the delay infinite. -/
theorem blurred_infinite_eq_nan_iff (fin : share.isFinite = true)
    (nonneg : share.isZero = false → share.isNegative = false) {t : Bool}
    (number : delay.isFinite = true ∨ delay = .infinite t) :
    blurred delay (.infinite t) share = .nan ↔ share.isZero = true := by
  have same : (Binary64.infinite t).sub (Binary64.zero false) = .infinite t := rfl
  unfold blurred
  rw [same, Binary64.infinite_mul fin]
  cases zero : share.isZero with
  | true => exact iff_of_true (blurred_nan delay share) rfl
  | false =>
    rw [nonneg zero, Bool.bne_false]
    refine iff_of_false ?_ Bool.false_ne_true
    rcases number with fin | rfl
    · exact Binary64.add_ne_nan fin nofun
    · cases t <;> exact nofun

/-- A finite bound keeps a finite delay a number. -/
theorem blurred_ne_nan {bound : Binary64} (fin : delay.isFinite = true) (range : bound.IsInRange)
    (fin' : share.isFinite = true) : blurred delay bound share ≠ .nan := by
  exact Binary64.add_ne_nan fin
    (Binary64.add_ne_nan rfl (Binary64.mul_ne_nan range.sub_zero fin'))

/-- A delay with a random part is no number exactly if zero and infinity are multiplied. -/
theorem blurred_eq_nan_iff (number : delay.isFinite = true ∨ delay.IsInfinite)
    (fin : factor.isFinite = true) (fin' : share.isFinite = true) (nonneg : factor.isZero = false → factor.isNegative = false)
    (nonneg' : share.isZero = false → share.isNegative = false) :
    blurred delay (factor.mul delay) share = .nan ↔ Clashes delay factor share := by
  rcases number with fin'' | ⟨t, rfl⟩
  · have plain : ¬ delay.IsInfinite := by
      rintro ⟨t, rfl⟩
      cases fin''
    rcases Binary64.mul_isInRange_or_isInfinite fin fin'' with range | ⟨t, infinite⟩
    · exact iff_of_false (blurred_ne_nan fin'' range fin') fun clash =>
        clash.elim (fun c => plain c.1) fun c => range.not_isInfinite c.1
    · rw [infinite, blurred_infinite_eq_nan_iff fin' nonneg' (.inl fin'')]
      exact ⟨fun zero => .inr ⟨⟨t, infinite⟩, zero⟩,
        fun clash => clash.elim (fun c => absurd c.1 plain) fun c => c.2⟩
  · have product := Binary64.mul_infinite fin t
    cases zero : factor.isZero with
    | true =>
      rw [zero, if_pos rfl] at product
      rw [product]
      exact iff_of_true (blurred_nan _ share) (.inl ⟨⟨t, rfl⟩, zero⟩)
    | false =>
      rw [zero, if_neg Bool.false_ne_true, nonneg zero, Bool.false_bne] at product
      rw [product, blurred_infinite_eq_nan_iff fin' nonneg' (.inr rfl)]
      exact ⟨fun drawn => .inr ⟨⟨t, product⟩, drawn⟩,
        fun clash => clash.elim (fun c => absurd c.2 (Bool.eq_false_iff.mp zero)) fun c => c.2⟩

end Backoff

namespace Document

variable {operation : Numeric → Numeric → Except Fault Numeric} {a b : Document} {x y : Numeric}

theorem calculate_of_numeric? (is : a.numeric? = some x) (is' : b.numeric? = some y) :
    calculate operation a b = do return (← operation x y).toDocument := by
  unfold calculate
  rw [toNumber_of_numeric? is, ok_bind, toNumber_of_numeric? is', ok_bind]

end Document

namespace RetryPolicy

open Document (numeric?_toDocument calculate_of_numeric?)

/-- Whether the numbers of a policy are these, finite and with a random part that is not negative. -/
structure HasNumbers (p : RetryPolicy) (b g j : Numeric) : Prop where
  base : p.baseDelay.numeric? = some b
  greatest : p.maxDelay.numeric? = some g
  jitter : p.jitter.numeric? = some j
  finiteBase : b.IsFinite
  finiteGreatest : g.IsFinite
  finiteJitter : j.IsFinite
  nonnegJitter : j.IsNonneg

variable {p : RetryPolicy} {base greatest jitter : Numeric} {share : Binary64} {attempt : Nat}

/-- The random part of a delay is reckoned with numbers. -/
theorem randomUpTo_toDocument (bound : Numeric) :
    randomUpTo (.real share) bound.toDocument = do
      let part ← (← bound.sub (.whole 0)).mul (.double share)
      return (← (Numeric.whole 0).add part).toDocument := by
  unfold randomUpTo
  have zero : (Document.integer 0).numeric? = some (.whole 0) := rfl
  have drawn : (Document.real share).numeric? = some (.double share) := rfl
  rw [Document.minus, calculate_of_numeric? (numeric?_toDocument _) zero]
  cases bound.sub (.whole 0) with
  | error f => rfl
  | ok width =>
    simp only [ok_bind, pure_bind]
    rw [Document.times, calculate_of_numeric? (numeric?_toDocument _) drawn]
    cases width.mul (.double share) with
    | error f => rfl
    | ok part =>
      simp only [ok_bind, pure_bind]
      rw [Document.plus, calculate_of_numeric? zero (numeric?_toDocument _)]

/-- A delay with a random part is reckoned with numbers. -/
theorem growth_exponentialJitter (numbers : p.HasNumbers base greatest jitter)
    (blurs : p.backoff = .exponentialJitter) (first : 1 ≤ attempt) :
    p.growth (.real share) (.integer attempt) = do
      let delay ← base.mul (.whole (2 ^ (attempt - 1)))
      let bound ← jitter.mul delay
      let part ← (← bound.sub (.whole 0)).mul (.double share)
      return (← delay.add (← (Numeric.whole 0).add part)).toDocument := by
  unfold growth
  simp only [blurs]
  rw [scaled_eq numbers.base first]
  cases base.mul (.whole (2 ^ (attempt - 1))) with
  | error f => rfl
  | ok delay =>
    simp only [ok_bind, pure_bind]
    rw [Document.times, calculate_of_numeric? numbers.jitter (numeric?_toDocument _)]
    cases jitter.mul delay with
    | error f => rfl
    | ok bound =>
      simp only [ok_bind, pure_bind]
      rw [randomUpTo_toDocument]
      cases bound.sub (.whole 0) with
      | error f => rfl
      | ok width =>
        simp only [ok_bind]
        cases width.mul (.double share) with
        | error f => rfl
        | ok part =>
          simp only [ok_bind]
          cases (Numeric.whole 0).add part with
          | error f => rfl
          | ok random =>
            simp only [ok_bind, pure_bind]
            rw [Document.plus,
              calculate_of_numeric? (numeric?_toDocument _) (numeric?_toDocument _)]

/-- In doubles, a delay that has a number as its bound is blurred. -/
theorem blur_double {delay : Numeric} {d w : Binary64} (read : delay.toDouble = .ok d) :
    (do
      let part ← (← (Numeric.double w).sub (.whole 0)).mul (.double share)
      return (← delay.add (← (Numeric.whole 0).add part)).toDocument) =
    (.ok (.real (Backoff.blurred d w share)) : Except Fault Document) := by
  have zero : (Numeric.whole 0).toDouble = .ok (Binary64.zero false) := rfl
  rw [Numeric.sub, Numeric.combine_double _ _ w zero, ok_bind, Numeric.mul,
    Numeric.combine_double _ _ _ rfl, ok_bind, Numeric.add, Numeric.combine_double_right zero, ok_bind,
    Numeric.combine_double_right read]
  rfl

/-- What a delay grows to: it cannot be told, is no number, or is one. -/
inductive Grows (overflows undetermined : Prop) : Except Fault Document → Prop
  | overflow (exceeds : overflows) : Grows overflows undetermined (.error .outOfRange)
  | blank (fits : ¬ overflows) (clash : undetermined) :
    Grows overflows undetermined (.ok (.real .nan))
  | told (fits : ¬ overflows) (determined : ¬ undetermined) {d : Document} {a : Numeric}
    (is : d.numeric? = some a) (proper : a.IsProper) : Grows overflows undetermined (.ok d)

/-- A delay with a random part is told by whether zero and infinity are multiplied for it. -/
theorem Grows.of_blurred {overflows undetermined : Prop} {delay factor : Binary64}
    (fits : ¬ overflows) (number : delay.isFinite = true ∨ delay.IsInfinite)
    (fin : factor.isFinite = true) (nonneg : factor.isZero = false → factor.isNegative = false)
    (fin' : share.isFinite = true) (nonneg' : share.isZero = false → share.isNegative = false)
    (clashes : undetermined ↔ Backoff.Clashes delay factor share) :
    Grows overflows undetermined
      (.ok (.real (Backoff.blurred delay (factor.mul delay) share))) := by
  have blank := Backoff.blurred_eq_nan_iff number fin fin' nonneg nonneg'
  by_cases nan : Backoff.blurred delay (factor.mul delay) share = .nan
  · rw [nan]
    exact .blank fits (clashes.mpr (blank.mp nan))
  · exact .told fits (fun clash => nan (blank.mpr (clashes.mp clash))) rfl
      (Numeric.isProper_double nan)

variable {g : Numeric}

theorem isProper_of_number {z : Binary64} (number : z.isFinite = true ∨ z.IsInfinite) :
    (Numeric.double z).IsProper :=
  Numeric.isProper_double (number.elim Binary64.ne_nan_of_isFinite Binary64.IsInfinite.ne_nan)

theorem grows_linear (numbers : p.HasNumbers base g jitter) :
    Grows (Backoff.linear.Overflows base jitter attempt)
      (Backoff.linear.IsUndetermined base jitter share attempt)
      (p.baseDelay.times (.integer attempt)) := by
  have number : (Document.integer attempt).numeric? = some (.whole attempt) := rfl
  rw [Document.times, calculate_of_numeric? numbers.base number]
  cases base with
  | whole b => exact .told id id rfl nofun
  | double x =>
    rcases Numeric.double_mul_whole_cases numbers.finiteBase attempt with
      ⟨beyond, fails⟩ | ⟨below, z, product, number⟩
    · rw [fails]
      exact .overflow beyond
    · rw [product]
      exact .told (Nat.not_le.mpr below) id rfl (isProper_of_number number)

theorem limit_le_power_iff (first : 1 ≤ attempt) :
    Binary64.limit ≤ ((2 : Int) ^ (attempt - 1)).natAbs ↔ 1024 < attempt := by
  rw [Int.natAbs_pow]
  constructor
  · intro beyond
    by_contra few
    exact absurd beyond (Nat.not_le.mpr (Binary64.two_pow_lt_limit (by omega)))
  · exact fun many => Binary64.limit_le_two_pow (by omega)

theorem grows_exponential (numbers : p.HasNumbers base g jitter) (first : 1 ≤ attempt) :
    Grows (Backoff.exponential.Overflows base jitter attempt)
      (Backoff.exponential.IsUndetermined base jitter share attempt)
      (p.scaled (.integer attempt)) := by
  rw [scaled_eq numbers.base first]
  cases base with
  | whole b => exact .told id id rfl nofun
  | double x =>
    rcases Numeric.double_mul_whole_cases numbers.finiteBase (2 ^ (attempt - 1)) with
      ⟨beyond, fails⟩ | ⟨below, z, product, number⟩
    · rw [fails]
      exact .overflow ((limit_le_power_iff first).mp beyond)
    · rw [product]
      exact .told (fun many => absurd ((limit_le_power_iff first).mpr many) (Nat.not_le.mpr below)) id
        rfl (isProper_of_number number)

/-- Which delays clash is settled by what the numbers are rounded to, if they are not all whole. -/
theorem isUndetermined_iff {scaled : Numeric} {delay factor : Binary64}
    (mixed : ∀ m n, base = .whole m → jitter ≠ .whole n)
    (product : base.mul (.whole (2 ^ (attempt - 1))) = .ok scaled)
    (read : scaled.toDouble = .ok delay) (read' : jitter.toDouble = .ok factor) :
    Backoff.exponentialJitter.IsUndetermined base jitter share attempt ↔
      Backoff.Clashes delay factor share := by
  have is : Backoff.exponentialJitter.IsUndetermined base jitter share attempt ↔
      ∃ delay factor, (do (← base.mul (.whole (2 ^ (attempt - 1)))).toDouble) = .ok delay ∧
        jitter.toDouble = .ok factor ∧ Backoff.Clashes delay factor share := by
    cases base with
    | double x => exact Iff.rfl
    | whole m =>
      cases jitter with
      | double y => exact Iff.rfl
      | whole n => exact absurd rfl (mixed m n rfl)
  rw [is, product, ok_bind, read, read']
  constructor
  · rintro ⟨_, _, ⟨⟩, ⟨⟩, clash⟩
    exact clash
  · exact fun clash => ⟨_, _, rfl, rfl, clash⟩

section Growth

variable (first : 1 ≤ attempt) (blurs : p.backoff = .exponentialJitter)
  (fin : (Numeric.double share).IsFinite) (nonneg : (Numeric.double share).IsNonneg)

include first blurs fin nonneg

theorem grows_blurred_double {x : Binary64} (numbers : p.HasNumbers (.double x) g jitter) :
    Grows (Backoff.exponentialJitter.Overflows (.double x) jitter attempt)
      (Backoff.exponentialJitter.IsUndetermined (.double x) jitter share attempt)
      (p.growth (.real share) (.integer attempt)) := by
  rw [growth_exponentialJitter numbers blurs first]
  rcases Numeric.double_mul_whole_cases numbers.finiteBase (2 ^ (attempt - 1)) with
    ⟨beyond, fails⟩ | ⟨below, delay, product, number⟩
  · have many := (limit_le_power_iff first).mp beyond
    rw [fails]
    cases jitter with
    | whole j => exact .overflow (.inl many)
    | double y => exact .overflow many
  · have few : ¬ 1024 < attempt :=
      fun many => absurd ((limit_le_power_iff first).mpr many) (Nat.not_le.mpr below)
    have told {factor : Binary64} (read : jitter.toDouble = .ok factor)
        (fits : ¬ Backoff.exponentialJitter.Overflows (.double x) jitter attempt) :
        Grows (Backoff.exponentialJitter.Overflows (.double x) jitter attempt)
          (Backoff.exponentialJitter.IsUndetermined (.double x) jitter share attempt)
          (.ok (.real (Backoff.blurred delay (factor.mul delay) share))) :=
      .of_blurred fits number (Numeric.isFinite_of_toDouble numbers.finiteJitter read)
        (Numeric.isNegative_of_toDouble numbers.finiteJitter numbers.nonnegJitter read) fin
        (Numeric.isNegative_of_toDouble fin nonneg rfl)
        (isUndetermined_iff (fun _ _ is => nomatch is) product rfl read)
    have same : (Numeric.double delay).toDouble = .ok delay := rfl
    rw [product, ok_bind]
    cases jitter with
    | whole j =>
      rcases Numeric.toDouble_whole_cases j with ⟨beyond, fails⟩ | ⟨below, factor, read, -⟩
      · have bound : (Numeric.whole j).mul (.double delay) = .error .outOfRange :=
          Numeric.combine_error_double fails
        rw [bound]
        exact .overflow (.inr beyond)
      · have bound : (Numeric.whole j).mul (.double delay) = .ok (.double (factor.mul delay)) :=
          Numeric.combine_double_right read
        rw [bound, ok_bind, blur_double same]
        exact told read fun exceeds => exceeds.elim few (Nat.not_le.mpr below)
    | double y =>
      have bound : (Numeric.double y).mul (.double delay) = .ok (.double (y.mul delay)) := rfl
      rw [bound, ok_bind, blur_double same]
      exact told rfl few

theorem grows_blurred_whole {m : Int} {y : Binary64} (numbers : p.HasNumbers (.whole m) g (.double y)) :
    Grows (Backoff.exponentialJitter.Overflows (.whole m) (.double y) attempt)
      (Backoff.exponentialJitter.IsUndetermined (.whole m) (.double y) share attempt)
      (p.growth (.real share) (.integer attempt)) := by
  rw [growth_exponentialJitter numbers blurs first]
  have product : (Numeric.whole m).mul (.whole (2 ^ (attempt - 1))) =
    .ok (.whole (m * 2 ^ (attempt - 1))) := rfl
  have size : (m * 2 ^ (attempt - 1)).natAbs = m.natAbs * 2 ^ (attempt - 1) := by
    rw [Int.natAbs_mul, Int.natAbs_pow]
    rfl
  rw [product, ok_bind]
  rcases Numeric.toDouble_whole_cases (m * 2 ^ (attempt - 1)) with
    ⟨beyond, fails⟩ | ⟨below, delay, read, range⟩
  · have bound : (Numeric.double y).mul (.whole (m * 2 ^ (attempt - 1))) = .error .outOfRange :=
      Numeric.combine_double_error fails
    rw [size] at beyond
    rw [bound]
    exact .overflow beyond
  · have bound : (Numeric.double y).mul (.whole (m * 2 ^ (attempt - 1))) =
        .ok (.double (y.mul delay)) := Numeric.combine_double _ _ y read
    rw [size] at below
    rw [bound, ok_bind, blur_double read]
    exact .of_blurred (Nat.not_le.mpr below) (.inl range.isFinite) numbers.finiteJitter
      (Numeric.isNegative_of_toDouble numbers.finiteJitter numbers.nonnegJitter rfl) fin
      (Numeric.isNegative_of_toDouble fin nonneg rfl)
      (isUndetermined_iff (fun _ _ _ is => nomatch is) product read rfl)

omit nonneg in
theorem grows_blurred_exact {m n : Int} (numbers : p.HasNumbers (.whole m) g (.whole n)) :
    Grows (Backoff.exponentialJitter.Overflows (.whole m) (.whole n) attempt)
      (Backoff.exponentialJitter.IsUndetermined (.whole m) (.whole n) share attempt)
      (p.growth (.real share) (.integer attempt)) := by
  rw [growth_exponentialJitter numbers blurs first]
  generalize power : (2 : Int) ^ (attempt - 1) = t
  have product : (Numeric.whole m).mul (.whole t) = .ok (.whole (m * t)) := rfl
  have bound : (Numeric.whole n).mul (.whole (m * t)) = .ok (.whole (n * (m * t))) := rfl
  have width : (Numeric.whole (n * (m * t))).sub (.whole 0) = .ok (.whole (n * (m * t))) :=
    congrArg (fun w => Except.ok (Numeric.whole w)) (Int.sub_zero _)
  have exceeds : Backoff.exponentialJitter.Overflows (.whole m) (.whole n) attempt ↔
      Binary64.limit ≤ (m * t).natAbs ∨ Binary64.limit ≤ (n * (m * t)).natAbs := by
    have size : (m * t).natAbs = m.natAbs * 2 ^ (attempt - 1) := by
      rw [Int.natAbs_mul, ← power, Int.natAbs_pow]
      rfl
    rw [Backoff.Overflows, ← size, ← Nat.mul_max_mul_left, le_max_iff, Nat.mul_one,
      Int.natAbs_mul n, Nat.mul_comm n.natAbs]
  rw [product, ok_bind, bound, ok_bind, width, ok_bind]
  rcases Numeric.toDouble_whole_cases (n * (m * t)) with
    ⟨beyond, fails⟩ | ⟨below, w, read, range⟩
  · have part : (Numeric.whole (n * (m * t))).mul (.double share) = .error .outOfRange :=
      Numeric.combine_error_double fails
    rw [part]
    exact .overflow (exceeds.mpr (.inr beyond))
  · have part : (Numeric.whole (n * (m * t))).mul (.double share) = .ok (.double (w.mul share)) :=
      Numeric.combine_double_right read
    have random : (Numeric.whole 0).add (.double (w.mul share)) =
      .ok (.double ((Binary64.zero false).add (w.mul share))) := Numeric.combine_double_right rfl
    rw [part, ok_bind, random, ok_bind]
    rcases Numeric.toDouble_whole_cases (m * t) with
      ⟨beyond, fails⟩ | ⟨below', delay, read, range'⟩
    · have sum : (Numeric.whole (m * t)).add (.double ((Binary64.zero false).add (w.mul share))) =
          .error .outOfRange := Numeric.combine_error_double fails
      rw [sum]
      exact .overflow (exceeds.mpr (.inl beyond))
    · have sum : (Numeric.whole (m * t)).add (.double ((Binary64.zero false).add (w.mul share))) =
          .ok (.double (delay.add ((Binary64.zero false).add (w.mul share)))) :=
        Numeric.combine_double_right read
      rw [sum]
      refine .told (fun beyond => (exceeds.mp beyond).elim (Nat.not_le.mpr below') (Nat.not_le.mpr below))
        id rfl (Numeric.isProper_double ?_)
      exact Binary64.add_ne_nan range'.isFinite
        (Binary64.add_ne_nan rfl (Binary64.mul_ne_nan range.isFinite fin))

omit blurs in
/-- What every delay of a policy grows to. -/
theorem grows_growth (numbers : p.HasNumbers base g jitter) :
    Grows (p.backoff.Overflows base jitter attempt)
      (p.backoff.IsUndetermined base jitter share attempt)
      (p.growth (.real share) (.integer attempt)) := by
  cases rule : p.backoff with
  | fixed =>
    unfold growth
    rw [rule]
    exact .told id id numbers.base numbers.finiteBase.isProper
  | linear =>
    unfold growth
    rw [rule]
    exact grows_linear numbers
  | exponential =>
    unfold growth
    rw [rule]
    exact grows_exponential numbers first
  | exponentialJitter =>
    cases base with
    | double x => exact grows_blurred_double first rule fin nonneg numbers
    | whole m =>
      cases jitter with
      | double y => exact grows_blurred_whole first rule fin nonneg numbers
      | whole n => exact grows_blurred_exact first rule fin numbers

omit blurs in
/-- The delay after an attempt is told and at most the greatest one exactly if no whole number has to be
rounded that is beyond every double, and zero and infinity are not multiplied. Otherwise it cannot be
told, or is no number. -/
theorem delay_bounded_iff (numbers : p.HasNumbers base g jitter) :
    let delay := p.delayAfter (.real share) (.integer attempt)
    ((∃ d, delay = .ok d ∧ d.isAtMost p.maxDelay = .ok true) ↔
      ¬ p.backoff.Overflows base jitter attempt ∧
        ¬ p.backoff.IsUndetermined base jitter share attempt) ∧
      (p.backoff.Overflows base jitter attempt → delay = .error .outOfRange) ∧
      (¬ p.backoff.Overflows base jitter attempt →
        p.backoff.IsUndetermined base jitter share attempt → delay = .ok (.real .nan)) := by
  have grows := grows_growth first fin nonneg numbers
  unfold delayAfter
  generalize p.growth (.real share) (.integer attempt) = grown at grows
  cases grows with
  | overflow exceeds =>
    refine ⟨iff_of_false ?_ fun fits => fits.1 exceeds, fun _ => rfl, fun fits => absurd exceeds fits⟩
    rintro ⟨d, ⟨⟩, -⟩
  | blank fits clash =>
    obtain ⟨is, not⟩ := Document.lesser_nan numbers.greatest
    rw [ok_bind, is]
    refine ⟨iff_of_false ?_ fun determined => determined.2 clash, fun exceeds => absurd exceeds fits,
      fun _ _ => rfl⟩
    rintro ⟨d, ⟨⟩, least⟩
    rw [not] at least
    cases least
  | told fits determined is proper =>
    refine ⟨iff_of_true ?_ ⟨fits, determined⟩, fun exceeds => absurd exceeds fits,
      fun _ clash => absurd clash determined⟩
    exact Document.exists_lesser_isAtMost is numbers.greatest proper numbers.finiteGreatest.isProper

end Growth

/-- The standard delay after the attempt 1024 is told, and it is at most a minute. -/
theorem delay_bounded_iff_at_1024 :
    let share := Binary64.ofRatio false 1 4
    ∃ d, standard.delayAfter (.real share) (.integer 1024) = .ok d ∧
      d.isAtMost standard.maxDelay = .ok true := by
  intro share
  have numbers : standard.HasNumbers (.double (Binary64.ofRatio false 1 1))
      (.double (Binary64.ofRatio false 60 1)) (.double (Binary64.ofRatio false 1 2)) :=
    ⟨rfl, rfl, rfl, rfl, rfl, rfl, by decide⟩
  have fin : (Numeric.double share).IsFinite := rfl
  have nonneg : (Numeric.double share).IsNonneg := by decide
  have first : 1 ≤ 1024 := by decide
  refine (delay_bounded_iff first fin nonneg numbers).1.mpr ⟨Nat.lt_irrefl 1024, ?_⟩
  rintro ⟨delay, factor, -, ⟨⟩, ⟨-, zero⟩ | ⟨-, zero⟩⟩
  · cases zero
  · cases zero

/-- Behind the attempt 1024 no exponential delay can be told, if the base delay is a double; and without
a random part a delay can be no number before that. -/
theorem delay_unbounded :
    (∀ share, { standard with backoff := .exponential }.delayAfter share (.integer 1025) =
      .error .outOfRange) ∧
    { standard with
      baseDelay := .real (Binary64.ofRatio false (10 ^ 308) 1)
      jitter := .real (Binary64.zero false) }.delayAfter (.real (Binary64.ofRatio false 1 4))
        (.integer 2) = .ok (.real .nan) := by
  refine ⟨fun share => ?_, by decide +kernel⟩
  have scaled : { standard with backoff := .exponential }.scaled (.integer 1025) =
      .error .outOfRange := by decide +kernel
  unfold delayAfter growth
  rw [scaled]
  rfl

end RetryPolicy

end RuleBound
