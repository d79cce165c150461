import Mathlib.Algebra.Group.Nat.Defs
import RuleBound.Number.Binary64

/-!
Rounding. A quotient of whole numbers is rounded to infinity from one limit on, which lies halfway between
the largest double and the power of two behind it; below the limit it is rounded to a finite double,
which is below the limit itself. So a product of finite doubles is a number, if only an infinite one, and
so is a sum with a finite double. What is no number comes of zero times infinity.
-/

namespace RuleBound.Binary64

/-- The least number that is rounded to infinity: `2 ^ 1024 - 2 ^ 970`. -/
def limit : Nat := (2 ^ 54 - 1) * 2 ^ 970

/-- The exponent of the last place of a quotient, or the one below. -/
def firstPlace (num den : Nat) : Int := max ((num.log2 : Int) - (den.log2 : Int) - 53) (-1074)

/-- The exponent of the last place of a quotient. -/
def lastPlace (num den : Nat) : Int :=
  if 2 ^ 53 ≤ ofRatio.scaledFloor num den (firstPlace num den) then firstPlace num den + 1
  else firstPlace num den

theorem limit_pos : 0 < limit := by
  rw [limit]
  exact Nat.mul_pos (by decide) (Nat.two_pow_pos 970)

/-- All powers of two with fewer binary digits than the limit are below it. -/
theorem two_pow_lt_limit {k : Nat} (low : k ≤ 53 + 970) : 2 ^ k < limit :=
  calc 2 ^ k ≤ 2 ^ (53 + 970) := Nat.pow_le_pow_right Nat.two_pos low
    _ = 2 ^ 53 * 2 ^ 970 := by rw [Nat.pow_add]
    _ < limit := by
        rw [limit]
        exact Nat.mul_lt_mul_of_pos_right (by decide) (Nat.two_pow_pos 970)

/-- All powers of two with more binary digits than the limit are beyond it. -/
theorem limit_le_two_pow {k : Nat} (high : 54 + 970 ≤ k) : limit ≤ 2 ^ k :=
  calc limit ≤ 2 ^ 54 * 2 ^ 970 := by
        rw [limit]
        exact Nat.mul_le_mul_right (2 ^ 970) (by decide)
    _ = 2 ^ (54 + 970) := by rw [Nat.pow_add]
    _ ≤ 2 ^ k := Nat.pow_le_pow_right Nat.two_pos high

theorem ofRatio_of_ne_zero {negative : Bool} {num den : Nat} (some : num ≠ 0) :
    ofRatio negative num den =
      if scaledRound num den (lastPlace num den) = 2 ^ 53 then
        if 971 < lastPlace num den + 1 then .infinite negative
        else .finite negative (2 ^ 52) (lastPlace num den + 1)
      else
        if 971 < lastPlace num den then .infinite negative
        else .finite negative (scaledRound num den (lastPlace num den)) (lastPlace num den) := by
  unfold ofRatio
  rw [if_neg some]
  extract_lets estimate first exponent mantissa
  have is : lastPlace num den = exponent := rfl
  rw [is]
  by_cases carry : mantissa = 2 ^ 53
  · rw [if_pos carry]
    dsimp only
    rw [if_pos carry]
  · rw [if_neg carry]
    dsimp only
    rw [if_neg carry]

private theorem toNat_neg_ofNat (e : Nat) : (-Int.ofNat e).toNat = 0 :=
  Int.toNat_eq_zero.mpr (Int.neg_nonpos_of_nonneg (Int.natCast_nonneg e))

/-- A quotient by a power of two, without negative exponents. -/
theorem scaledFloor_eq (num den : Nat) (e : Int) :
    ofRatio.scaledFloor num den e = num * 2 ^ (-e).toNat / (den * 2 ^ e.toNat) := by
  cases e with
  | ofNat e =>
    rw [toNat_neg_ofNat, Nat.pow_zero, Nat.mul_one]
    rfl
  | negSucc e =>
    change num * 2 ^ (e + 1) / den = num * 2 ^ (e + 1) / (den * 2 ^ 0)
    rw [Nat.pow_zero, Nat.mul_one]

theorem scaledRound_eq (num den : Nat) (e : Int) :
    scaledRound num den e = roundDiv (num * 2 ^ (-e).toNat) (den * 2 ^ e.toNat) := by
  cases e with
  | ofNat e =>
    rw [toNat_neg_ofNat, Nat.pow_zero, Nat.mul_one]
    rfl
  | negSucc e =>
    change roundDiv (num * 2 ^ (e + 1)) den = roundDiv (num * 2 ^ (e + 1)) (den * 2 ^ 0)
    rw [Nat.pow_zero, Nat.mul_one]

variable {num den : Nat}

/-- A place is low enough for a quotient if the latter has at most 53 binary digits there. -/
private theorem scaledFloor_lt_iff (divides : den ≠ 0) {bound : Nat} {e : Int} :
    ofRatio.scaledFloor num den e < bound ↔ num * 2 ^ (-e).toNat < bound * (den * 2 ^ e.toNat) := by
  rw [scaledFloor_eq, Nat.div_lt_iff_lt_mul]
  exact Nat.mul_pos (Nat.pos_of_ne_zero divides) (Nat.two_pow_pos _)

/-- One place further up, a quotient is half of what it was. -/
private theorem scaledFloor_succ_lt_iff (divides : den ≠ 0) {bound : Nat} {e : Int} :
    ofRatio.scaledFloor num den (e + 1) < bound ↔ ofRatio.scaledFloor num den e < 2 * bound := by
  rw [scaledFloor_lt_iff divides, scaledFloor_lt_iff divides]
  rcases Int.lt_or_le e 0 with below | above
  · have up : (e + 1).toNat = e.toNat := by omega
    have down : (-e).toNat = (-(e + 1)).toNat + 1 := by omega
    rw [up, down, Nat.pow_succ, Nat.mul_comm _ 2, Nat.mul_left_comm num, Nat.mul_assoc 2,
      Nat.mul_lt_mul_left Nat.two_pos]
  · have up : (e + 1).toNat = e.toNat + 1 := by omega
    have down : (-(e + 1)).toNat = (-e).toNat := by omega
    rw [up, down, Nat.pow_succ, Nat.mul_comm _ 2, Nat.mul_left_comm den, ← Nat.mul_assoc bound,
      Nat.mul_comm bound]

theorem scaledFloor_first (divides : den ≠ 0) {e : Int}
    (least : (num.log2 : Int) - den.log2 - 53 ≤ e) :
    ofRatio.scaledFloor num den e < 2 ^ 54 := by
  rw [scaledFloor_lt_iff divides]
  calc num * 2 ^ (-e).toNat
      < 2 ^ (num.log2 + 1) * 2 ^ (-e).toNat :=
        Nat.mul_lt_mul_of_pos_right Nat.lt_log2_self (Nat.two_pow_pos _)
    _ ≤ 2 ^ 54 * (2 ^ den.log2 * 2 ^ e.toNat) := by
        rw [← Nat.pow_add, ← Nat.pow_add, ← Nat.pow_add]
        exact Nat.pow_le_pow_right Nat.two_pos (by omega)
    _ ≤ 2 ^ 54 * (den * 2 ^ e.toNat) :=
        Nat.mul_le_mul_left _ (Nat.mul_le_mul_right _ (Nat.log2_self_le divides))

theorem le_scaledFloor_first (some : num ≠ 0) (divides : den ≠ 0) {e : Int}
    (most : e ≤ (num.log2 : Int) - den.log2 - 53) :
    2 ^ 52 ≤ ofRatio.scaledFloor num den e := by
  rw [← Nat.not_lt, scaledFloor_lt_iff divides, Nat.not_lt]
  calc 2 ^ 52 * (den * 2 ^ e.toNat)
      ≤ 2 ^ 52 * (2 ^ (den.log2 + 1) * 2 ^ e.toNat) :=
        Nat.mul_le_mul_left _ (Nat.mul_le_mul_right _ (Nat.le_of_lt Nat.lt_log2_self))
    _ ≤ 2 ^ num.log2 * 2 ^ (-e).toNat := by
        rw [← Nat.pow_add, ← Nat.pow_add, ← Nat.pow_add]
        exact Nat.pow_le_pow_right Nat.two_pos (by omega)
    _ ≤ num * 2 ^ (-e).toNat := Nat.mul_le_mul_right _ (Nat.log2_self_le some)

/-- At its last place a quotient has at most 53 binary digits. -/
theorem scaledFloor_lastPlace_lt (num : Nat) (divides : den ≠ 0) :
    ofRatio.scaledFloor num den (lastPlace num den) < 2 ^ 53 := by
  unfold lastPlace
  split
  · rw [scaledFloor_succ_lt_iff divides]
    exact scaledFloor_first divides (Int.le_max_left ..)
  · next few => exact Nat.not_le.mp few

/-- At its last place a quotient has 53 binary digits, unless it is the last place that there is. -/
theorem le_scaledFloor_lastPlace (some : num ≠ 0) (divides : den ≠ 0)
    (above : -1074 < lastPlace num den) :
    2 ^ 52 ≤ ofRatio.scaledFloor num den (lastPlace num den) := by
  unfold lastPlace at above ⊢
  by_cases many : 2 ^ 53 ≤ ofRatio.scaledFloor num den (firstPlace num den)
  · rw [if_pos many, ← Nat.not_lt, scaledFloor_succ_lt_iff divides, Nat.not_lt]
    exact many
  · rw [if_neg many] at above ⊢
    unfold firstPlace at above
    exact le_scaledFloor_first some divides (by unfold firstPlace; omega)

theorem roundDiv_le (num den : Nat) : roundDiv num den ≤ num / den + 1 := by
  unfold roundDiv
  dsimp only
  split
  · exact Nat.le_succ _
  · split
    · exact Nat.le_refl _
    · exact Nat.add_le_add_left (Nat.le_of_lt_succ (Nat.mod_lt _ Nat.two_pos)) _

/-- A quotient of at most 53 binary digits gets another one by rounding from half a place below. -/
theorem roundDiv_eq_two_pow_iff {half : Nat} (some : half ≠ 0)
    (few : num / (2 * half) < 2 ^ 53) :
    roundDiv num (2 * half) = 2 ^ 53 ↔ (2 ^ 54 - 1) * half ≤ num := by
  have division := Nat.div_add_mod num (2 * half)
  have rest := Nat.mod_lt num (Nat.mul_pos Nat.two_pos (Nat.pos_of_ne_zero some))
  unfold roundDiv
  dsimp only
  generalize num / (2 * half) = q at *
  generalize num % (2 * half) = r at *
  rcases Nat.lt_or_ge (q + 1) (2 ^ 53) with less | last
  · have below : 2 * half * q + 2 * half ≤ (2 ^ 54 - 2) * half :=
      calc 2 * half * q + 2 * half = 2 * half * (q + 1) := (Nat.mul_succ _ _).symm
        _ ≤ 2 * half * (2 ^ 53 - 1) := Nat.mul_le_mul_left _ (Nat.le_sub_one_of_lt less)
        _ = (2 ^ 54 - 2) * half := by omega
    have bit := Nat.mod_lt q Nat.two_pos
    constructor
    · intro carries
      split at carries
      · omega
      · split at carries <;> omega
    · omega
  · obtain rfl : q = 2 ^ 53 - 1 := by omega
    split
    · omega
    · split <;> omega

/-- A quotient whose last place is beyond that of every double is beyond the limit. -/
theorem limit_le_of_lastPlace (some : num ≠ 0) (divides : den ≠ 0)
    (high : 972 ≤ lastPlace num den) : limit * den ≤ num := by
  have many := le_scaledFloor_lastPlace some divides (by omega)
  rw [← Nat.not_lt, scaledFloor_lt_iff divides, Nat.not_lt] at many
  have whole : (-lastPlace num den).toNat = 0 := by omega
  rw [whole, Nat.pow_zero, Nat.mul_one] at many
  calc limit * den ≤ 2 ^ (52 + (lastPlace num den).toNat) * den :=
        Nat.mul_le_mul_right _ (limit_le_two_pow (by omega))
    _ = 2 ^ 52 * (den * 2 ^ (lastPlace num den).toNat) := by
        rw [Nat.pow_add, Nat.mul_assoc, Nat.mul_comm den]
    _ ≤ num := many

/-- A quotient whose last place is below the highest one of a double is below the limit. -/
theorem lt_limit_of_lastPlace (divides : den ≠ 0) (low : lastPlace num den ≤ 970) :
    num < limit * den := by
  have few := scaledFloor_lastPlace_lt num divides
  rw [scaledFloor_lt_iff divides] at few
  calc num ≤ num * 2 ^ (-lastPlace num den).toNat := Nat.le_mul_of_pos_right _ (Nat.two_pow_pos _)
    _ < 2 ^ 53 * (den * 2 ^ (lastPlace num den).toNat) := few
    _ = 2 ^ (53 + (lastPlace num den).toNat) * den := by
        rw [Nat.pow_add, Nat.mul_assoc, Nat.mul_comm den]
    _ ≤ limit * den := Nat.mul_le_mul_right _ (Nat.le_of_lt (two_pow_lt_limit (by omega)))

/-- At the highest last place of a double, a quotient is carried over from the limit on. -/
theorem carries_iff (divides : den ≠ 0) (top : lastPlace num den = 971) :
    scaledRound num den (lastPlace num den) = 2 ^ 53 ↔ limit * den ≤ num := by
  have few := scaledFloor_lastPlace_lt num divides
  have zero : (-(971 : Int)).toNat = 0 := rfl
  have place : (971 : Int).toNat = 970 + 1 := rfl
  have twice : den * 2 ^ (970 + 1) = 2 * (den * 2 ^ 970) := by
    rw [Nat.pow_add, Nat.pow_one, Nat.mul_comm _ 2, Nat.mul_left_comm]
  rw [top, scaledFloor_eq, zero, place, Nat.pow_zero, Nat.mul_one, twice] at few
  rw [top, scaledRound_eq, zero, place, Nat.pow_zero, Nat.mul_one, twice,
    roundDiv_eq_two_pow_iff (Nat.mul_ne_zero divides (Nat.ne_of_gt (Nat.two_pow_pos 970))) few, limit,
    Nat.mul_assoc, Nat.mul_comm (2 ^ 970)]

/-- Whether a double is finite and within the range that rounding has. -/
def IsInRange (x : Binary64) : Prop := ∃ s m e, x = .finite s m e ∧ m < 2 ^ 53 ∧ e ≤ 971

/-- A quotient overflows from the limit on, and otherwise becomes a finite double. -/
theorem ofRatio_cases (negative : Bool) (num : Nat) (divides : den ≠ 0) :
    (limit * den ≤ num ∧ ofRatio negative num den = .infinite negative) ∨
      (num < limit * den ∧ (ofRatio negative num den).IsInRange) := by
  by_cases some : num = 0
  · subst some
    exact .inr ⟨Nat.mul_pos limit_pos (Nat.pos_of_ne_zero divides), negative, 0, -1074, rfl,
      by decide, by decide⟩
  have few : scaledRound num den (lastPlace num den) ≤ 2 ^ 53 := by
    have floor := scaledFloor_lastPlace_lt num divides
    rw [scaledFloor_eq] at floor
    rw [scaledRound_eq]
    exact Nat.le_trans (roundDiv_le _ _) floor
  rw [ofRatio_of_ne_zero some]
  rcases Int.lt_trichotomy (lastPlace num den) 971 with low | top | high
  · refine .inr ⟨lt_limit_of_lastPlace divides (by omega), negative, ?_⟩
    split
    · exact ⟨_, _, if_neg (by omega), by decide, by omega⟩
    · next uncarried => exact ⟨_, _, if_neg (by omega), by omega, by omega⟩
  · by_cases carries : scaledRound num den (lastPlace num den) = 2 ^ 53
    · rw [if_pos carries, if_pos (by omega)]
      exact .inl ⟨(carries_iff divides top).mp carries, rfl⟩
    · rw [if_neg carries, if_neg (by omega)]
      exact .inr ⟨Nat.not_le.mp (mt (carries_iff divides top).mpr carries), negative, _, _, rfl,
        by omega, by omega⟩
  · refine .inl ⟨limit_le_of_lastPlace some divides high, ?_⟩
    have higher : 971 < lastPlace num den + 1 := by omega
    rw [if_pos higher, if_pos high, ite_self]

/-- A whole number can be rounded exactly if it is below the limit. -/
theorem ofInt?_cases (n : Int) :
    (limit ≤ n.natAbs ∧ ofInt? n = none) ∨
      (n.natAbs < limit ∧ ∃ x, ofInt? n = some x ∧ x.IsInRange) := by
  have cases := ofRatio_cases (decide (n < 0)) n.natAbs Nat.one_ne_zero
  rw [Nat.mul_one] at cases
  unfold ofInt?
  rcases cases with ⟨beyond, is⟩ | ⟨below, s, m, e, is, fits⟩
  · rw [is]
    exact .inl ⟨beyond, rfl⟩
  · rw [is]
    exact .inr ⟨below, _, rfl, s, m, e, rfl, fits⟩

/-! ## Special values -/

theorem toRatio?_finite (s : Bool) (m : Nat) (e : Int) :
    ∃ a b, (finite s m e).toRatio? = some (a, b) ∧ b ≠ 0 ∧ (m < 2 ^ 53 → e ≤ 971 →
      a.natAbs < limit * b) := by
  have abs : (if s then -(m : Int) else m).natAbs = m := by
    split
    · rw [Int.natAbs_neg, Int.natAbs_natCast]
    · rw [Int.natAbs_natCast]
  cases e with
  | ofNat e =>
    refine ⟨_, _, rfl, Nat.one_ne_zero, fun few low => ?_⟩
    have low : e ≤ 1 + 970 := Int.ofNat_le.mp low
    have twice : (2 ^ 53 - 1) * 2 ^ 1 = 2 ^ 54 - 2 := by decide
    rw [Int.natAbs_mul, abs, Int.natAbs_pow, Nat.mul_one, limit]
    calc m * 2 ^ e ≤ (2 ^ 53 - 1) * 2 ^ (1 + 970) :=
          Nat.mul_le_mul (Nat.le_sub_one_of_lt few) (Nat.pow_le_pow_right Nat.two_pos low)
      _ = (2 ^ 54 - 2) * 2 ^ 970 := by rw [Nat.pow_add, ← Nat.mul_assoc, twice]
      _ < (2 ^ 54 - 1) * 2 ^ 970 :=
          Nat.mul_lt_mul_of_pos_right (by decide) (Nat.two_pow_pos 970)
  | negSucc e =>
    refine ⟨_, _, rfl, Nat.ne_of_gt (Nat.two_pow_pos _), fun few _ => ?_⟩
    rw [abs]
    calc m < 2 ^ 53 := few
      _ ≤ limit := Nat.le_of_lt (two_pow_lt_limit (by decide))
      _ ≤ limit * 2 ^ (e + 1) := Nat.le_mul_of_pos_right _ (Nat.two_pow_pos _)

variable {x y : Binary64}

/-- Whether a double is an infinity. -/
def IsInfinite (x : Binary64) : Prop := ∃ s, x = .infinite s

theorem IsInfinite.ne_nan (infinite : x.IsInfinite) : x ≠ .nan := by
  obtain ⟨s, rfl⟩ := infinite
  exact nofun

theorem IsInRange.isFinite (range : x.IsInRange) : x.isFinite = true := by
  obtain ⟨s, m, e, rfl, -⟩ := range
  rfl

theorem IsInRange.not_isInfinite (range : x.IsInRange) : ¬ x.IsInfinite := by
  obtain ⟨s, m, e, rfl, -⟩ := range
  rintro ⟨t, is⟩
  cases is

theorem exists_of_isFinite (fin : x.isFinite = true) : ∃ s m e, x = finite s m e := by
  cases x with
  | nan | infinite => cases fin
  | finite s m e => exact ⟨s, m, e, rfl⟩

theorem ne_nan_of_isFinite (fin : x.isFinite = true) : x ≠ .nan := by
  obtain ⟨s, m, e, rfl⟩ := exists_of_isFinite fin
  exact nofun

theorem isNegative_ofRatio (s : Bool) (num den : Nat) : (ofRatio s num den).isNegative = s := by
  unfold ofRatio
  split
  · rfl
  · dsimp only
    repeat' split
    all_goals rfl

theorem ofRatio_isInRange_or_isInfinite (s : Bool) (num : Nat) {den : Nat} (divides : den ≠ 0) :
    (ofRatio s num den).IsInRange ∨ (ofRatio s num den).IsInfinite := by
  rcases ofRatio_cases s num divides with ⟨-, is⟩ | ⟨-, range⟩
  · exact .inr ⟨s, is⟩
  · exact .inl range

theorem ofRatio_ne_nan (s : Bool) (num : Nat) {den : Nat} (divides : den ≠ 0) :
    ofRatio s num den ≠ .nan := by
  rcases ofRatio_isInRange_or_isInfinite s num divides with range | infinite
  · exact ne_nan_of_isFinite range.isFinite
  · exact infinite.ne_nan

/-- A product of finite doubles is a number. -/
theorem mul_isInRange_or_isInfinite (fin : x.isFinite = true) (fin' : y.isFinite = true) :
    (x.mul y).IsInRange ∨ (x.mul y).IsInfinite := by
  obtain ⟨s, m, e, rfl⟩ := exists_of_isFinite fin
  obtain ⟨t, k, f, rfl⟩ := exists_of_isFinite fin'
  obtain ⟨a, b, ratio, hb, -⟩ := toRatio?_finite s m e
  obtain ⟨c, d, ratio', hd, -⟩ := toRatio?_finite t k f
  have is : (finite s m e).mul (finite t k f) =
      ofRatio (s != t) (a.natAbs * c.natAbs) (b * d) := by
    simp only [mul, ratio, ratio']
  rw [is]
  exact ofRatio_isInRange_or_isInfinite _ _ (Nat.mul_ne_zero hb hd)

theorem mul_ne_nan (fin : x.isFinite = true) (fin' : y.isFinite = true) : x.mul y ≠ .nan := by
  rcases mul_isInRange_or_isInfinite fin fin' with range | infinite
  · exact ne_nan_of_isFinite range.isFinite
  · exact infinite.ne_nan

/-- Infinity times a finite double is infinite, unless the latter is zero. -/
theorem infinite_mul (fin : y.isFinite = true) (s : Bool) :
    (infinite s).mul y = if y.isZero then .nan else .infinite (s != y.isNegative) := by
  obtain ⟨t, k, f, rfl⟩ := exists_of_isFinite fin
  rfl

theorem mul_infinite (fin : x.isFinite = true) (t : Bool) :
    x.mul (.infinite t) = if x.isZero then .nan else .infinite (x.isNegative != t) := by
  obtain ⟨s, m, e, rfl⟩ := exists_of_isFinite fin
  rfl

/-- The sum of finite doubles, as a quotient that is rounded. -/
theorem add_finite {s t : Bool} {m k : Nat} {e f : Int} {a c : Int} {b d : Nat}
    (ratio : (finite s m e).toRatio? = some (a, b)) (ratio' : (finite t k f).toRatio? = some (c, d)) :
    (finite s m e).add (finite t k f) =
      if a * d + c * b = 0 then zero (s && t)
      else ofRatio (a * d + c * b < 0) (a * d + c * b).natAbs (b * d) := by
  simp only [add, ratio, ratio']

/-- What is added to a finite double stays a number. -/
theorem add_ne_nan (fin : x.isFinite = true) (number : y ≠ .nan) : x.add y ≠ .nan := by
  obtain ⟨s, m, e, rfl⟩ := exists_of_isFinite fin
  cases y with
  | nan => exact absurd rfl number
  | infinite t => exact nofun
  | finite t k f =>
    obtain ⟨a, b, ratio, hb, -⟩ := toRatio?_finite s m e
    obtain ⟨c, d, ratio', hd, -⟩ := toRatio?_finite t k f
    rw [add_finite ratio ratio']
    split
    · exact nofun
    · exact ofRatio_ne_nan _ _ (Nat.mul_ne_zero hb hd)

theorem exists_toRatio?_zero (s : Bool) (e : Int) :
    ∃ d, (finite s 0 e).toRatio? = some (0, d) ∧ d ≠ 0 := by
  cases e with
  | ofNat e => exact ⟨1, by cases s <;> simp [toRatio?], Nat.one_ne_zero⟩
  | negSucc e => exact ⟨_, by cases s <;> rfl, Nat.ne_of_gt (Nat.two_pow_pos _)⟩

/-- What is in range stays finite when zero is taken off. -/
theorem IsInRange.sub_zero (range : x.IsInRange) : (x.sub (zero false)).isFinite = true := by
  obtain ⟨s, m, e, rfl, few, low⟩ := range
  obtain ⟨a, b, ratio, hb, small⟩ := toRatio?_finite s m e
  obtain ⟨d, nothing, hd⟩ := exists_toRatio?_zero true (-1074)
  have small' : (a * d + 0 * (b : Int)).natAbs < limit * (b * d) := by
    rw [Int.zero_mul, Int.add_zero, Int.natAbs_mul, Int.natAbs_natCast, ← Nat.mul_assoc]
    exact Nat.mul_lt_mul_of_pos_right (small few low) (Nat.pos_of_ne_zero hd)
  have is : (finite s m e).sub (zero false) = _ := add_finite ratio nothing
  rw [is]
  split
  · rfl
  · rcases ofRatio_cases _ _ (Nat.mul_ne_zero hb hd) with ⟨beyond, -⟩ | ⟨-, range⟩
    · exact absurd small' (Nat.not_lt.mpr beyond)
    · exact range.isFinite

end RuleBound.Binary64
