import Mathlib.Data.List.Basic
import RuleBound.Document.Arithmetic

/-!
Whole numbers as documents. On them the operations that take any document are the ones of `Int`,
and no faults. Of numbers of any type it is known that they can be compared with whole ones, and that
counting on from one gives one.
-/

namespace RuleBound.Document

/-- The value of a whole number. Anything else has none, and counts as zero. -/
def value : Document → Int
  | .integer n => n
  | _ => 0

@[simp] theorem value_integer (n : Int) : (integer n).value = n := rfl

@[simp] theorem isNumber_integer (m n : Int) : (integer m).isNumber n = (m == n) := by
  change (some (compare m n) == some Ordering.eq) = (m == n)
  by_cases same : m = n
  · simp [same]
  · have apart : compare m n ≠ .eq := fun eq => same (Int.compare_eq_eq.mp eq)
    simp [same, apart]

/-- A double is one whole number at most. -/
theorem eq_of_compareInt? {x : Binary64} {m n : Int} (same : x.compareInt? m = some .eq)
    (same' : x.compareInt? n = some .eq) : m = n := by
  cases x with
  | nan => cases same
  | infinite s => cases s <;> cases same
  | finite s k e =>
    have positive : ∀ a b, (Binary64.finite s k e).toRatio? = some (a, b) → b ≠ 0 := by
      cases e with
      | ofNat e => rintro a b ⟨⟩; exact Nat.one_ne_zero
      | negSucc e => rintro a b ⟨⟩; exact Nat.ne_of_gt (Nat.two_pow_pos (e + 1))
    simp only [Binary64.compareInt?, Option.map_eq_some_iff, Prod.exists] at same same'
    obtain ⟨a, b, ratio, equal⟩ := same
    obtain ⟨a', b', ratio', equal'⟩ := same'
    obtain ⟨rfl, rfl⟩ := Prod.mk.inj (Option.some.inj (ratio.symm.trans ratio'))
    have product := (Int.compare_eq_eq.mp equal).symm.trans (Int.compare_eq_eq.mp equal')
    exact Int.eq_of_mul_eq_mul_right (Int.natCast_ne_zero.mpr (positive a b ratio)) product

/-- A document is one whole number at most. -/
theorem eq_of_isNumber {d : Document} {m n : Int} (number : d.isNumber m = true)
    (number' : d.isNumber n = true) : m = n := by
  cases d with
  | null | text | list | object => simp [isNumber, agrees] at number
  | bool b =>
    -- Truth values are compared as the numbers that they count as.
    exact (eq_of_beq ((isNumber_integer _ m).symm.trans number)).symm.trans
      (eq_of_beq ((isNumber_integer _ n).symm.trans number'))
  | integer k =>
    rw [isNumber_integer] at number number'
    exact (eq_of_beq number).symm.trans (eq_of_beq number')
  | real x => exact eq_of_compareInt? (eq_of_beq number) (eq_of_beq number')

@[simp] theorem isAtMost_integer (m n : Int) :
    (integer m).isAtMost (integer n) = .ok (decide (m ≤ n)) := by
  change Except.ok (some (compare m n) == some .lt || some (compare m n) == some .eq) = _
  congr 1
  rcases Int.lt_trichotomy m n with less | same | more
  · simp [Int.compare_eq_lt.mpr less, Int.le_of_lt less]
  · simp [same]
  · simp [Int.compare_eq_gt.mpr more, Int.not_le.mpr more]

@[simp] theorem isBelow_integer (m n : Int) :
    (integer m).isBelow (integer n) = .ok (decide (m < n)) := by
  change Except.ok (some (compare m n) == some .lt) = _
  congr 1
  rcases Int.lt_trichotomy m n with less | same | more
  · simp [Int.compare_eq_lt.mpr less, less]
  · simp [same]
  · simp [Int.compare_eq_gt.mpr more, Int.not_lt.mpr (Int.le_of_lt more)]

@[simp] theorem plus_integer (m n : Int) : (integer m).plus (integer n) = .ok (integer (m + n)) :=
  rfl

@[simp] theorem minus_integer (m n : Int) : (integer m).minus (integer n) = .ok (integer (m - n)) :=
  rfl

/-! ## Numbers of any type -/

variable {d : Document}

theorem exists_isAtMost (number : d.numeric?.isSome = true) (n : Int) :
    ∃ b, d.isAtMost (.integer n) = .ok b := by
  cases d with
  | bool | integer | real => exact ⟨_, rfl⟩
  | _ => cases number

/-- Counting on from a number gives a number. -/
theorem exists_calculate_one (exact : Int → Int → Int) (rounded : Binary64 → Binary64 → Binary64)
    (number : d.numeric?.isSome = true) :
    ∃ e, calculate (Numeric.combine exact rounded) d (.integer 1) = .ok e ∧
      e.numeric?.isSome = true := by
  cases d with
  | bool | integer | real => exact ⟨_, rfl, rfl⟩
  | _ => cases number

theorem isSome_numeric?_of_isBelow {e : Document} {b : Bool} (compared : d.isBelow e = .ok b) :
    d.numeric?.isSome = true := by
  cases d with
  | bool | integer | real => rfl
  | _ => cases compared

end RuleBound.Document
