import Mathlib.Algebra.Order.Field.Rat
import Mathlib.Algebra.Order.Field.Basic
import Mathlib.Order.Compare
import Mathlib.Order.WithBot
import Mathlib.Tactic.FieldSimp
import RuleBound.Document.Arithmetic

/-!
The order of numbers. Whole numbers and doubles stand on one line, with an infinity at either end, and
are compared by their places on it; only the double that is no number has none.
-/

namespace RuleBound

namespace Binary64

/-- The place of a double on the line of numbers. The double that is no number has none, and counts as
zero. -/
def place : Binary64 → WithBot (WithTop ℚ)
  | .nan => ((0 : ℚ) : WithTop ℚ)
  | .infinite true => ⊥
  | .infinite false => (⊤ : WithTop ℚ)
  | .finite s m e => ((match (finite s m e).toRatio? with
    | some (a, b) => (a : ℚ) / b
    | none => 0 : ℚ) : WithTop ℚ)

/-- A finite double is a quotient by a positive number, and this is its place. -/
theorem exists_ratio (s : Bool) (m : Nat) (e : Int) :
    ∃ (a : Int) (b : Nat), (finite s m e).toRatio? = some (a, b) ∧ 0 < b ∧
      (finite s m e).place = (((a : ℚ) / b : ℚ) : WithTop ℚ) := by
  cases e with
  | ofNat e => exact ⟨_, _, rfl, Nat.one_pos, rfl⟩
  | negSucc e => exact ⟨_, _, rfl, Nat.two_pow_pos _, rfl⟩

private theorem cmp_ratio {a c : Int} {b d : Nat} (hb : 0 < b) (hd : 0 < d) :
    compare (a * d) (c * b) = cmp ((a : ℚ) / b) ((c : ℚ) / d) := by
  have hb' : (0 : ℚ) < b := Nat.cast_pos.mpr hb
  have hd' : (0 : ℚ) < d := Nat.cast_pos.mpr hd
  calc compare (a * (d : Int)) (c * (b : Int))
      = cmp (((a * d : Int) : ℚ)) (((c * b : Int) : ℚ)) := by
        rw [← cmp_eq_compare, (Int.cast_strictMono (R := ℚ)).cmp_map_eq]
    _ = cmp ((a : ℚ) / b * (b * d)) ((c : ℚ) / d * (b * d)) := by
        congr 1
        · push_cast
          field_simp
        · push_cast
          field_simp
    _ = cmp ((a : ℚ) / b) ((c : ℚ) / d) := cmp_mul_pos_right (mul_pos hb' hd') _ _

private theorem cmp_coe (x y : ℚ) :
    cmp ((x : WithTop ℚ) : WithBot (WithTop ℚ)) ((y : WithTop ℚ) : WithBot (WithTop ℚ)) =
      cmp x y :=
  (WithBot.coe_strictMono.comp WithTop.coe_strictMono).cmp_map_eq x y

/-- Doubles are compared by their places. -/
theorem compare?_eq_cmp {x y : Binary64} (hx : x ≠ .nan) (hy : y ≠ .nan) :
    x.compare? y = some (cmp x.place y.place) := by
  cases x with
  | nan => exact absurd rfl hx
  | infinite s =>
    cases y with
    | nan => exact absurd rfl hy
    | infinite t => cases s <;> cases t <;> rfl
    | finite t m e => cases s <;> rfl
  | finite s m e =>
    cases y with
    | nan => exact absurd rfl hy
    | infinite t => cases t <;> rfl
    | finite t k f =>
      obtain ⟨a, b, ratio, hb, place⟩ := exists_ratio s m e
      obtain ⟨c, d, ratio', hd, place'⟩ := exists_ratio t k f
      rw [place, place', cmp_coe, ← cmp_ratio hb hd]
      simp only [compare?, ratio, ratio']

theorem compareInt?_eq_cmp {x : Binary64} (hx : x ≠ .nan) (n : Int) :
    x.compareInt? n = some (cmp x.place ((n : ℚ) : WithTop ℚ)) := by
  cases x with
  | nan => exact absurd rfl hx
  | infinite s => cases s <;> rfl
  | finite s m e =>
    obtain ⟨a, b, ratio, hb, place⟩ := exists_ratio s m e
    have whole := cmp_ratio (a := a) (c := n) hb Nat.one_pos
    rw [Nat.cast_one, Int.mul_one, Nat.cast_one, div_one] at whole
    rw [place, cmp_coe, ← whole]
    simp only [compareInt?, ratio, Option.map_some]

end Binary64

namespace Document.Numeric

/-- Whether a number is one, other than the double that is none. -/
def IsProper (a : Numeric) : Prop := a ≠ .double .nan

/-- The place of a number on the line. -/
def place : Numeric → WithBot (WithTop ℚ)
  | .whole n => ((n : ℚ) : WithTop ℚ)
  | .double x => x.place

/-- Numbers are compared by their places. -/
theorem compare?_eq_cmp {a b : Numeric} (ha : a.IsProper) (hb : b.IsProper) :
    a.compare? b = some (cmp a.place b.place) := by
  cases a with
  | whole m =>
    cases b with
    | whole n =>
      change some (compare m n) = _
      rw [place, place, Binary64.cmp_coe, Int.cast_strictMono.cmp_map_eq, cmp_eq_compare]
    | double y =>
      change (y.compareInt? m).map Ordering.swap = _
      rw [Binary64.compareInt?_eq_cmp (fun is => hb (congrArg _ is)), Option.map_some, cmp_swap]
      rfl
  | double x =>
    cases b with
    | whole n => exact Binary64.compareInt?_eq_cmp (fun is => ha (congrArg _ is)) n
    | double y =>
      exact Binary64.compare?_eq_cmp (fun is => ha (congrArg _ is)) (fun is => hb (congrArg _ is))

theorem compare?_nan_left (b : Numeric) : (double .nan).compare? b = none := by
  cases b <;> rfl

theorem compare?_nan_right (a : Numeric) : a.compare? (double .nan) = none := by
  cases a with
  | whole n => rfl
  | double x => cases x <;> rfl

end Document.Numeric

end RuleBound
