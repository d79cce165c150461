import Mathlib.Algebra.Group.Nat.Defs
import Mathlib.Data.List.Induction
import Mathlib.Data.List.TakeWhile
import Mathlib.Data.Nat.Basic
import RuleBound.Document.Canonical

/-!
Written whole numbers. `Int.repr` and `readNumeral` know nothing of each other; here a number in
decimal digits is shown to be read back, as long as what follows cannot extend the numeral.

The reader takes a leading zero as the whole part, so the digits of a positive number have to be
shown to start with another digit.
-/

namespace RuleBound.Document

/-! ## Digits -/

theorem digitsValue_eq_ofDigitChars (cs : List Char) :
    digitsValue cs = Nat.ofDigitChars 10 cs 0 := by
  unfold digitsValue Nat.ofDigitChars
  congr 1
  funext n c
  rw [Nat.mul_comm]
  rfl

theorem digitsValue_toDigits (n : Nat) : digitsValue (Nat.toDigits 10 n) = n := by
  rw [digitsValue_eq_ofDigitChars, Nat.ofDigitChars_ten_toDigits]

/-- The value of digits has no more digits than they are. -/
theorem digitsValue_lt {cs : List Char} (digits : ∀ c ∈ cs, c.isDigit = true) :
    digitsValue cs < 10 ^ cs.length := by
  induction cs using List.reverseRecOn with
  | nil => decide
  | append_singleton cs c ih =>
    have last : digitsValue (cs ++ [c]) = digitsValue cs * 10 + (c.toNat - 48) := by
      simp [digitsValue]
    have front := ih fun d mem => digits d (List.mem_append_left _ mem)
    have digit : c.toNat ≤ 57 := (Char.isDigit_iff_toNat.mp (digits c (by simp))).2
    rw [last, List.length_append, List.length_singleton, Nat.pow_succ]
    omega

theorem isDigit_of_mem_toDigits {n : Nat} {c : Char} (mem : c ∈ Nat.toDigits 10 n) :
    c.isDigit = true :=
  Nat.isDigit_of_mem_toDigits (by decide) (by decide) mem

/-- The digits of a positive number do not start with a zero. -/
theorem head_toDigits_ne_zero {n : Nat} (pos : 0 < n) :
    ∃ c cs, Nat.toDigits 10 n = c :: cs ∧ c ≠ '0' := by
  induction n using Nat.strongRecOn with
  | _ n ih =>
    by_cases small : n < 10
    · refine ⟨n.digitChar, [], Nat.toDigits_of_lt_base small, ?_⟩
      have nonzero : ∀ k < 10, 0 < k → k.digitChar ≠ '0' := by decide
      exact nonzero n small pos
    · obtain ⟨c, cs, digits, head⟩ := ih (n / 10) (by omega) (by omega)
      refine ⟨c, cs ++ [(n % 10).digitChar], ?_, head⟩
      rw [Nat.toDigits_of_base_le (by decide) (by omega), digits]
      rfl

theorem toList_toString_ofNat (n : Nat) :
    (toString (Int.ofNat n)).toList = Nat.toDigits 10 n := Nat.toList_repr

theorem toList_toString_negSucc (n : Nat) :
    (toString (Int.negSucc n)).toList = '-' :: Nat.toDigits 10 (n + 1) := by
  rw [← Nat.toList_repr]
  exact String.toList_append

theorem toDigits_injective {m n : Nat} (same : Nat.toDigits 10 m = Nat.toDigits 10 n) : m = n := by
  rw [← digitsValue_toDigits m, same, digitsValue_toDigits]

/-- No two whole numbers are written alike. -/
theorem toString_injective {m n : Int} (same : toString m = toString n) : m = n := by
  have sign : ∀ k cs, Nat.toDigits 10 k ≠ '-' :: cs := by
    intro k cs digits
    have digit : '-'.isDigit = true := isDigit_of_mem_toDigits (n := k) (by simp [digits])
    cases digit
  replace same := congrArg String.toList same
  cases m with
  | ofNat m =>
    cases n with
    | ofNat n =>
      rw [toList_toString_ofNat, toList_toString_ofNat] at same
      rw [toDigits_injective same]
    | negSucc n =>
      rw [toList_toString_ofNat, toList_toString_negSucc] at same
      exact absurd same (sign _ _)
  | negSucc m =>
    cases n with
    | ofNat n =>
      rw [toList_toString_ofNat, toList_toString_negSucc] at same
      exact absurd same.symm (sign _ _)
    | negSucc n =>
      rw [toList_toString_negSucc, toList_toString_negSucc] at same
      rw [Nat.succ.inj (toDigits_injective (List.cons.inj same).2)]

/-! ## What may follow a value -/

/-- What follows cannot extend a numeral: it starts with no digit, point or exponent. -/
def EndsNumeral (rest : List Char) : Prop :=
  ∀ c ∈ rest.head?, c.isDigit = false ∧ c ≠ '.' ∧ c ≠ 'e' ∧ c ≠ 'E'

theorem EndsNumeral.nil : EndsNumeral [] := by
  intro c mem
  cases mem

theorem EndsNumeral.cons {c : Char} {rest : List Char} (digit : c.isDigit = false)
    (point : c ≠ '.') (lower : c ≠ 'e') (upper : c ≠ 'E') : EndsNumeral (c :: rest) := by
  intro d mem
  cases mem
  exact ⟨digit, point, lower, upper⟩

theorem takeWhile_isDigit_append {ds rest : List Char} (digits : ∀ c ∈ ds, c.isDigit = true)
    (ends : EndsNumeral rest) : (ds ++ rest).takeWhile Char.isDigit = ds := by
  rw [List.takeWhile_append_of_pos digits]
  cases rest with
  | nil => simp
  | cons c rest =>
    have stop := (ends c rfl).1
    rw [List.takeWhile_cons_of_neg (by simp [stop]), List.append_nil]

theorem readFraction_of_ends {rest : List Char} (ends : EndsNumeral rest) :
    readFraction rest = ([], rest) := by
  unfold readFraction
  split
  · exact absurd rfl (ends _ rfl).2.1
  · rfl

theorem readExponent_of_ends {rest : List Char} (ends : EndsNumeral rest) :
    readExponent rest = (none, rest) := by
  cases rest with
  | nil => rfl
  | cons c rest =>
    obtain ⟨-, -, lower, upper⟩ := ends c rfl
    unfold readExponent
    exact if_neg (by simp [lower, upper])

/-! ## Reading what was written -/

/-- The digits of a number are its whole part, also when that is zero. -/
theorem whole_toDigits_append (n : Nat) {rest : List Char} (ends : EndsNumeral rest) :
    (match Nat.toDigits 10 n ++ rest with
      | '0' :: _ => ['0']
      | _ => (Nat.toDigits 10 n ++ rest).takeWhile Char.isDigit) = Nat.toDigits 10 n := by
  rcases Nat.eq_zero_or_pos n with rfl | pos
  · rw [Nat.toDigits_zero]
    rfl
  · obtain ⟨c, cs, digits, head⟩ := head_toDigits_ne_zero pos
    have all : ∀ d ∈ Nat.toDigits 10 n, d.isDigit = true := fun _ => isDigit_of_mem_toDigits
    have whole := takeWhile_isDigit_append all ends
    rw [digits] at whole ⊢
    split
    · next same => exact absurd (List.cons.inj same).1 head
    · exact whole

/-- A number of digits that the reader allows is read back with its sign. -/
theorem readNumeral_toDigits_append (negative : Bool) {n : Nat} (short : n < 10 ^ numeralLimit)
    {rest : List Char} (ends : EndsNumeral rest) :
    readNumeral .json negative (Nat.toDigits 10 n ++ rest) =
      .ok (.integer (if negative then -(n : Int) else n), rest) := by
  have length : (Nat.toDigits 10 n).length ≤ numeralLimit :=
    (Nat.length_toDigits_le_iff (by decide) (by decide)).mpr short
  unfold readNumeral
  extract_lets whole behind value
  have whole_eq : whole = Nat.toDigits 10 n := whole_toDigits_append n ends
  have behind_eq : behind = rest := by
    change List.drop whole.length _ = rest
    rw [whole_eq, List.drop_left]
  have value_eq : value = n := by
    change ((digitsValue whole : Nat) : Int) = n
    rw [whole_eq, digitsValue_toDigits]
  rw [behind_eq, value_eq, whole_eq]
  simp only [readFraction_of_ends ends, readExponent_of_ends ends]
  rw [if_neg (by simp), if_pos (by simp), if_neg (by omega)]

end RuleBound.Document
