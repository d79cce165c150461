import Mathlib.Data.List.Basic
import RuleBound.Fault

/-!
Operations in sequence. One that answers has answered at each of its stages, and one that applies
an operation to every item of a list answers with the answers in order.
-/

namespace RuleBound

variable {ε α β : Type}

theorem bind_eq_ok_iff {x : Except ε α} {f : α → Except ε β} {b : β} :
    (x >>= f) = .ok b ↔ ∃ a, x = .ok a ∧ f a = .ok b := by
  cases x with
  | error e => simp [bind, Except.bind]
  | ok a => simp [bind, Except.bind]

theorem bind_eq_error_iff {x : Except ε α} {f : α → Except ε β} {e : ε} :
    (x >>= f) = .error e ↔ x = .error e ∨ ∃ a, x = .ok a ∧ f a = .error e := by
  cases x with
  | error e => simp [bind, Except.bind]
  | ok a => simp [bind, Except.bind]

theorem map_eq_ok_iff {x : Except ε α} {f : α → β} {b : β} :
    x.map f = .ok b ↔ ∃ a, x = .ok a ∧ f a = b := by
  cases x with
  | error e => simp [Except.map]
  | ok a => simp [Except.map]

theorem map_eq_error_iff {x : Except ε α} {f : α → β} {e : ε} :
    x.map f = .error e ↔ x = .error e := by
  cases x with
  | ok a => simp [Except.map]
  | error e => simp [Except.map]

@[simp] theorem ok_bind (a : α) (f : α → Except ε β) : (Except.ok a >>= f) = f a := rfl

@[simp] theorem error_bind (e : ε) (f : α → Except ε β) : (Except.error e >>= f) = .error e := rfl

theorem isOk_eq_true_iff {x : Except ε α} : x.isOk = true ↔ ∃ a, x = .ok a := by
  cases x with
  | error e => simp [Except.isOk, Except.toBool]
  | ok a => simp [Except.isOk, Except.toBool]

/-- Items that are all answered for are answered for together. -/
theorem mapM_eq_ok_map {f : α → Except ε β} {g : α → β} {items : List α}
    (each : ∀ a ∈ items, f a = .ok (g a)) : items.mapM f = .ok (items.map g) := by
  induction items with
  | nil => rfl
  | cons a items ih =>
    rw [List.forall_mem_cons] at each
    rw [List.mapM_cons, each.1, ih each.2]
    rfl

/-- What items are answered for with is the answer for one of them. -/
theorem exists_of_mem_mapM {f : α → Except ε β} {items : List α} {answers : List β}
    (ran : items.mapM f = .ok answers) {b : β} (mem : b ∈ answers) : ∃ a ∈ items, f a = .ok b := by
  induction items generalizing answers with
  | nil =>
    cases ran
    cases mem
  | cons a items ih =>
    rw [List.mapM_cons] at ran
    obtain ⟨c, first, ran⟩ := bind_eq_ok_iff.mp ran
    obtain ⟨cs, rest, ran⟩ := bind_eq_ok_iff.mp ran
    cases ran
    rcases List.mem_cons.mp mem with rfl | mem
    · exact ⟨a, List.mem_cons_self, first⟩
    · obtain ⟨a', mem', answers⟩ := ih rest mem
      exact ⟨a', List.mem_cons_of_mem a mem', answers⟩

end RuleBound
