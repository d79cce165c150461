import Mathlib.Logic.Relation
import RuleBound.Retry
import RuleBound.Proofs.Sequencing

/-!
Trying again. Whatever the policy, a run ends with some attempt: it answers as that attempt did, or
it fails because the attempt failed and there is no other one, or because the delay before another
one cannot be told. Before that attempt there were others, each from where the one before had left.
-/

namespace RuleBound.RetryPolicy

variable {σ α : Type} {action : σ → Except Fault α × σ}

/-- Whether some attempts lead from one state to another. -/
def Leads (action : σ → Except Fault α × σ) : σ → σ → Prop :=
  Relation.ReflTransGen fun s s' => s' = (action s).2

/-- Whether the delay before another attempt cannot be told, for a reason. -/
def CannotWait (p : RetryPolicy) (share : Document) (f : Fault) : Prop :=
  ∃ attempt spent, (do
    let delay ← p.delayAfter share (.integer attempt)
    return (delay, ← Document.plus spent delay) : Except Fault (Document × Document)) = .error f

/-- How a run ends whose last attempt has a result. -/
inductive EndsAs (p : RetryPolicy) (share : Document) :
    (attempt run : Except Fault α) → Prop
  | same (r : Except Fault α) : EndsAs p share r r
  | exhausted (f : Fault) : EndsAs p share (.error f) (.error (.exhausted p.maxAttempts f))
  | unwaited (f : Fault) {g : Fault} (cannot : p.CannotWait share g) :
    EndsAs p share (.error f) (.error g)

/-- A run ends with an attempt to which the attempts before it have led. -/
theorem exists_attempt_of_runFrom (p : RetryPolicy) (share : Document)
    (more attempt : Nat) (account : RetryAccount σ) :
    ∃ s, Leads action account.state s ∧
      (p.runFrom share action more attempt account).2.state = (action s).2 ∧
      EndsAs p share (action s).1 (p.runFrom share action more attempt account).1 := by
  induction more generalizing attempt account with
  | zero =>
    refine ⟨account.state, .refl, ?_⟩
    rcases tried : action account.state with ⟨result, state⟩
    unfold runFrom
    cases result with
    | ok a =>
      simp only [tried]
      exact ⟨trivial, .same _⟩
    | error f =>
      simp only [tried]
      split
      · exact ⟨rfl, .same _⟩
      · exact ⟨rfl, .exhausted f⟩
  | succ more ih =>
    rcases tried : action account.state with ⟨result, state⟩
    unfold runFrom
    cases result with
    | ok a =>
      refine ⟨account.state, .refl, ?_⟩
      simp only [tried]
      exact ⟨trivial, .same _⟩
    | error f =>
      simp only [tried]
      split
      · exact ⟨account.state, .refl, by rw [tried], by rw [tried]; exact .same _⟩
      · split
        · next g cannot =>
          exact ⟨account.state, .refl, by rw [tried], by rw [tried]; exact .unwaited f ⟨_, _, cannot⟩⟩
        · obtain ⟨s, leads, left, ends⟩ := ih (attempt + 1) ⟨state, _, _⟩
          exact ⟨s, .head (by rw [tried]) leads, left, ends⟩

/-- A run whose number of attempts is whole ends with an attempt. -/
theorem exists_attempt_of_run (action : σ → Except Fault α × σ) {p : RetryPolicy} {n : Nat}
    (count : p.attemptCount = .ok n)
    (share : Document) (account : RetryAccount σ) :
    ∃ s, Leads action account.state s ∧ (p.run share action account).2.state = (action s).2 ∧
      EndsAs p share (action s).1 (p.run share action account).1 := by
  rw [run, count]
  exact exists_attempt_of_runFrom ..

/-! ## The next attempt -/

section Attempt

variable {p : RetryPolicy} {share : Document} {account left : RetryAccount σ} {s : σ} {f : Fault}
  {run : Except Fault α} {more attempt : Nat}

/-- An attempt that answers is the last. -/
theorem runFrom_of_ok {a : α} (answers : action account.state = (.ok a, s)) :
    p.runFrom share action more attempt account =
      (.ok a, { account with
        state := s
        metrics := { account.metrics with
          attempts := account.metrics.attempts + 1
          succeeded := account.metrics.succeeded + 1 } }) := by
  unfold runFrom
  simp only [answers]

/-- An attempt that fails for a reason that will not pass is the last. -/
theorem runFrom_of_lasting (fails : action account.state = (.error f, s))
    (lasts : p.mayPass f = false) :
    p.runFrom share action more attempt account =
      (.error f, { account with
        state := s
        metrics := { account.metrics with
          attempts := account.metrics.attempts + 1
          failed := account.metrics.failed + 1 } }) := by
  unfold runFrom
  simp only [fails, lasts]
  rfl

/-- A last attempt that fails for a reason that may pass uses up the attempts. -/
theorem runFrom_of_exhausted (fails : action account.state = (.error f, s))
    (passes : p.mayPass f = true) :
    p.runFrom share action 0 attempt account =
      (.error (.exhausted p.maxAttempts f), { account with
        state := s
        metrics := { account.metrics with
          attempts := account.metrics.attempts + 1
          failed := account.metrics.failed + 1
          exhausted := account.metrics.exhausted + 1 } }) := by
  unfold runFrom
  simp only [fails, passes]
  rfl

theorem eq_of_last {r : Except Fault α}
    (ran : p.runFrom share action more attempt account = (run, left))
    (tried : action account.state = (r, s)) (last : ∀ f, r = .error f → p.mayPass f = false) :
    run = r ∧ left.state = s := by
  cases r with
  | ok a =>
    rw [runFrom_of_ok tried] at ran
    cases ran
    exact ⟨rfl, rfl⟩
  | error f =>
    rw [runFrom_of_lasting tried (last f rfl)] at ran
    cases ran
    exact ⟨rfl, rfl⟩

theorem eq_exhausted_of_passing (ran : p.runFrom share action 0 attempt account = (run, left))
    (fails : action account.state = (.error f, s)) (passes : p.mayPass f = true) :
    run = .error (.exhausted p.maxAttempts f) := by
  rw [runFrom_of_exhausted fails passes] at ran
  cases ran
  rfl

/-- After an attempt that fails for a reason that may pass there is another one, if the delay before
it can be told: the run goes on behind a pause. -/
theorem runFrom_of_passing (fails : action account.state = (.error f, s))
    (passes : p.mayPass f = true) {delay total : Document}
    (told : p.delayAfter share (.integer attempt) = .ok delay)
    (waited : account.metrics.delay.plus delay = .ok total) :
    p.runFrom share action (more + 1) attempt account =
      p.runFrom share action more (attempt + 1) {
        state := s
        metrics := { account.metrics with
          attempts := account.metrics.attempts + 1
          failed := account.metrics.failed + 1
          delay := total }
        pauses := account.pauses ++ [⟨attempt, f, delay⟩] } := by
  conv_lhs => unfold runFrom
  simp only [fails, passes, told, waited, ok_bind, Bool.not_true, Bool.false_eq_true, if_false]
  rfl

theorem exists_next_of_passing
    (ran : p.runFrom share action (more + 1) attempt account = (run, left))
    (fails : action account.state = (.error f, s)) (passes : p.mayPass f = true)
    {delay total : Document} (told : p.delayAfter share (.integer attempt) = .ok delay)
    (waited : account.metrics.delay.plus delay = .ok total) :
    ∃ account' : RetryAccount σ, account'.state = s ∧ account'.metrics.delay = total ∧
      p.runFrom share action more (attempt + 1) account' = (run, left) :=
  ⟨_, rfl, rfl, (runFrom_of_passing fails passes told waited).symm.trans ran⟩

end Attempt

/-- A first attempt that answers is the only one. -/
theorem run_of_ok {p : RetryPolicy} {n : Nat} (count : p.attemptCount = .ok n) (share : Document)
    {account : RetryAccount σ} {a : α} {s : σ} (answers : action account.state = (.ok a, s)) :
    (p.run share action account).1 = .ok a ∧ (p.run share action account).2.state = s := by
  rw [run, count]
  exact eq_of_last rfl answers fun f failed => by cases failed

/-- Whether something holds of the states to which attempts lead, if it holds before the first. -/
theorem Leads.keeps {P : σ → Prop} {s s' : σ} (leads : Leads action s s')
    (each : ∀ s, P s → P (action s).2) (start : P s) : P s' := by
  induction leads with
  | refl => exact start
  | tail _ next ih => exact next ▸ each _ ih

end RuleBound.RetryPolicy
