import Mathlib.Algebra.GroupWithZero.Nat
import RuleBound.Proofs.Delay
import RuleBound.Proofs.Retry

/-!
Attempts by script. An operation is known by its outcomes, one for each call. A run calls it until an
outcome does not ask for another attempt, or until the attempts are used up; between two calls there
is one pause. The counts of a policy tell of all runs under it what came of them.
-/

namespace RuleBound.RetryPolicy

variable {α : Type} {p : RetryPolicy} {share : Document} {n : Nat}
  {outcomes : Nat → Except Fault α}

/-! ## Outcomes -/

/-- Whether an outcome asks for another attempt: it is a fault of a family that may pass, and of none
that lasts. -/
inductive AsksAgain (p : RetryPolicy) : Except Fault α → Prop
  | intro {f : Fault} {family : Fault.Family} (passes : family ∈ p.passing)
    (isIn : f.isIn family = true) (lasts : ∀ other ∈ p.lasting, f.isIn other = false) :
    AsksAgain p (.error f)

theorem asksAgain_error_iff {f : Fault} :
    p.AsksAgain (.error f : Except Fault α) ↔ p.mayPass f = true := by
  unfold mayPass
  rw [Bool.and_eq_true, Bool.not_eq_true', List.any_eq_false, List.any_eq_true]
  constructor
  · rintro ⟨passes, isIn, lasts⟩
    exact ⟨fun other mem => Bool.eq_false_iff.mp (lasts other mem), _, passes, isIn⟩
  · rintro ⟨lasts, family, passes, isIn⟩
    exact ⟨passes, isIn, fun other mem => Bool.eq_false_iff.mpr (lasts other mem)⟩

theorem AsksAgain.exists_fault {r : Except Fault α} (asks : p.AsksAgain r) :
    ∃ f, r = .error f ∧ p.mayPass f = true := by
  cases r with
  | ok a => cases asks
  | error f => exact ⟨f, rfl, asksAgain_error_iff.mp asks⟩

instance (p : RetryPolicy) : (r : Except Fault α) → Decidable (p.AsksAgain r)
  | .ok _ => .isFalse nofun
  | .error _ => decidable_of_iff _ asksAgain_error_iff.symm

/-- An operation with the outcomes of a script. Its state counts the calls. -/
def scripted (outcomes : Nat → Except Fault α) (calls : Nat) : Except Fault α × Nat :=
  (outcomes calls, calls + 1)

/-- Whether a script uses up so many attempts. -/
def UsesUp (p : RetryPolicy) (n : Nat) (outcomes : Nat → Except Fault α) : Prop :=
  ∀ i < n, p.AsksAgain (outcomes i)

instance : Decidable (p.UsesUp n outcomes) :=
  inferInstanceAs (Decidable (∀ i < n, p.AsksAgain (outcomes i)))

/-! ## One run -/

/-- Whether there was one pause after each of the first calls of a script, in order, with the number of
the call, the fault that it ended with and the delay that belongs to it. -/
structure HasWaited (p : RetryPolicy) (share : Document) (outcomes : Nat → Except Fault α)
    (count : Nat) (pauses : List Pause) : Prop where
  length : pauses.length = count
  each : ∀ i pause, pauses[i]? = some pause → pause.attempt = i + 1 ∧
    outcomes i = .error pause.fault ∧
    p.delayAfter share (.integer pause.attempt) = .ok pause.delay

/-- Whether counts have gone up by so many calls, so many runs that returned and so many that used up
their attempts. -/
structure AddsUp (before after : RetryMetrics) (calls returned usedUp : Nat) : Prop where
  attempts : after.attempts = before.attempts + calls
  succeeded : after.succeeded = before.succeeded + returned
  failed : after.failed + returned = before.failed + calls
  exhausted : after.exhausted = before.exhausted + usedUp
  delay : ∃ x, after.delay = .real x

theorem AddsUp.trans {a b c : RetryMetrics} {calls calls' returned returned' usedUp usedUp' : Nat}
    (first : AddsUp a b calls returned usedUp) (next : AddsUp b c calls' returned' usedUp') :
    AddsUp a c (calls + calls') (returned + returned') (usedUp + usedUp') where
  attempts := by rw [next.attempts, first.attempts, Nat.add_assoc]
  succeeded := by rw [next.succeeded, first.succeeded, Nat.add_assoc]
  failed := by
    have earlier := first.failed
    have later := next.failed
    omega
  exhausted := by rw [next.exhausted, first.exhausted, Nat.add_assoc]
  delay := next.delay

/-- Whether a run is under way: all its calls so far have asked for another one. -/
structure IsUnderWay (p : RetryPolicy) (share : Document) (outcomes : Nat → Except Fault α)
    (before : RetryMetrics) (account : RetryAccount Nat) : Prop where
  asked : p.UsesUp account.state outcomes
  waited : p.HasWaited share outcomes account.state account.pauses
  counted : AddsUp before account.metrics account.state 0 0

theorem UsesUp.succ {i : Nat} (before : p.UsesUp i outcomes) (asks : p.AsksAgain (outcomes i)) :
    p.UsesUp (i + 1) outcomes := by
  intro j below
  rcases Nat.lt_succ_iff_lt_or_eq.mp below with earlier | rfl
  · exact before j earlier
  · exact asks

theorem HasWaited.snoc {count : Nat} {pauses : List Pause}
    (waited : p.HasWaited share outcomes count pauses) {f : Fault} {delay : Document}
    (fails : outcomes count = .error f)
    (told : p.delayAfter share (.integer (count + 1 : Nat)) = .ok delay) :
    p.HasWaited share outcomes (count + 1) (pauses ++ [⟨count + 1, f, delay⟩]) where
  length := by rw [List.length_append, waited.length, List.length_singleton]
  each i pause found := by
    rcases lt_or_ge i pauses.length with before | behind
    · rw [List.getElem?_append_left before] at found
      exact waited.each i pause found
    · rw [List.getElem?_append_right behind, List.getElem?_singleton] at found
      split at found
      · next last =>
        cases found
        obtain rfl : i = count := by
          rw [waited.length] at last behind
          omega
        exact ⟨rfl, fails, told⟩
      · cases found

variable {before : RetryMetrics} {account : RetryAccount Nat} {more : Nat}

/-- A call that asks for another one is followed by it, if the delay between them can be told. -/
theorem IsUnderWay.exists_next (under : p.IsUnderWay share outcomes before account) (more : Nat)
    (asks : p.AsksAgain (outcomes account.state))
    (tells : p.TellsDelay share (account.state + 1)) :
    ∃ account', account'.state = account.state + 1 ∧ p.IsUnderWay share outcomes before account' ∧
      p.runFrom share (scripted outcomes) (more + 1) (account.state + 1) account =
        p.runFrom share (scripted outcomes) more (account.state + 1 + 1) account' := by
  obtain ⟨f, outcome, passes⟩ := asks.exists_fault
  obtain ⟨delay, told, measurable⟩ := tells
  obtain ⟨attempts, succeeded, failed, exhausted, spent, is⟩ := under.counted
  obtain ⟨total, waited⟩ := measurable.exists_plus_real spent
  rw [← is] at waited
  have tried : scripted outcomes account.state = (.error f, account.state + 1) :=
    congrArg (·, account.state + 1) outcome
  refine ⟨_, rfl, ⟨under.asked.succ asks, under.waited.snoc outcome told, ?_⟩,
    runFrom_of_passing tried passes told waited⟩
  exact ⟨congrArg (· + 1) attempts, succeeded, congrArg (· + 1) failed, exhausted, total, rfl⟩

/-- The runs of operations under a policy, one after the other: what each ends with and leaves, and the
counts in the end. -/
def runs (p : RetryPolicy) (share : Document) (metrics : RetryMetrics) :
    List (Nat → Except Fault α) → List (Except Fault α × RetryAccount Nat) × RetryMetrics
  | [] => ([], metrics)
  | outcomes :: scripts =>
    let ran := p.run share (scripted outcomes) { state := 0, metrics }
    let later := p.runs share ran.2.metrics scripts
    (ran :: later.1, later.2)

end RuleBound.RetryPolicy
