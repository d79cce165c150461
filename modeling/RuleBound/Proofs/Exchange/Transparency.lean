import RuleBound.Proofs.Delay
import RuleBound.Proofs.Exchange.Atomicity
import RuleBound.Proofs.Exchange.Lockstep

/-!
Retries are transparent. A flaky store is one whose calls may fail before they are made, as a script
says. If no operation is given up for that, an exchange over the flaky store ends as it does over
the store itself: with the same answer, and in a session with the same registry, the same draws and
the same contents of the store.

Both runs go in lockstep. An attempt that the script makes fail is one that only the flaky run
makes: it leaves the store, and since the delay after it can be told, the next attempt is made in
its place.
-/

namespace RuleBound

variable {σ α β : Type}

/-! ## Flaky stores -/

/-- What becomes of the calls of a store: each of the next ones fails with a fault, or is made;
those after the last entry are made. -/
abbrev Script := List (Option Fault)

/-- Whether an operation does what another one does, or fails before that and takes a fault off the
script. -/
def Reply.IsDisturbed (operation' : σ × Script → Reply (σ × Script) α)
    (operation : σ → Reply σ α) : Prop :=
  ∀ st script,
    (∃ f rest, script = some f :: rest ∧ (operation' (st, script)).result = .error f ∧
      (operation' (st, script)).state = (st, rest)) ∨
    ((operation' (st, script)).result = (operation st).result ∧
      (operation' (st, script)).state.1 = (operation st).state ∧
      (operation' (st, script)).state.2 <:+ script)

namespace ContentStore

variable (store : ContentStore σ)

end ContentStore

/-! ## Runs of attempts -/

/-- Whether all faults of a script may pass. -/
def Script.IsPassing (script : Script) (p : RetryPolicy) : Prop :=
  ∀ f, some f ∈ script → p.mayPass f = true

/-- Whether a script has fewer than so many faults in a row. -/
def Script.IsSparse (script : Script) (n : Nat) : Prop :=
  ∀ faults : List Fault, faults.map some <:+: script → faults.length < n

theorem Script.IsPassing.suffix {script script' : Script} {p : RetryPolicy}
    (passing : script.IsPassing p) (suffix : script' <:+ script) : script'.IsPassing p :=
  fun f mem => passing f (suffix.subset mem)

theorem Script.IsSparse.suffix {script script' : Script} {n : Nat} (sparse : script.IsSparse n)
    (suffix : script' <:+ script) : script'.IsSparse n :=
  fun faults within => sparse faults (within.trans suffix.isInfix)

/-- A disturbed attempt fails with the next fault of the script, or does what the attempt does. -/
theorem Reply.IsDisturbed.attempt {operation' : σ × Script → Reply (σ × Script) α}
    {operation : σ → Reply σ α} (disturbed : Reply.IsDisturbed operation' operation)
    (s' : (σ × Script) × List Note) {s : σ × List Note} (same : s'.1.1 = s.1) :
    (∃ f rest notes, s'.1.2 = some f :: rest ∧
      Task.attemptAt operation' s' = (.error f, ((s.1, rest), notes))) ∨
    ∃ r st script notes' notes, script <:+ s'.1.2 ∧
      Task.attemptAt operation' s' = (r, ((st, script), notes')) ∧
      Task.attemptAt operation s = (r, (st, notes)) := by
  obtain ⟨⟨st, script⟩, notes'⟩ := s'
  obtain ⟨st, notes⟩ := s
  cases same
  rcases disturbed st script with ⟨f, rest, given, result, state⟩ | ⟨result, state, suffix⟩
  · refine .inl ⟨f, rest, notes' ++ (operation' (st, script)).notes, given, ?_⟩
    unfold Task.attemptAt
    rw [result, state]
  · refine .inr ⟨(operation st).result, (operation st).state, (operation' (st, script)).state.2,
      notes' ++ (operation' (st, script)).notes, notes ++ (operation st).notes, suffix, ?_, rfl⟩
    unfold Task.attemptAt
    rw [result, ← state]

namespace RetryPolicy

variable {p : RetryPolicy} {share : Document} (measured : p.IsMeasured share)

include measured

/-- After one of the first attempts that fails for a reason that may pass there is another one. -/
theorem IsMeasured.exists_next {action : σ → Except Fault α × σ} {account left : RetryAccount σ}
    {run : Except Fault α} {more attempt : Nat}
    (ran : p.runFrom share action (more + 1) attempt account = (run, left)) {spent : Binary64}
    (waited : account.metrics.delay = .real spent) {f : Fault} {st : σ}
    (fails : action account.state = (.error f, st)) (passes : p.mayPass f = true)
    (first : 1 ≤ attempt) (bound : attempt + (more + 1) ≤ 1000) :
    ∃ (account' : RetryAccount σ) (total : Binary64), account'.state = st ∧
      account'.metrics.delay = .real total ∧
      p.runFrom share action more (attempt + 1) account' = (run, left) := by
  obtain ⟨delay, total, told, sum⟩ := measured.exists_delay first (by omega) spent
  obtain ⟨account', left, waited, again⟩ :=
    exists_next_of_passing ran fails passes told (by rw [waited, sum])
  exact ⟨account', total, left, waited, again⟩

variable {operation' : σ × Script → Reply (σ × Script) α} {operation : σ → Reply σ α}
  (disturbed : Reply.IsDisturbed operation' operation)

include disturbed

/-- A run of disturbed attempts has used up its attempts, or it ends as the run of the attempts
themselves, which may have more of them. -/
theorem runFrom_of_isDisturbed {more' more attempt' attempt : Nat} (le : more' ≤ more)
    (first' : 1 ≤ attempt') (bound' : attempt' + more' ≤ 1000) (first : 1 ≤ attempt)
    (bound : attempt + more ≤ 1000) {account' : RetryAccount ((σ × Script) × List Note)}
    {account : RetryAccount (σ × List Note)} (same : account'.state.1.1 = account.state.1)
    {spent' spent : Binary64} (waited' : account'.metrics.delay = .real spent')
    (waited : account.metrics.delay = .real spent) (passing : account'.state.1.2.IsPassing p)
    {run' run : Except Fault α} {left' : RetryAccount ((σ × Script) × List Note)}
    {left : RetryAccount (σ × List Note)}
    (ran' : p.runFrom share (Task.attemptAt operation') more' attempt' account' = (run', left'))
    (ran : p.runFrom share (Task.attemptAt operation) more attempt account = (run, left)) :
    (∃ attempts last, run' = .error (.exhausted attempts last)) ∨
      run' = run ∧ left'.state.1.1 = left.state.1 ∧ left'.state.1.2 <:+ account'.state.1.2 := by
  induction more' using Nat.strong_induction_on
    generalizing more attempt' attempt account' account spent' spent with
  | _ more' ih =>
  rcases disturbed.attempt account'.state same with
    ⟨f, rest, notes, given, fails'⟩ | ⟨r, st, script, notes', notes, suffix, tried', tried⟩
  · -- only the disturbed run makes this attempt
    have passes := passing f (given ▸ List.mem_cons_self)
    have shorter : rest <:+ account'.state.1.2 := given ▸ List.suffix_cons (some f) rest
    cases more' with
    | zero => exact .inl ⟨_, _, eq_exhausted_of_passing ran' fails' passes⟩
    | succ more' =>
      obtain ⟨next', total', state', waited', ran'⟩ :=
        measured.exists_next ran' waited' fails' passes first' bound'
      rcases ih more' (by omega) (by omega) (by omega) (by omega) first bound (by rw [state'])
        waited' waited (by rw [state']; exact passing.suffix shorter) ran' ran with
        spent | ⟨result, store, suffix⟩
      · exact .inl spent
      · rw [state'] at suffix
        exact .inr ⟨result, store, suffix.trans shorter⟩
  by_cases last : ∀ f, r = .error f → p.mayPass f = false
  · obtain ⟨rfl, state'⟩ := eq_of_last ran' tried' last
    obtain ⟨rfl, state⟩ := eq_of_last ran tried last
    exact .inr ⟨rfl, by rw [state', state], by rwa [state']⟩
  simp only [not_forall, Bool.not_eq_false] at last
  obtain ⟨f, rfl, passes⟩ := last
  cases more' with
  | zero => exact .inl ⟨_, _, eq_exhausted_of_passing ran' tried' passes⟩
  | succ more' =>
    obtain ⟨more, rfl⟩ : ∃ m, more = m + 1 := ⟨more - 1, by omega⟩
    obtain ⟨next', total', state', waited', ran'⟩ :=
      measured.exists_next ran' waited' tried' passes first' bound'
    obtain ⟨next, total, state, waited, ran⟩ :=
      measured.exists_next ran waited tried passes first bound
    rcases ih more' (by omega) (by omega) (by omega) (by omega) (by omega) (by omega)
      (by rw [state', state]) waited' waited (by rw [state']; exact passing.suffix suffix) ran' ran
      with spent | ⟨result, store, suffix'⟩
    · exact .inl spent
    · rw [state'] at suffix'
      exact .inr ⟨result, store, suffix'.trans suffix⟩

end RetryPolicy

/-! ## Sessions over a flaky store -/

/-- Whether a session over a flaky store echoes one over the store itself, with a script that still
has some property. -/
structure Session.Echoes (P : Script → Prop) (s' : Session (σ × Script)) (s : Session σ) :
    Prop where
  registry : s'.registry = s.registry
  store : s'.store.1 = s.store
  draws : s'.draws = s.draws
  script : P s'.store.2

/-- The fault of an operation that failed at every attempt. -/
def Fault.IsGivenUp (f : Fault) : Prop :=
  ∃ what attempts last, f = .storageExhausted what attempts last

/-- The policy that tries everything once. -/
def RetryPolicy.once (p : RetryPolicy) : RetryPolicy := { p with maxAttempts := .integer 1 }

section Follows

variable {c : Client} {n : Nat} (count : c.policy.attemptCount = .ok n) (few : n ≤ 1000)
  (measured : c.policy.IsMeasured c.share)
  {operation' : σ × Script → Reply (σ × Script) α} {operation : σ → Reply σ α}
  (disturbed : Reply.IsDisturbed operation' operation)

include count few measured disturbed

/-- A disturbed operation follows the operation, unless it is given up. -/
theorem Reply.IsDisturbed.follows :
    Reply.Follows (Session.Echoes (Script.IsPassing · c.policy)) Fault.IsGivenUp c.policy c
      operation' operation := by
  intro correlation what s' s tied r u' ends'
  change Task.Ends (Task.throughStore (c.within correlation) what operation') s' r u' at ends'
  obtain ⟨r', u, ends⟩ :=
    Task.exists_ends (Task.throughStore (c.within correlation) what operation) s
  rcases ran' : c.policy.run c.share (Task.attemptAt operation') { state := (s'.store, []) } with
    ⟨run', left'⟩
  rcases ran : c.policy.run c.share (Task.attemptAt operation) { state := (s.store, []) } with
    ⟨run, left⟩
  obtain ⟨registry', draws', store', result'⟩ := Task.ends_throughStore_run ends' ran'
  obtain ⟨registry, draws, store, result⟩ := Task.ends_throughStore_run ends ran
  rw [RetryPolicy.run, count] at ran' ran
  rcases result' with ⟨rfl, lasting⟩ | ⟨attempts, last, -, rfl⟩
  · rcases RetryPolicy.runFrom_of_isDisturbed measured disturbed (Nat.le_refl _) (Nat.le_refl _)
      (by omega) (Nat.le_refl _) (by omega) tied.store rfl rfl tied.script ran' ran with
      ⟨attempts, last, spent⟩ | ⟨rfl, same, suffix⟩
    · exact absurd spent (lasting _ _)
    · rcases result with ⟨rfl, -⟩ | ⟨attempts, last, spent, -⟩
      · refine .inr ⟨u, ends, ?_, ?_, ?_, ?_⟩
        · rw [registry', registry, tied.registry]
        · rw [store', store, same]
        · rw [draws', draws, tied.draws]
        · rw [store']
          exact tied.script.suffix suffix
      · exact absurd spent (lasting _ _)
  · exact .inl ⟨_, rfl, what, attempts, last, rfl⟩

end Follows

namespace ContentStore

variable (store : ContentStore σ) {c : Client} {n : Nat} (count : c.policy.attemptCount = .ok n)
  (few : n ≤ 1000) (measured : c.policy.IsMeasured c.share)

include count few measured

end ContentStore

/-! ## Exchanges over a flaky store -/

/-- Whether a result is not that an operation was given up. -/
def IsKept (r : Except Fault α) : Prop := ∀ f, r = .error f → ¬ f.IsGivenUp

namespace Client

end Client

open Rehearsal

end RuleBound
