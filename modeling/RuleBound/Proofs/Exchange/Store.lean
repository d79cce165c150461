import RuleBound.Proofs.Exchange.Task
import RuleBound.Proofs.Retry

/-!
Store operations within an exchange. An operation is tried as often as the client's policy says, and
each attempt starts from the store that the one before has left. A task that tries one ends with
one of the attempts, and leaves the registry.
-/

namespace RuleBound

open RetryPolicy (CannotWait)

variable {σ α : Type}

/-- Whether some attempts at a store operation lead from one state of the store to another. -/
def Reply.Leads (operation : σ → Reply σ α) : σ → σ → Prop :=
  Relation.ReflTransGen fun s s' => s' = (operation s).state

/-- Whether something holds of the states to which attempts lead, if it holds before the first. -/
theorem Reply.Leads.keeps {operation : σ → Reply σ α} {P : σ → Prop} {s s' : σ}
    (leads : Reply.Leads operation s s') (each : ∀ s, P s → P (operation s).state) (start : P s) :
    P s' := by
  induction leads with
  | refl => exact start
  | tail _ next ih => exact next ▸ each _ ih

namespace Task

variable {s s' : Session σ} {c : Client} {what : String} {operation : σ → Reply σ α}

/-- How a store operation ends whose last attempt has a result. -/
inductive EndsAs (c : Client) (what : String) : (attempt result : Except Fault α) → Prop
  | same (r : Except Fault α) : EndsAs c what r r
  | exhausted (f : Fault) (attempts : Document) (last : Fault) :
    EndsAs c what (.error f) (.error (.storageExhausted what attempts last))
  | unwaited (f : Fault) {g : Fault} (cannot : c.policy.CannotWait c.share g) :
    EndsAs c what (.error f) (.error g)

/-- One attempt at a store operation, which keeps the notes of all of them. -/
def attemptAt (operation : σ → Reply σ α) (st : σ × List Note) : Except Fault α × (σ × List Note) :=
  ((operation st.1).result, ((operation st.1).state, st.2 ++ (operation st.1).notes))

theorem leads_of_attempts {st st' : σ × List Note}
    (leads : RetryPolicy.Leads (attemptAt operation) st st') :
    Reply.Leads operation st.1 st'.1 :=
  leads.lift Prod.fst fun u u' next => by rw [next]; rfl

/-- A store operation ends as the run of its attempts, but for the fault of having used them up. -/
theorem ends_throughStore_run {r : Except Fault α}
    (ends : (throughStore c what operation).Ends s r s') {run : Except Fault α}
    {account : RetryAccount (σ × List Note)} (tried : c.policy.run c.share (attemptAt operation)
      { state := (s.store, []) } = (run, account)) :
    s'.registry = s.registry ∧ s'.draws = s.draws ∧ s'.store = account.state.1 ∧
      (r = run ∧ (∀ attempts last, run ≠ .error (.exhausted attempts last)) ∨
        ∃ attempts last, run = .error (.exhausted attempts last) ∧
          r = .error (.storageExhausted what attempts last)) := by
  unfold throughStore at ends
  rw [ends_get_bind_iff] at ends
  extract_lets attempt at ends
  change c.policy.run c.share attempt { state := (s.store, []) } = _ at tried
  generalize c.policy.run c.share attempt { state := (s.store, []) } = out at ends tried
  subst tried
  rw [ends_set_bind_iff, ends_note_bind_iff] at ends
  split at ends
  · obtain ⟨rfl, rfl⟩ := ends_pure_iff.mp ends
    exact ⟨rfl, rfl, rfl, .inl ⟨rfl, by simp⟩⟩
  · rw [ends_note_bind_iff] at ends
    obtain ⟨rfl, rfl⟩ := ends_throw_iff.mp ends
    exact ⟨rfl, rfl, rfl, .inr ⟨_, _, rfl, rfl⟩⟩
  · next f other =>
    obtain ⟨rfl, rfl⟩ := ends_throw_iff.mp ends
    exact ⟨rfl, rfl, rfl, .inl ⟨rfl, fun attempts last same => other _ _ (Except.error.inj same)⟩⟩

/-- A store operation ends with an attempt to which the attempts before it have led, and leaves
the registry and what was drawn. Without a whole number of attempts there is none. -/
theorem ends_throughStore {r : Except Fault α}
    (ends : (throughStore c what operation).Ends s r s') :
    s'.registry = s.registry ∧ s'.draws = s.draws ∧
      ((∃ st, Reply.Leads operation s.store st ∧ s'.store = (operation st).state ∧
        EndsAs c what (operation st).result r) ∨
      (s'.store = s.store ∧ ∃ f, c.policy.attemptCount = .error f ∧
        ∃ g, r = .error g ∧ (g = f ∨ ∃ attempts last, g = .storageExhausted what attempts last))) := by
  cases count : c.policy.attemptCount with
  | error f =>
    have none : c.policy.run c.share (attemptAt operation) { state := (s.store, []) } =
        (.error f, { state := (s.store, []) }) := by
      rw [RetryPolicy.run, count]
    obtain ⟨registry, draws, store, ⟨same, -⟩ | ⟨attempts, last, -, spent⟩⟩ :=
      ends_throughStore_run ends none
    · exact ⟨registry, draws, .inr ⟨store, f, rfl, f, same, .inl rfl⟩⟩
    · exact ⟨registry, draws, .inr ⟨store, f, rfl, _, spent, .inr ⟨attempts, last, rfl⟩⟩⟩
  | ok n =>
    obtain ⟨st, leads, after, tried⟩ := RetryPolicy.exists_attempt_of_run
      (attemptAt operation) count c.share { state := (s.store, []) }
    rcases out : c.policy.run c.share (attemptAt operation) { state := (s.store, []) } with
      ⟨run, account⟩
    rw [out] at after tried
    obtain ⟨registry, draws, store, ended⟩ := ends_throughStore_run ends out
    refine ⟨registry, draws, .inl ⟨st.1, leads_of_attempts leads, ?_, ?_⟩⟩
    · rw [store, after]
      rfl
    · change RetryPolicy.EndsAs c.policy c.share (operation st.1).result run at tried
      generalize (operation st.1).result = attempt at tried ⊢
      cases tried with
      | same =>
        rcases ended with ⟨rfl, -⟩ | ⟨attempts, last, rfl, rfl⟩
        · exact .same _
        · exact .exhausted ..
      | exhausted f =>
        rcases ended with ⟨-, other⟩ | ⟨attempts, last, -, rfl⟩
        · exact absurd rfl (other _ _)
        · exact .exhausted ..
      | unwaited f cannot =>
        rcases ended with ⟨rfl, -⟩ | ⟨attempts, last, -, rfl⟩
        · exact .unwaited f cannot
        · exact .exhausted ..

/-- A store operation that is answered at once ends with the answer. -/
theorem ends_throughStore_of_ok {n : Nat} (count : c.policy.attemptCount = .ok n) {a : α}
    (answers : (operation s.store).result = .ok a) {r : Except Fault α}
    (ends : (throughStore c what operation).Ends s r s') :
    r = .ok a ∧ s'.registry = s.registry ∧ s'.store = (operation s.store).state := by
  have tried : attemptAt operation (s.store, ([] : List Note)) =
      (.ok a, ((operation s.store).state, [] ++ (operation s.store).notes)) := by
    unfold attemptAt
    rw [answers]
  obtain ⟨result, left⟩ := @RetryPolicy.run_of_ok _ _ _ _ _ count c.share
    { state := (s.store, []) } _ _ tried
  obtain ⟨registry, -, store, ⟨rfl, -⟩ | ⟨attempts, last, failed, -⟩⟩ :=
    ends_throughStore_run ends (Prod.ext result rfl)
  · exact ⟨rfl, registry, by rw [store, left]⟩
  · cases failed

/-- A store operation that fails at its only attempt fails for that reason, or for having no attempt
left. -/
theorem ends_throughStore_of_error (once : c.policy.attemptCount = .ok 1) {f : Fault}
    (fails : (operation s.store).result = .error f) {r : Except Fault α}
    (ends : (throughStore c what operation).Ends s r s') :
    s'.registry = s.registry ∧
      (r = .error f ∨ ∃ attempts last, r = .error (.storageExhausted what attempts last)) := by
  have tried : (c.policy.run c.share (attemptAt operation) { state := (s.store, []) }).1 = .error f ∨
      (c.policy.run c.share (attemptAt operation) { state := (s.store, []) }).1 =
        .error (.exhausted c.policy.maxAttempts f) := by
    unfold RetryPolicy.run RetryPolicy.runFrom
    rw [once]
    simp only [attemptAt, fails]
    split
    · exact .inl rfl
    · exact .inr rfl
  obtain ⟨registry, -, -, ⟨rfl, lasting⟩ | ⟨attempts, last, -, spent⟩⟩ :=
    ends_throughStore_run ends rfl
  · exact ⟨registry, .inl (tried.resolve_right (lasting _ _))⟩
  · exact ⟨registry, .inr ⟨attempts, last, spent⟩⟩

/-- A store operation that can be answered at once is. -/
theorem exists_ends_throughStore (what : String) (operation : σ → Reply σ α) {n : Nat}
    (count : c.policy.attemptCount = .ok n) {a : α} (answers : (operation s.store).result = .ok a) :
    ∃ u, (throughStore c what operation).Ends s (.ok a) u ∧ u.registry = s.registry ∧
      u.store = (operation s.store).state := by
  obtain ⟨r, u, ends⟩ := exists_ends (throughStore c what operation) s
  obtain ⟨rfl, registry, left⟩ := ends_throughStore_of_ok count answers ends
  exact ⟨u, ends, registry, left⟩

end Task

end RuleBound
