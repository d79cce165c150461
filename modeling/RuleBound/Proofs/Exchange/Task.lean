import RuleBound.Exchange.Access
import RuleBound.Proofs.Sequencing

/-!
What comes of tasks. A task that is started on a session ends with an answer or a fault and leaves
a session: `Task.Ends` says which. Tasks in sequence end as the last of them that was started, and
every primitive of an exchange is described by how it ends and what it leaves of the session.
-/

namespace RuleBound.Task

variable {σ α β : Type} {s s' : Session σ}

/-- Whether a task that is started on a session ends with a result and leaves a session. -/
def Ends (t : Task σ α) (s : Session σ) (r : Except Fault α) (s' : Session σ) : Prop :=
  (t.run.run s).run = (r, s')

/-- A task ends in one way. -/
theorem exists_ends (t : Task σ α) (s : Session σ) : ∃ r s', t.Ends s r s' :=
  ⟨_, _, rfl⟩

theorem Ends.unique {t : Task σ α} {r r' : Except Fault α} {u : Session σ} (ends : t.Ends s r s')
    (ends' : t.Ends s r' u) : r = r' ∧ s' = u :=
  Prod.mk.inj (ends.symm.trans ends')

theorem ends_iff_of_ends {t : Task σ α} {r r' : Except Fault α} {u : Session σ}
    (known : t.Ends s r' u) : t.Ends s r s' ↔ r = r' ∧ s' = u :=
  ⟨fun ends => ends.unique known, fun ⟨result, left⟩ => result ▸ left ▸ known⟩

/-! ## Sequences -/

/-- Two tasks in sequence end as the second if the first answers, else as the first. -/
theorem ends_bind_iff {t : Task σ α} {f : α → Task σ β} {r : Except Fault β} :
    (t >>= f).Ends s r s' ↔
      (∃ a u, t.Ends s (.ok a) u ∧ (f a).Ends u r s') ∨
        ∃ e, t.Ends s (.error e) s' ∧ r = .error e := by
  have run : ((t >>= f).run.run s).run = match (t.run.run s).run with
      | (.ok a, u) => ((f a).run.run u).run
      | (.error e, u) => (.error e, u) := by
    rw [ExceptT.run_bind, StateT.run_bind, Id.run_bind]
    obtain ⟨first, u⟩ := (t.run.run s).run
    cases first <;> rfl
  unfold Ends
  rw [run]
  obtain ⟨first, u⟩ := (t.run.run s).run
  cases first with
  | ok a => simp
  | error e =>
    constructor
    · intro same
      cases same
      exact .inr ⟨e, rfl, rfl⟩
    · rintro (⟨a, u', same, -⟩ | ⟨e', same, rfl⟩)
      · cases same
      · cases same
        rfl

theorem Ends.bind {t : Task σ α} {f : α → Task σ β} {a : α} {u : Session σ} {r : Except Fault β}
    (first : t.Ends s (.ok a) u) (second : (f a).Ends u r s') : (t >>= f).Ends s r s' :=
  ends_bind_iff.mpr (.inl ⟨a, u, first, second⟩)

theorem ends_bind_iff_of_ends {t : Task σ α} {f : α → Task σ β} {a : α} {u : Session σ}
    {r : Except Fault β} (first : t.Ends s (.ok a) u) :
    (t >>= f).Ends s r s' ↔ (f a).Ends u r s' := by
  refine ⟨fun ends => ?_, first.bind⟩
  rcases ends_bind_iff.mp ends with ⟨b, v, other, rest⟩ | ⟨e, failed, -⟩
  · obtain ⟨same, rfl⟩ := first.unique other
    cases same
    exact rest
  · cases (first.unique failed).1

theorem ends_pure_iff {a : α} {r : Except Fault α} :
    (pure a : Task σ α).Ends s r s' ↔ r = .ok a ∧ s' = s :=
  ends_iff_of_ends rfl

theorem ends_throw_iff {f : Fault} {r : Except Fault α} :
    (throw f : Task σ α).Ends s r s' ↔ r = .error f ∧ s' = s :=
  ends_iff_of_ends rfl

theorem ends_throw_bind_iff {f : α → Task σ β} {e : Fault} {r : Except Fault β} :
    (throw e >>= f).Ends s r s' ↔ r = .error e ∧ s' = s :=
  ends_iff_of_ends rfl

theorem ends_get_iff {r : Except Fault (Session σ)} :
    (get : Task σ (Session σ)).Ends s r s' ↔ r = .ok s ∧ s' = s :=
  ends_iff_of_ends rfl

theorem ends_get_bind_iff {f : Session σ → Task σ α} {r : Except Fault α} :
    (get >>= f).Ends s r s' ↔ (f s).Ends s r s' :=
  ends_bind_iff_of_ends (ends_get_iff.mpr ⟨rfl, rfl⟩)

theorem ends_set_iff {u : Session σ} {r : Except Fault PUnit} :
    (set u : Task σ PUnit).Ends s r s' ↔ r = .ok ⟨⟩ ∧ s' = u :=
  ends_iff_of_ends rfl

theorem ends_set_bind_iff {u : Session σ} {f : PUnit → Task σ α} {r : Except Fault α} :
    (set u >>= f).Ends s r s' ↔ (f ⟨⟩).Ends u r s' :=
  ends_bind_iff_of_ends (ends_set_iff.mpr ⟨rfl, rfl⟩)

theorem ends_ofExcept_iff {x r : Except Fault α} :
    (ofExcept x : Task σ α).Ends s r s' ↔ r = x ∧ s' = s := by
  cases x with
  | ok a => exact ends_pure_iff
  | error f => exact ends_throw_iff

theorem ends_ofExcept_bind_iff {x : Except Fault α} {f : α → Task σ β} {r : Except Fault β} :
    (ofExcept x >>= f).Ends s r s' ↔
      (∃ a, x = .ok a ∧ (f a).Ends s r s') ∨ ∃ e, x = .error e ∧ r = .error e ∧ s' = s := by
  cases x with
  | ok a =>
    rw [ends_bind_iff_of_ends (ends_ofExcept_iff.mpr ⟨rfl, rfl⟩)]
    simp
  | error e =>
    rw [ends_bind_iff]
    simp only [ends_ofExcept_iff, reduceCtorEq, false_and, exists_false, false_or,
      Except.error.injEq]
    constructor
    · rintro ⟨_, ⟨rfl, left⟩, result⟩
      exact ⟨_, rfl, result, left⟩
    · rintro ⟨_, rfl, result, left⟩
      exact ⟨_, ⟨rfl, left⟩, result⟩

/-! ## Primitives of an exchange -/

/-- A session with some more notes in its journal. -/
def noted (s : Session σ) (c : Client) (notes : List Note) : Session σ :=
  { s with journal := s.journal ++ notes.map fun n =>
      ⟨n, c.surroundings.now, c.surroundings.correlation⟩ }

theorem ends_note_iff {c : Client} {notes : List Note} {r : Except Fault Unit} :
    (note c notes : Task σ Unit).Ends s r s' ↔ r = .ok () ∧ s' = noted s c notes :=
  ends_iff_of_ends rfl

theorem ends_note_bind_iff {c : Client} {notes : List Note} {t : Task σ α} {r : Except Fault α} :
    (do note c notes; t : Task σ α).Ends s r s' ↔ t.Ends (noted s c notes) r s' :=
  ends_bind_iff_of_ends (ends_note_iff.mpr ⟨rfl, rfl⟩)

theorem ends_correlate_iff {c : Client} {r : Except Fault Document} :
    (correlate c : Task σ Document).Ends s r s' ↔
      r = .ok (c.surroundings.correlate s.draws).1 ∧
      s' = { s with draws := (c.surroundings.correlate s.draws).2 } :=
  ends_iff_of_ends rfl

/-- A request ends as the registry answers it, and leaves the store. -/
theorem ends_request {c : Client} {id action actor : Document} {context : Given Bytes}
    {r : Except Fault Outcome}
    (ends : (request c id action context actor : Task σ Outcome).Ends s r s') :
    s'.store = s.store ∧
      s.registry.request c.surroundings s.draws id action context actor =
        (s'.draws, s'.registry, r) := by
  unfold request at ends
  rw [ends_get_bind_iff] at ends
  generalize s.registry.request c.surroundings s.draws id action context actor = answer at ends ⊢
  obtain ⟨draws, registry, result⟩ := answer
  rw [ends_set_bind_iff, ends_ofExcept_bind_iff] at ends
  rcases ends with ⟨o, rfl, ends⟩ | ⟨f, rfl, rfl, rfl⟩
  · rw [ends_note_bind_iff, ends_pure_iff] at ends
    obtain ⟨rfl, rfl⟩ := ends
    exact ⟨rfl, rfl⟩
  · exact ⟨rfl, rfl⟩

/-- Sealed content is opened, or the task ends in the fault of opening it. -/
theorem ends_openContent {c : Client} {key : ContentKey} {content : Sealed}
    {r : Except Fault Bytes} (ends : (openContent c key content : Task σ Bytes).Ends s r s') :
    r = (key.unseal content).mapError Fault.sealed ∧ s'.registry = s.registry ∧
      s'.store = s.store := by
  unfold openContent at ends
  cases opened : key.unseal content with
  | ok bytes =>
    rw [opened] at ends
    obtain ⟨rfl, rfl⟩ := ends_pure_iff.mp ends
    exact ⟨rfl, rfl, rfl⟩
  | error f =>
    simp only [opened, ends_note_bind_iff] at ends
    obtain ⟨rfl, rfl⟩ := ends_throw_iff.mp ends
    exact ⟨rfl, rfl, rfl⟩

end RuleBound.Task
