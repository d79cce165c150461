import RuleBound.Exchange.Create
import RuleBound.Proofs.Exchange.Store

/-!
What tasks leave alone. Most steps of an exchange touch neither the registry nor, after the last
call on it, what was drawn. So a whole exchange touches the registry by one call at most: an object
that was created is one mint, and an access that was answered is one request, whatever the store did
meanwhile and however often it was tried.
-/

namespace RuleBound

variable {σ α β : Type}

namespace Task

/-! ## Tasks that leave the registry -/

/-- Whether a task leaves the registry, however it ends. -/
def IsAside (t : Task σ α) : Prop :=
  ∀ s r s', t.Ends s r s' → s'.registry = s.registry

/-- Whether a task leaves the registry and draws nothing, however it ends. -/
def IsStill (t : Task σ α) : Prop :=
  ∀ s r s', t.Ends s r s' → s'.registry = s.registry ∧ s'.draws = s.draws

theorem IsStill.isAside {t : Task σ α} (still : t.IsStill) : t.IsAside :=
  fun s r s' ends => (still s r s' ends).1

theorem IsAside.bind {t : Task σ α} {f : α → Task σ β} (first : t.IsAside)
    (rest : ∀ a, (f a).IsAside) : (t >>= f).IsAside := by
  intro s r s' ends
  rcases ends_bind_iff.mp ends with ⟨a, u, answers, ends⟩ | ⟨e, fails, -⟩
  · exact (rest a u r s' ends).trans (first s _ u answers)
  · exact first s _ s' fails

theorem IsStill.bind {t : Task σ α} {f : α → Task σ β} (first : t.IsStill)
    (rest : ∀ a, (f a).IsStill) : (t >>= f).IsStill := by
  intro s r s' ends
  rcases ends_bind_iff.mp ends with ⟨a, u, answers, ends⟩ | ⟨e, fails, -⟩
  · obtain ⟨registry, draws⟩ := first s _ u answers
    obtain ⟨registry', draws'⟩ := rest a u r s' ends
    exact ⟨registry'.trans registry, draws'.trans draws⟩
  · exact first s _ s' fails

theorem isStill_pure (a : α) : (pure a : Task σ α).IsStill := by
  intro s r s' ends
  obtain ⟨-, rfl⟩ := ends_pure_iff.mp ends
  exact ⟨rfl, rfl⟩

theorem isStill_get : (get : Task σ (Session σ)).IsStill := by
  intro s r s' ends
  obtain ⟨-, rfl⟩ := ends_get_iff.mp ends
  exact ⟨rfl, rfl⟩

theorem isStill_throw (f : Fault) : (throw f : Task σ α).IsStill := by
  intro s r s' ends
  obtain ⟨-, rfl⟩ := ends_throw_iff.mp ends
  exact ⟨rfl, rfl⟩

theorem isStill_ofExcept (x : Except Fault α) : (ofExcept x : Task σ α).IsStill := by
  cases x with
  | ok a => exact isStill_pure a
  | error f => exact isStill_throw f

theorem isStill_note (c : Client) (notes : List Note) : (note c notes : Task σ Unit).IsStill := by
  intro s r s' ends
  obtain ⟨-, rfl⟩ := ends_note_iff.mp ends
  exact ⟨rfl, rfl⟩

theorem isStill_throughStore (c : Client) (what : String) (operation : σ → Reply σ α) :
    (throughStore c what operation).IsStill := by
  intro s r s' ends
  obtain ⟨registry, draws, -⟩ := ends_throughStore ends
  exact ⟨registry, draws⟩

theorem isStill_openContent (c : Client) (key : ContentKey) (content : Sealed) :
    (openContent c key content : Task σ Bytes).IsStill := by
  unfold openContent
  cases key.unseal content with
  | ok bytes => exact isStill_pure bytes
  | error f => exact (isStill_note c _).bind fun _ => isStill_throw _

/-- What is drawn for a task that only draws and notes leaves the registry. -/
theorem isAside_get_set {f : Session σ → PUnit → Task σ α} {draws : Session σ → Draws}
    (rest : ∀ s u, (f s u).IsAside) :
    (do let s ← get
        let u ← set { s with draws := draws s }
        f s u : Task σ α).IsAside := by
  intro s r s' ends
  rw [ends_get_bind_iff, ends_set_bind_iff] at ends
  exact (rest s ⟨⟩ _ r s' ends :)

theorem isAside_correlate (c : Client) : (correlate c : Task σ Document).IsAside :=
  isAside_get_set fun _ _ => (isStill_pure _).isAside

theorem isAside_drawKey (c : Client) : (drawKey c : Task σ ContentKey).IsAside :=
  isAside_get_set fun _ _ => ((isStill_note c _).bind fun _ => isStill_pure _).isAside

theorem isAside_drawNonce (c : Client) : (drawNonce c : Task σ Bytes).IsAside :=
  isAside_get_set fun _ _ => (isStill_pure _).isAside

theorem isAside_sealContent (c : Client) (key : ContentKey) (content : FileContent) :
    (sealContent c key content : Task σ (Bytes × String)).IsAside := by
  unfold sealContent
  extract_lets seal'
  have sealed : ∀ content, (seal' content).IsAside := by
    intro content
    apply (isAside_drawNonce c).bind
    intro nonce
    cases content with
    | bytes content => exact ((isStill_note c _).bind fun _ => isStill_pure _).isAside
    | other d => exact (isStill_throw _).isAside
  split
  · exact (isStill_ofExcept _).isAside.bind sealed
  · exact (isStill_pure _).isAside.bind sealed

/-! ## Tasks that call the registry -/

/-- Whether a task calls the registry once, as a relation between what was there before and what is
left says, or fails before that. -/
def Calls (C : Registry → Draws → Registry → Prop) (t : Task σ α) : Prop :=
  ∀ s r s', t.Ends s r s' →
    C s.registry s'.draws s'.registry ∨ (∃ f, r = .error f) ∧ s'.registry = s.registry

variable {C : Registry → Draws → Registry → Prop}

/-- A task that leaves the registry may come before the call. -/
theorem IsAside.bind_calls {t : Task σ α} {f : α → Task σ β} (first : t.IsAside)
    (rest : ∀ a, (f a).Calls C) : (t >>= f).Calls C := by
  intro s r s' ends
  rcases ends_bind_iff.mp ends with ⟨a, u, answers, ends⟩ | ⟨e, fails, rfl⟩
  · have same := first s _ u answers
    have called := rest a u r s' ends
    rwa [same] at called
  · exact .inr ⟨⟨e, rfl⟩, first s _ s' fails⟩

/-- A task that leaves the registry and draws nothing may come after the call. -/
theorem Calls.bind {t : Task σ α} {f : α → Task σ β} (first : t.Calls C)
    (rest : ∀ a, (f a).IsStill) : (t >>= f).Calls C := by
  intro s r s' ends
  rcases ends_bind_iff.mp ends with ⟨a, u, answers, ends⟩ | ⟨e, fails, rfl⟩
  · rcases first s _ u answers with called | ⟨⟨e, failed⟩, -⟩
    · obtain ⟨registry, draws⟩ := rest a u r s' ends
      rw [registry, draws]
      exact .inl called
    · cases failed
  · rcases first s _ s' fails with called | ⟨-, same⟩
    · exact .inl called
    · exact .inr ⟨⟨e, rfl⟩, same⟩

end Task

namespace Registry

end Registry

namespace Task

variable {c : Client}

/-- Minting ends as the registry answers, and leaves the store. -/
theorem ends_mint {m : MintRequest} {kind : ObjectKind} {s s' : Session σ} {r : Except Fault Int}
    (ends : (mint c m kind : Task σ Int).Ends s r s') :
    s'.store = s.store ∧ ∃ answer, s.registry.create c.surroundings s.draws m =
      (s'.draws, s'.registry, answer) ∧ r = answer.map Prod.fst := by
  unfold mint at ends
  rw [ends_get_bind_iff] at ends
  generalize s.registry.create c.surroundings s.draws m = created at ends ⊢
  obtain ⟨draws, registry, answer⟩ := created
  rw [ends_set_bind_iff, ends_ofExcept_bind_iff] at ends
  rcases ends with ⟨⟨id, event⟩, rfl, ends⟩ | ⟨f, rfl, rfl, rfl⟩
  · dsimp only at ends
    rw [ends_note_bind_iff, ends_pure_iff] at ends
    obtain ⟨rfl, rfl⟩ := ends
    exact ⟨rfl, _, rfl, rfl⟩
  · exact ⟨rfl, _, rfl, rfl⟩

/-- Minting calls the registry as its answer says. -/
theorem calls_mint {m : MintRequest} (kind : ObjectKind)
    (created : ∀ reg draws, C reg (reg.create c.surroundings draws m).1
      (reg.create c.surroundings draws m).2.1) : (mint c m kind : Task σ Int).Calls C := by
  intro s r s' ends
  obtain ⟨-, answer, same, -⟩ := ends_mint ends
  have called := created s.registry s.draws
  rw [same] at called
  exact .inl called

/-- A request calls the registry as its answer says. -/
theorem calls_request {id action : Document} {context : Given Bytes} {actor : Document}
    (requested : ∀ reg draws, C reg (reg.request c.surroundings draws id action context actor).1
      (reg.request c.surroundings draws id action context actor).2.1) :
    (request c id action context actor : Task σ Outcome).Calls C := by
  intro s r s' ends
  obtain ⟨-, same⟩ := ends_request ends
  have called := requested s.registry s.draws
  rw [same] at called
  exact .inl called

/-- What is known may decide how the registry is called. -/
theorem calls_ofExcept_bind {x : Except Fault α} {f : α → Task σ β}
    (rest : ∀ a, x = .ok a → (f a).Calls C) : (ofExcept x >>= f).Calls C := by
  intro s r s' ends
  rcases ends_ofExcept_bind_iff.mp ends with ⟨a, known, ends⟩ | ⟨e, -, rfl, rfl⟩
  · exact rest a known s r s' ends
  · exact .inr ⟨⟨e, rfl⟩, rfl⟩

/-- What is done within the correlation under way may depend on it. -/
theorem calls_correlate_bind {f : Document → Task σ β}
    (rest : ∀ draws, (f (c.surroundings.correlate draws).1).Calls C) :
    (correlate c >>= f).Calls C := by
  intro s r s' ends
  rw [ends_bind_iff_of_ends (ends_correlate_iff.mpr ⟨rfl, rfl⟩)] at ends
  exact (rest s.draws _ r s' ends :)

end Task

/-! ## Exchanges -/

namespace Client

open RuleBound.Task

variable (c : Client) (store : ContentStore σ) {C : Registry → Draws → Registry → Prop}

theorem calls_createWithin (intent : Intent)
    (mints : ∀ (sheet : RuleSheet) rules m kind, sheet.toCompact = .ok rules →
      m.rules = .member rules → (mint c m kind : Task σ Int).Calls C) :
    (c.createWithin store intent).Calls C := by
  refine (isStill_ofExcept _).isAside.bind_calls fun _ => ?_
  refine (isStill_ofExcept _).isAside.bind_calls fun compiled => ?_
  refine (isStill_note c _).isAside.bind_calls fun _ => ?_
  refine (isAside_drawKey c).bind_calls fun key => ?_
  refine (isStill_ofExcept _).isAside.bind_calls fun content => ?_
  refine (isAside_sealContent c key content).bind_calls fun ciphertext => ?_
  refine (isStill_throughStore c _ _).isAside.bind_calls fun contentPointer => ?_
  refine (isStill_throughStore c _ _).isAside.bind_calls fun metadataPointer => ?_
  refine calls_ofExcept_bind fun rules ruled => ?_
  exact (mints compiled.sheet rules _ _ ruled rfl).bind fun id => isStill_pure _

/-- Creating an object is one mint under the rules of a sheet, within the correlation under way. -/
theorem calls_create_of (intent : Intent)
    (mints : ∀ draws (sheet : RuleSheet) rules m kind, sheet.toCompact = .ok rules →
      m.rules = .member rules →
      (mint (c.within (c.surroundings.correlate draws).1) m kind : Task σ Int).Calls C) :
    (c.create store intent).Calls C := by
  refine calls_correlate_bind fun draws => ?_
  refine (calls_createWithin _ store intent (mints draws)).bind fun created => ?_
  exact (isStill_note c _).bind fun _ => isStill_pure _

theorem calls_accessWithin (link : CapabilityLink) (action : Action) (context : Given Bytes)
    (requests : ∀ id action context actor,
      (request c id action context actor : Task σ Outcome).Calls C) :
    (c.accessWithin store link action context).Calls C := by
  refine isStill_get.isAside.bind_calls fun s => ?_
  refine (isStill_ofExcept _).isAside.bind_calls fun found => ?_
  refine ((isStill_throughStore c _ _).bind fun d => isStill_ofExcept _).isAside.bind_calls
    fun metadata => ?_
  dsimp only
  by_cases differ : Document.text metadata.rulesHash ≠ found.2.rulesHash
  · rw [if_pos differ]
    intro s r s' ends
    obtain ⟨rfl, rfl⟩ := ends_throw_bind_iff.mp ends
    exact .inr ⟨⟨_, rfl⟩, rfl⟩
  rw [if_neg differ]
  refine (isStill_ofExcept _).isAside.bind_calls fun bytes => ?_
  refine (requests _ _ _ _).bind fun outcome => ?_
  cases outcome.allowed with
  | false => exact (isStill_note c _).bind fun _ => isStill_pure _
  | true =>
    exact (isStill_throughStore c _ _).bind fun ciphertext =>
      (isStill_openContent c _ _).bind fun content => isStill_pure _

/-- Accessing an object is one request, within the correlation under way. -/
theorem calls_accessThrough_of (link : CapabilityLink) (action : Document) (context : Given Bytes)
    (requests : ∀ draws id action context actor,
      (request (c.within (c.surroundings.correlate draws).1) id action context actor :
        Task σ Outcome).Calls C) :
    (c.accessThrough store link action context).Calls C := by
  refine (isStill_ofExcept _).isAside.bind_calls fun named => ?_
  refine calls_correlate_bind fun draws => ?_
  refine (calls_accessWithin _ store link named context (requests draws)).bind fun result => ?_
  cases result.allowed with
  | false => exact isStill_pure _
  | true => exact (isStill_note c _).bind fun _ => isStill_pure _

end Client

end RuleBound
