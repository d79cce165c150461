import RuleBound.Exchange.Create
import RuleBound.Proofs.Exchange.Disclosure
import RuleBound.Proofs.Registry.Lasting

/-!
The course of a session. Whatever is done with a session, its registry changes by deeds alone, and
its store only by being asked. A task is lawful if this holds however it ends; creating an object
and accessing one are, since their primitives are and a sequence of lawful tasks is.
-/

namespace RuleBound

variable {σ α β : Type}

/-! ## Lawful tasks -/

/-- Whether some puts and gets lead from one state of a store to another. -/
def ContentStore.Leads (store : ContentStore σ) : σ → σ → Prop :=
  Relation.ReflTransGen fun st st' =>
    (∃ content, st' = (store.put st content).state) ∨ ∃ pointer, st' = (store.get st pointer).state

namespace ContentStore

variable {store : ContentStore σ}

theorem leads_put (st : σ) (content : Bytes) : store.Leads st (store.put st content).state :=
  .single (.inl ⟨content, rfl⟩)

theorem leads_get (st : σ) (pointer : Document) : store.Leads st (store.get st pointer).state :=
  .single (.inr ⟨pointer, rfl⟩)

theorem leads_getDocument (st : σ) (pointer : Document) :
    store.Leads st (store.getDocument st pointer).state :=
  leads_get st pointer

theorem leads_putDocument (st : σ) (d : Document) :
    store.Leads st (store.putDocument st d).state := by
  unfold putDocument
  cases d.canonical with
  | error f => exact .refl
  | ok text => exact leads_put st _

/-- Attempts at an operation that asks the store lead where asking the store leads. -/
theorem Leads.of_attempts {operation : σ → Reply σ α} {st st' : σ}
    (leads : Reply.Leads operation st st') (asks : ∀ st, store.Leads st (operation st).state) :
    store.Leads st st' :=
  leads.keeps (P := store.Leads st) (fun u before => before.trans (asks u)) .refl

end ContentStore

/-- Whether deeds lead from the registry of one session to that of another, and puts and gets from
store to store. -/
structure Session.Leads (store : ContentStore σ) (s s' : Session σ) : Prop where
  registry : Registry.Leads s.registry s'.registry
  store : store.Leads s.store s'.store

namespace Session.Leads

variable {store : ContentStore σ} {s t u : Session σ}

theorem refl (s : Session σ) : s.Leads store s := ⟨.refl, .refl⟩

theorem trans (first : s.Leads store t) (second : t.Leads store u) : s.Leads store u :=
  ⟨first.registry.trans second.registry, first.store.trans second.store⟩

theorem of_eq (registry : t.registry = s.registry) (store' : t.store = s.store) :
    s.Leads store t := by
  constructor
  · rw [registry]
    exact .refl
  · rw [store']
    exact .refl

end Session.Leads

/-- Whether a task leads from a session to the one that it leaves, however it ends. -/
def Task.IsLawful (store : ContentStore σ) (t : Task σ α) : Prop :=
  ∀ s r s', t.Ends s r s' → s.Leads store s'

namespace Task

variable {store : ContentStore σ} {c : Client}

theorem IsLawful.bind {t : Task σ α} {f : α → Task σ β} (first : t.IsLawful store)
    (rest : ∀ a, (f a).IsLawful store) : (t >>= f).IsLawful store := by
  intro s r s' ends
  rcases ends_bind_iff.mp ends with ⟨a, u, answers, ends⟩ | ⟨e, fails, -⟩
  · exact (first s _ u answers).trans (rest a u r s' ends)
  · exact first s _ s' fails

theorem isLawful_pure (a : α) : (pure a : Task σ α).IsLawful store := by
  intro s r s' ends
  obtain ⟨-, rfl⟩ := ends_pure_iff.mp ends
  exact .refl s'

theorem isLawful_throw (f : Fault) : (throw f : Task σ α).IsLawful store := by
  intro s r s' ends
  obtain ⟨-, rfl⟩ := ends_throw_iff.mp ends
  exact .refl s'

theorem isLawful_throw_bind {f : α → Task σ β} (e : Fault) : (throw e >>= f).IsLawful store := by
  intro s r s' ends
  obtain ⟨-, rfl⟩ := ends_throw_bind_iff.mp ends
  exact .refl s'

theorem isLawful_ofExcept (x : Except Fault α) : (ofExcept x : Task σ α).IsLawful store := by
  cases x with
  | ok a => exact isLawful_pure a
  | error f => exact isLawful_throw f

theorem isLawful_get : (get : Task σ (Session σ)).IsLawful store := by
  intro s r s' ends
  obtain ⟨-, rfl⟩ := ends_get_iff.mp ends
  exact .refl s'

theorem isLawful_note (c : Client) (notes : List Note) :
    (note c notes : Task σ Unit).IsLawful store := by
  intro s r s' ends
  obtain ⟨-, rfl⟩ := ends_note_iff.mp ends
  exact .of_eq rfl rfl

theorem isLawful_correlate (c : Client) : (correlate c : Task σ Document).IsLawful store := by
  intro s r s' ends
  obtain ⟨-, rfl⟩ := ends_correlate_iff.mp ends
  exact .of_eq rfl rfl

/-- A task whose first step is to put draws and a registry in place is lawful if deeds lead to that
registry and what follows is lawful. -/
theorem IsLawful.get_set {f : Session σ → PUnit → Task σ α} {draws : Session σ → Draws}
    (registry : Session σ → Registry) (leads : ∀ s, Registry.Leads s.registry (registry s))
    (rest : ∀ s u, (f s u).IsLawful store) :
    (do let s ← get
        let u ← set { s with draws := draws s, registry := registry s }
        f s u : Task σ α).IsLawful store := by
  intro s r s' ends
  rw [ends_get_bind_iff, ends_set_bind_iff] at ends
  have after := rest s ⟨⟩ _ r s' ends
  exact ⟨(leads s).trans after.registry, after.store⟩

theorem isLawful_drawKey (c : Client) : (drawKey c : Task σ ContentKey).IsLawful store :=
  .get_set Session.registry (fun _ => .refl) fun _ _ =>
    (isLawful_note c _).bind fun _ => isLawful_pure _

theorem isLawful_drawNonce (c : Client) : (drawNonce c : Task σ Bytes).IsLawful store :=
  .get_set Session.registry (fun _ => .refl) fun _ _ => isLawful_pure _

theorem isLawful_request (c : Client) (id action : Document) (context : Given Bytes)
    (actor : Document) : (request c id action context actor : Task σ Outcome).IsLawful store :=
  .get_set _
    (fun s => Registry.State.leads_step ⟨s.draws, s.registry⟩
      ⟨c.surroundings, .request id action context actor⟩)
    fun _ _ => (isLawful_ofExcept _).bind fun _ => (isLawful_note c _).bind fun _ => isLawful_pure _

theorem isLawful_mint (c : Client) (m : MintRequest) (kind : ObjectKind) :
    (mint c m kind : Task σ Int).IsLawful store :=
  .get_set _
    (fun s => Registry.State.leads_step ⟨s.draws, s.registry⟩ ⟨c.surroundings, .create m⟩)
    fun _ _ => (isLawful_ofExcept _).bind fun _ => (isLawful_note c _).bind fun _ => isLawful_pure _

theorem isLawful_openContent (c : Client) (key : ContentKey) (content : Sealed) :
    (openContent c key content : Task σ Bytes).IsLawful store := by
  intro s r s' ends
  obtain ⟨-, registry, same⟩ := ends_openContent ends
  exact .of_eq registry same

theorem isLawful_throughStore (c : Client) (what : String) {operation : σ → Reply σ α}
    (asks : ∀ st, store.Leads st (operation st).state) :
    (throughStore c what operation).IsLawful store := by
  intro s r s' ends
  obtain ⟨registry, leads⟩ := keeps_of_ends_throughStore ends
  refine ⟨?_, .of_attempts leads asks⟩
  rw [registry]
  exact .refl

theorem isLawful_sealBytes (c : Client) (key : ContentKey) (content : FileContent) :
    IsLawful store (do
      let nonce ← drawNonce c
      match content with
      | .bytes content => do
        note c [sealedNote content.length]
        return (Gcm.encrypt key.bytes nonce content, Text.toHex nonce)
      | .other _ => throw .wrongType : Task σ (Bytes × String)) := by
  refine (isLawful_drawNonce c).bind fun nonce => ?_
  cases content with
  | bytes content => exact (isLawful_note c _).bind fun _ => isLawful_pure _
  | other d => exact isLawful_throw _

theorem isLawful_sealContent (c : Client) (key : ContentKey) (content : FileContent) :
    (sealContent c key content : Task σ (Bytes × String)).IsLawful store := by
  unfold sealContent
  split
  · exact (isLawful_ofExcept _).bind (isLawful_sealBytes c key)
  · exact (isLawful_pure _).bind (isLawful_sealBytes c key)

end Task

namespace Client

variable {store : ContentStore σ}

/-- Creating an object is lawful. -/
theorem isLawful_create (c : Client) (store : ContentStore σ) (intent : Intent) :
    (c.create store intent).IsLawful store := by
  refine (Task.isLawful_correlate c).bind fun correlation => .bind ?_ fun created =>
    (Task.isLawful_note c _).bind fun _ => Task.isLawful_pure _
  generalize c.within correlation = c
  unfold createWithin
  refine (Task.isLawful_ofExcept _).bind fun _ => (Task.isLawful_ofExcept _).bind fun compiled =>
    (Task.isLawful_note c _).bind fun _ => (Task.isLawful_drawKey c).bind fun key =>
      (Task.isLawful_ofExcept _).bind fun content => (Task.isLawful_sealContent c key content).bind
        fun ciphertext => ?_
  refine (Task.isLawful_throughStore c _ fun st => ContentStore.leads_put st _).bind fun pointer => ?_
  refine (Task.isLawful_throughStore c _ fun st => ContentStore.leads_putDocument st _).bind
    fun metadataPointer => ?_
  exact (Task.isLawful_ofExcept _).bind fun rules => (Task.isLawful_mint c _ _).bind fun id =>
    Task.isLawful_pure _

theorem isLawful_fetchMetadata (c : Client) (store : ContentStore σ) (pointer : Document) :
    (c.fetchMetadata store pointer).IsLawful store :=
  (Task.isLawful_throughStore c _ fun st => ContentStore.leads_getDocument st pointer).bind fun _ =>
    Task.isLawful_ofExcept _

theorem isLawful_accessWithin (c : Client) (store : ContentStore σ) (link : CapabilityLink)
    (action : Action) (context : Given Bytes) :
    (c.accessWithin store link action context).IsLawful store := by
  refine Task.isLawful_get.bind fun s => (Task.isLawful_ofExcept _).bind fun found =>
    (c.isLawful_fetchMetadata store _).bind fun metadata => ?_
  dsimp only
  by_cases differ : Document.text metadata.rulesHash ≠ found.2.rulesHash
  · rw [if_pos differ]
    exact Task.isLawful_throw_bind _
  rw [if_neg differ]
  refine (Task.isLawful_ofExcept _).bind fun _ => (Task.isLawful_request c _ _ _ _).bind
    fun outcome => ?_
  cases outcome.allowed with
  | false => exact (Task.isLawful_note c _).bind fun _ => Task.isLawful_pure _
  | true =>
    exact (Task.isLawful_throughStore c _ fun st => ContentStore.leads_get st _).bind fun _ =>
      (Task.isLawful_openContent c _ _).bind fun _ => Task.isLawful_pure _

theorem isLawful_accessThrough (c : Client) (store : ContentStore σ) (link : CapabilityLink)
    (action : Document) (context : Given Bytes) :
    (c.accessThrough store link action context).IsLawful store := by
  refine (Task.isLawful_ofExcept _).bind fun named => (Task.isLawful_correlate c).bind fun
    correlation => ((c.within correlation).isLawful_accessWithin store link named context).bind
      fun result => ?_
  cases result.allowed with
  | false => exact Task.isLawful_pure _
  | true => exact (Task.isLawful_note c _).bind fun _ => Task.isLawful_pure _

/-- Accessing an object is lawful. -/
theorem isLawful_accessGiven (c : Client) (store : ContentStore σ) (link : Given CapabilityLink)
    (action : Document) (context : Given Bytes) :
    (c.accessGiven store link action context).IsLawful store := by
  cases link with
  | member link => exact c.isLawful_accessThrough store link action context
  | other d =>
    exact (Task.isLawful_ofExcept _).bind fun link =>
      c.isLawful_accessThrough store link action context

end Client

/-! ## What is done with a session -/

/-- Something that is done with a session: an object is created or accessed by some client, content
is put into the store, or the store is exchanged for any other. -/
inductive Operation (σ : Type)
  | create (c : Client) (intent : Intent)
  | access (c : Client) (link : Given CapabilityLink) (action : Document) (context : Given Bytes)
  | put (content : Bytes)
  | exchange (st : σ)

/-- Whether an operation exchanges the store. -/
def Operation.isExchange : Operation σ → Bool
  | .exchange _ => true
  | _ => false

namespace Session

/-- The session after an operation, whatever it was answered. -/
def step (store : ContentStore σ) (s : Session σ) : Operation σ → Session σ
  | .create c intent => ((c.create store intent).run.run s).run.2
  | .access c link action context => ((c.accessGiven store link action context).run.run s).run.2
  | .put content => { s with store := (store.put s.store content).state }
  | .exchange st => { s with store := st }

/-- The session after some operations. -/
def run (store : ContentStore σ) (s : Session σ) (ops : List (Operation σ)) : Session σ :=
  ops.foldl (step store) s

variable {store : ContentStore σ}

/-- Every operation but an exchange leads from a session to the next. -/
theorem leads_step {o : Operation σ} (kept : o.isExchange = false) (s : Session σ) :
    s.Leads store (s.step store o) := by
  cases o with
  | create c intent => exact c.isLawful_create store intent s _ _ rfl
  | access c link action context =>
    exact c.isLawful_accessGiven store link action context s _ _ rfl
  | put content => exact ⟨.refl, ContentStore.leads_put s.store content⟩
  | exchange st => cases kept

/-- Operations without an exchange lead from a session to the one after them. -/
theorem leads_run {ops : List (Operation σ)} (kept : ∀ o ∈ ops, o.isExchange = false)
    (s : Session σ) : s.Leads store (s.run store ops) := by
  induction ops generalizing s with
  | nil => exact .refl s
  | cons o ops ih =>
    rw [List.forall_mem_cons] at kept
    exact (leads_step kept.1 s).trans (ih kept.2 _)

/-- Whatever is done, deeds lead from the registry of a session to that of the one after it. -/
theorem registry_leads_run (s : Session σ) (ops : List (Operation σ)) :
    Registry.Leads s.registry (s.run store ops).registry := by
  induction ops generalizing s with
  | nil => exact .refl
  | cons o ops ih =>
    refine Relation.ReflTransGen.trans ?_ (ih _)
    cases kept : o.isExchange with
    | false => exact (leads_step kept s).registry
    | true =>
      cases o with
      | exchange st => exact .refl
      | _ => cases kept

end Session

end RuleBound
