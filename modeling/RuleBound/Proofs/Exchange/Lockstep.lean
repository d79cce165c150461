import RuleBound.Exchange.Create
import RuleBound.Proofs.Exchange.Task

/-!
Tasks in lockstep. Sessions over two stores may be bound to each other: they have the same registry,
or registries that no call tells apart, and the same was drawn. A task follows another one from such
sessions if it ends as the other does, in sessions that are bound again, unless it quits with a fault
of its own.

Creating an object and accessing one ask nothing of a session but its registry, its draws and its
store; so they follow each other over any two stores whose operations do.
-/

namespace RuleBound

variable {σ τ α β : Type}

/-- What an exchange looks at in a record that it has found: under which identifier it stands, where
its metadata is, and which rules it bears. -/
def Registry.sight (found : Int × Record) : Int × Document × Document :=
  (found.1, found.2.pointer, found.2.rulesHash)

theorem Registry.sight_eq_iff {found' found : Int × Record} :
    sight found' = sight found ↔ found'.1 = found.1 ∧ found'.2.pointer = found.2.pointer ∧
      found'.2.rulesHash = found.2.rulesHash := by
  simp [sight]

/-- Whether no exchange tells registries apart that are like each other: it finds the same in them,
and they answer its calls alike and stay like each other. -/
structure Registry.IsLikeness (L : Registry → Registry → Prop) : Prop where
  find : ∀ {reg' reg}, L reg' reg → ∀ id, (reg'.find id).map sight = (reg.find id).map sight
  create : ∀ {reg' reg}, L reg' reg → ∀ s d m,
    (reg'.create s d m).1 = (reg.create s d m).1 ∧
      L (reg'.create s d m).2.1 (reg.create s d m).2.1 ∧
      (reg'.create s d m).2.2 = (reg.create s d m).2.2
  request : ∀ {reg' reg}, L reg' reg → ∀ s d id action context actor,
    (reg'.request s d id action context actor).1 = (reg.request s d id action context actor).1 ∧
      L (reg'.request s d id action context actor).2.1
        (reg.request s d id action context actor).2.1 ∧
      (reg'.request s d id action context actor).2.2 =
        (reg.request s d id action context actor).2.2

/-- A registry is like itself. -/
theorem Registry.isLikeness_eq : Registry.IsLikeness Eq where
  find := by
    rintro reg' reg rfl id
    rfl
  create := by
    rintro reg' reg rfl s d m
    exact ⟨rfl, rfl, rfl⟩
  request := by
    rintro reg' reg rfl s d id action context actor
    exact ⟨rfl, rfl, rfl⟩

/-- Whether sessions that are bound to each other have registries that are like each other and the
same draws, and stay bound if these are changed in the same way and if the same is noted. -/
structure Session.IsBond (L : Registry → Registry → Prop)
    (R : Session τ → Session σ → Prop) : Prop where
  like : Registry.IsLikeness L
  registry : ∀ {s' s}, R s' s → L s'.registry s.registry
  draws : ∀ {s' s}, R s' s → s'.draws = s.draws
  change : ∀ {s' s}, R s' s → ∀ draws {reg' reg}, L reg' reg →
    R { s' with draws := draws, registry := reg' } { s with draws := draws, registry := reg }
  note : ∀ {s' s}, R s' s → ∀ c notes, R (Task.noted s' c notes) (Task.noted s c notes)

/-- Whether a task that is started on one session ends as another does that is started on another,
in sessions that are bound to each other, or quits. -/
def Task.Follows (R : Session τ → Session σ → Prop) (Quits : Fault → Prop) (t' : Task τ α)
    (t : Task σ α) (s' : Session τ) (s : Session σ) : Prop :=
  ∀ r u', t'.Ends s' r u' → (∃ f, r = .error f ∧ Quits f) ∨ ∃ u, t.Ends s r u ∧ R u' u

namespace Task

variable {R : Session τ → Session σ → Prop} {Quits : Fault → Prop} {s' : Session τ} {s : Session σ}

theorem follows_bind {t' : Task τ α} {t : Task σ α} {f' : α → Task τ β} {f : α → Task σ β}
    (first : Follows R Quits t' t s' s)
    (rest : ∀ a u' u, R u' u → Follows R Quits (f' a) (f a) u' u) :
    Follows R Quits (t' >>= f') (t >>= f) s' s := by
  intro r u' ends
  rcases ends_bind_iff.mp ends with ⟨a, v', answers, ends⟩ | ⟨e, fails, rfl⟩
  · rcases first _ v' answers with ⟨e, failed, -⟩ | ⟨v, answers, tied⟩
    · cases failed
    · rcases rest a v' v tied r u' ends with quits | ⟨u, ends, tied⟩
      · exact .inl quits
      · exact .inr ⟨u, answers.bind ends, tied⟩
  · rcases first _ u' fails with ⟨e', failed, quits⟩ | ⟨u, fails, tied⟩
    · cases failed
      exact .inl ⟨e, rfl, quits⟩
    · exact .inr ⟨u, ends_bind_iff.mpr (.inr ⟨e, fails, rfl⟩), tied⟩

theorem follows_pure (tied : R s' s) (a : α) : Follows R Quits (pure a) (pure a) s' s := by
  intro r u' ends
  obtain ⟨rfl, rfl⟩ := ends_pure_iff.mp ends
  exact .inr ⟨s, ends_pure_iff.mpr ⟨rfl, rfl⟩, tied⟩

theorem follows_throw (tied : R s' s) (f : Fault) :
    Follows R Quits (throw f : Task τ α) (throw f : Task σ α) s' s := by
  intro r u' ends
  obtain ⟨rfl, rfl⟩ := ends_throw_iff.mp ends
  exact .inr ⟨s, ends_throw_iff.mpr ⟨rfl, rfl⟩, tied⟩

theorem follows_throw_bind {f' : α → Task τ β} {f : α → Task σ β} (tied : R s' s) (e : Fault) :
    Follows R Quits (throw e >>= f') (throw e >>= f) s' s := by
  intro r u' ends
  obtain ⟨rfl, rfl⟩ := ends_throw_bind_iff.mp ends
  exact .inr ⟨s, ends_throw_bind_iff.mpr ⟨rfl, rfl⟩, tied⟩

theorem follows_ofExcept (tied : R s' s) (x : Except Fault α) :
    Follows R Quits (ofExcept x) (ofExcept x) s' s := by
  cases x with
  | ok a => exact follows_pure tied a
  | error f => exact follows_throw tied f

/-- Where two tasks go on with what was found, they may go on with things that look alike. -/
theorem follows_ofExcept_bind {γ : Type} {view : γ → α} {x' x : Except Fault γ} {f' : γ → Task τ β}
    {f : γ → Task σ β} (tied : R s' s) (same : x'.map view = x.map view)
    (rest : ∀ a' a, view a' = view a → Follows R Quits (f' a') (f a) s' s) :
    Follows R Quits (ofExcept x' >>= f') (ofExcept x >>= f) s' s := by
  cases x' with
  | ok a' =>
    cases x with
    | ok a =>
      intro r u' ends
      rw [ends_bind_iff_of_ends (ends_ofExcept_iff.mpr ⟨rfl, rfl⟩)] at ends
      rcases rest a' a (Except.ok.inj same) r u' ends with quits | ⟨u, ends, tied⟩
      · exact .inl quits
      · exact .inr ⟨u, (ends_ofExcept_iff.mpr ⟨rfl, rfl⟩ : Ends (ofExcept (.ok a)) s (.ok a) s).bind
          ends, tied⟩
    | error e => cases same
  | error e' =>
    cases x with
    | ok a => cases same
    | error e =>
      cases same
      exact follows_throw_bind tied _

theorem follows_get_bind {f' : Session τ → Task τ α} {f : Session σ → Task σ α}
    (rest : Follows R Quits (f' s') (f s) s' s) :
    Follows R Quits (get >>= f') (get >>= f) s' s := by
  intro r u' ends
  rw [ends_get_bind_iff] at ends
  simp only [ends_get_bind_iff]
  exact rest r u' ends

theorem follows_set {v' : Session τ} {v : Session σ} (tied : R v' v) :
    Follows R Quits (set v') (set v) s' s := by
  intro r u' ends
  obtain ⟨rfl, rfl⟩ := ends_set_iff.mp ends
  exact .inr ⟨v, ends_set_iff.mpr ⟨rfl, rfl⟩, tied⟩

variable {L : Registry → Registry → Prop} (bond : Session.IsBond L R)

include bond

theorem follows_note (tied : R s' s) (c : Client) (notes : List Note) :
    Follows R Quits (note c notes) (note c notes) s' s := by
  intro r u' ends
  obtain ⟨rfl, rfl⟩ := ends_note_iff.mp ends
  exact .inr ⟨_, ends_note_iff.mpr ⟨rfl, rfl⟩, bond.note tied c notes⟩

theorem tied_draws (tied : R s' s) (draws : Draws) :
    R { s' with draws := draws } { s with draws := draws } :=
  bond.change tied draws (bond.registry tied)

theorem follows_correlate (tied : R s' s) (c : Client) :
    Follows R Quits (correlate c) (correlate c) s' s := by
  refine follows_get_bind ?_
  rw [bond.draws tied]
  exact follows_bind (follows_set (tied_draws bond tied _)) fun _ _ _ tied => follows_pure tied _

theorem follows_drawKey (tied : R s' s) (c : Client) :
    Follows R Quits (drawKey c) (drawKey c) s' s := by
  refine follows_get_bind ?_
  rw [bond.draws tied]
  exact follows_bind (follows_set (tied_draws bond tied _)) fun _ _ _ tied =>
    follows_bind (follows_note bond tied c _) fun _ _ _ tied => follows_pure tied _

theorem follows_drawNonce (tied : R s' s) (c : Client) :
    Follows R Quits (drawNonce c) (drawNonce c) s' s := by
  refine follows_get_bind ?_
  rw [bond.draws tied]
  exact follows_bind (follows_set (tied_draws bond tied _)) fun _ _ _ tied => follows_pure tied _

theorem follows_sealContent (tied : R s' s) (c : Client) (key : ContentKey)
    (content : FileContent) :
    Follows R Quits (sealContent c key content) (sealContent c key content) s' s := by
  unfold sealContent
  extract_lets seal' seal''
  have sealed : ∀ content u' u, R u' u → Follows R Quits (seal' content) (seal'' content) u' u := by
    intro content u' u tied
    refine follows_bind (follows_drawNonce bond tied c) fun nonce _ _ tied => ?_
    cases content with
    | bytes content =>
      exact follows_bind (follows_note bond tied c _) fun _ _ _ tied => follows_pure tied _
    | other d => exact follows_throw tied _
  split
  · exact follows_bind (follows_ofExcept tied _) sealed
  · exact follows_bind (follows_pure tied _) sealed

theorem follows_mint (tied : R s' s) (c : Client) (m : MintRequest) (kind : ObjectKind) :
    Follows R Quits (mint c m kind) (mint c m kind) s' s := by
  refine follows_get_bind ?_
  obtain ⟨draws, like, answer⟩ :=
    bond.like.create (bond.registry tied) c.surroundings s'.draws m
  rw [bond.draws tied] at draws like answer ⊢
  dsimp only
  rw [draws, answer]
  exact follows_bind (follows_set (bond.change tied _ like)) fun _ _ _ tied =>
    follows_bind (follows_ofExcept tied _) fun _ _ _ tied =>
      follows_bind (follows_note bond tied c _) fun _ _ _ tied => follows_pure tied _

theorem follows_request (tied : R s' s) (c : Client) (id action : Document)
    (context : Given Bytes) (actor : Document) :
    Follows R Quits (request c id action context actor) (request c id action context actor)
      s' s := by
  refine follows_get_bind ?_
  obtain ⟨draws, like, answer⟩ :=
    bond.like.request (bond.registry tied) c.surroundings s'.draws id action context actor
  rw [bond.draws tied] at draws like answer ⊢
  dsimp only
  rw [draws, answer]
  exact follows_bind (follows_set (bond.change tied _ like)) fun _ _ _ tied =>
    follows_bind (follows_ofExcept tied _) fun _ _ _ tied =>
      follows_bind (follows_note bond tied c _) fun _ _ _ tied => follows_pure tied _

theorem follows_openContent (tied : R s' s) (c : Client) (key : ContentKey) (content : Sealed) :
    Follows R Quits (openContent c key content) (openContent c key content) s' s := by
  unfold openContent
  cases key.unseal content with
  | ok bytes => exact follows_pure tied bytes
  | error f =>
    exact follows_bind (follows_note bond tied c _) fun _ _ _ tied => follows_throw tied _

end Task

/-! ## Creating and accessing -/

/-- The client with another policy. -/
def Client.under (c : Client) (p : RetryPolicy) : Client := { c with policy := p }

/-- Whether operations on one state, tried as a policy says, follow operations on another that are
tried as a client does. -/
def Reply.Follows (R : Session τ → Session σ → Prop) (Quits : Fault → Prop) (p : RetryPolicy)
    (c : Client) (operation' : τ → Reply τ α) (operation : σ → Reply σ α) : Prop :=
  ∀ correlation what s' s, R s' s → Task.Follows R Quits
    (Task.throughStore ((c.under p).within correlation) what operation')
    (Task.throughStore (c.within correlation) what operation) s' s

/-- Whether all operations of one store follow those of another. -/
structure ContentStore.Follows (R : Session τ → Session σ → Prop) (Quits : Fault → Prop)
    (p : RetryPolicy) (c : Client) (store' : ContentStore τ) (store : ContentStore σ) : Prop where
  put : ∀ content, Reply.Follows R Quits p c (store'.put · content) (store.put · content)
  putDocument : ∀ d, Reply.Follows R Quits p c (store'.putDocument · d) (store.putDocument · d)
  get : ∀ pointer, Reply.Follows R Quits p c (store'.get · pointer) (store.get · pointer)
  getDocument : ∀ pointer,
    Reply.Follows R Quits p c (store'.getDocument · pointer) (store.getDocument · pointer)

namespace Client

open RuleBound.Task

variable {R : Session τ → Session σ → Prop} {Quits : Fault → Prop} {p : RetryPolicy} {c : Client}
  {store' : ContentStore τ} {store : ContentStore σ} {L : Registry → Registry → Prop}
  (bond : Session.IsBond L R)
  (follows : store'.Follows R Quits p c store) {s' : Session τ} {s : Session σ} (tied : R s' s)

include bond follows tied

theorem follows_createWithin (correlation : Document) (intent : Intent) :
    Task.Follows R Quits (((c.under p).within correlation).createWithin store' intent)
      ((c.within correlation).createWithin store intent) s' s := by
  unfold createWithin
  refine follows_bind (follows_ofExcept tied _) fun _ _ _ tied => ?_
  refine follows_bind (follows_ofExcept tied _) fun compiled _ _ tied => ?_
  refine follows_bind (follows_note bond tied (c.within correlation) _) fun _ _ _ tied => ?_
  refine follows_bind (follows_drawKey bond tied (c.within correlation)) fun key _ _ tied => ?_
  refine follows_bind (follows_ofExcept tied _) fun content _ _ tied => ?_
  refine follows_bind (follows_sealContent bond tied (c.within correlation) key content)
    fun ciphertext _ _ tied => ?_
  refine follows_bind (follows.put _ correlation _ _ _ tied) fun pointer _ _ tied => ?_
  refine follows_bind (follows.putDocument _ correlation _ _ _ tied)
    fun metadataPointer _ _ tied => ?_
  refine follows_bind (follows_ofExcept tied _) fun rules _ _ tied => ?_
  refine follows_bind (follows_mint bond tied (c.within correlation) _ _) fun id _ _ tied => ?_
  exact follows_pure tied _

/-- Creating an object over a store follows creating it over another whose operations it follows. -/
theorem follows_create (intent : Intent) :
    Task.Follows R Quits ((c.under p).create store' intent) (c.create store intent) s' s := by
  refine follows_bind (follows_correlate bond tied c) fun correlation _ _ tied => ?_
  refine follows_bind (follows_createWithin bond follows tied correlation intent)
    fun created _ _ tied => ?_
  exact follows_bind (follows_note bond tied c _) fun _ _ _ tied => follows_pure tied _

theorem follows_accessWithin (correlation : Document) (link : CapabilityLink) (action : Action)
    (context : Given Bytes) :
    Task.Follows R Quits (((c.under p).within correlation).accessWithin store' link action context)
      ((c.within correlation).accessWithin store link action context) s' s := by
  refine follows_get_bind ?_
  have seen := bond.like.find (bond.registry tied) link.objectId
  generalize s'.registry.find link.objectId = found' at seen ⊢
  generalize s.registry.find link.objectId = found at seen ⊢
  refine follows_ofExcept_bind tied seen ?_
  rintro ⟨id', record'⟩ ⟨id, record⟩ seen
  obtain ⟨same, pointer, rulesHash⟩ := Registry.sight_eq_iff.mp seen
  dsimp only at same pointer rulesHash ⊢
  rw [same, pointer, rulesHash]
  refine follows_bind (follows_bind (follows.getDocument _ correlation _ _ _ tied)
    fun d _ _ tied => follows_ofExcept tied _) fun metadata _ _ tied => ?_
  by_cases differ : Document.text metadata.rulesHash ≠ record.rulesHash
  · rw [if_pos differ, if_pos differ]
    exact follows_throw_bind tied _
  rw [if_neg differ, if_neg differ]
  refine follows_bind (follows_ofExcept tied _) fun bytes _ _ tied => ?_
  refine follows_bind (follows_request bond tied (c.within correlation) _ _ _ _)
    fun outcome _ _ tied => ?_
  cases outcome.allowed with
  | false =>
    exact follows_bind (follows_note bond tied (c.within correlation) _)
      fun _ _ _ tied => follows_pure tied _
  | true =>
    refine follows_bind (follows.get _ correlation _ _ _ tied) fun ciphertext _ _ tied => ?_
    refine follows_bind (follows_openContent bond tied (c.within correlation) _ _)
      fun content _ _ tied => ?_
    exact follows_pure tied _

/-- Accessing an object over a store follows accessing it over another whose operations it
follows. -/
theorem follows_accessThrough (link : CapabilityLink) (action : Document) (context : Given Bytes) :
    Task.Follows R Quits ((c.under p).accessThrough store' link action context)
      (c.accessThrough store link action context) s' s := by
  refine follows_bind (follows_ofExcept tied _) fun named _ _ tied => ?_
  refine follows_bind (follows_correlate bond tied c) fun correlation _ _ tied => ?_
  refine follows_bind (follows_accessWithin bond follows tied correlation link named context)
    fun result _ _ tied => ?_
  cases result.allowed with
  | false => exact follows_pure tied _
  | true =>
    exact follows_bind (follows_note bond tied c _) fun _ _ _ tied => follows_pure tied _

end Client

end RuleBound
