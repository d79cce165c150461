import RuleBound.Proofs.Exchange.Footprint
import RuleBound.Proofs.Exchange.Lockstep
import RuleBound.Proofs.Registry.Ordering
import RuleBound.Proofs.Registry.Paged

/-!
Exchanges on like registries. Registries that agree up to the order of their whitelists are not told
apart by any exchange: over the same store it ends alike on both, and leaves registries that agree
again. An exchange hands in rules of a sheet only, so a registry that can be read back from a page
goes on to be one.
-/

namespace RuleBound

variable {σ α : Type}

/-- Registries that agree up to the order of their whitelists are like each other. -/
theorem Registry.isLikeness_inOrder :
    Registry.IsLikeness fun reg' reg => reg'.inOrder = reg.inOrder where
  find := by
    intro reg' reg same id
    have seen : ∀ reg : Registry, (reg.find id).map sight = (reg.inOrder.find id).map sight := by
      intro reg
      rw [find_inOrder]
      cases reg.find id <;> rfl
    rw [seen reg', seen reg, same]
  create same s d m := create_congr same s d m
  request same s d id action context actor := request_congr same s d id action context actor

/-- Whether sessions are the same but for the order of whitelists. -/
structure Session.Alike (s' s : Session σ) : Prop where
  registry : s'.registry.inOrder = s.registry.inOrder
  store : s'.store = s.store
  draws : s'.draws = s.draws
  delays : s'.delays = s.delays
  journal : s'.journal = s.journal

theorem Session.isBond_alike :
    Session.IsBond (fun reg' reg => reg'.inOrder = reg.inOrder)
      (Session.Alike : Session σ → Session σ → Prop) where
  like := Registry.isLikeness_inOrder
  registry tied := tied.registry
  draws tied := tied.draws
  change tied _ _ _ same := ⟨same, tied.store, rfl, tied.delays, tied.journal⟩
  note tied _ _ :=
    ⟨tied.registry, tied.store, tied.draws, tied.delays, congrArg (· ++ _) tied.journal⟩

namespace Task

variable {s' s : Session σ}

/-- A task that never quits ends on a session as it does on another. -/
theorem Follows.exists_ends {t : Task σ α} {R : Session σ → Session σ → Prop}
    (follows : Task.Follows R (fun _ => False) t t s' s) {r : Except Fault α} {u' : Session σ}
    (ends : t.Ends s' r u') : ∃ u, t.Ends s r u ∧ R u' u := by
  rcases follows r u' ends with ⟨f, -, never⟩ | ended
  · exact never.elim
  · exact ended

/-- An operation of a store goes alike on sessions that have the same store. -/
theorem follows_throughStore {Quits : Fault → Prop} (tied : s'.Alike s) (c : Client) (what : String)
    (operation : σ → Reply σ α) :
    Follows Session.Alike Quits (throughStore c what operation) (throughStore c what operation)
      s' s := by
  have bond := Session.isBond_alike (σ := σ)
  unfold throughStore
  refine follows_get_bind ?_
  rw [tied.store, tied.delays]
  extract_lets attempt
  generalize c.policy.run c.share attempt { state := (s.store, []) } = answer
  obtain ⟨result, account⟩ := answer
  refine follows_bind (follows_set ⟨tied.registry, rfl, tied.draws, rfl, tied.journal⟩)
    fun _ _ _ tied => ?_
  refine follows_bind (follows_note bond tied c _) fun _ _ _ tied => ?_
  cases result with
  | ok a => exact follows_pure tied a
  | error f =>
    cases f with
    | exhausted attempts last =>
      exact follows_bind (follows_note bond tied c _) fun _ _ _ tied => follows_throw tied _
    | _ => exact follows_throw tied _

end Task

/-- A store follows itself on sessions that are alike. -/
theorem ContentStore.follows_self (store : ContentStore σ) (c : Client) {Quits : Fault → Prop} :
    store.Follows Session.Alike Quits c.policy c store where
  put _ _ what _ _ tied := Task.follows_throughStore tied _ what _
  putDocument _ _ what _ _ tied := Task.follows_throughStore tied _ what _
  get _ _ what _ _ tied := Task.follows_throughStore tied _ what _
  getDocument _ _ what _ _ tied := Task.follows_throughStore tied _ what _

namespace Client

variable {s' s : Session σ} (c : Client) (store : ContentStore σ)

/-- Creating an object goes alike on sessions that are alike. -/
theorem follows_create_self (tied : s'.Alike s) (intent : Intent) :
    Task.Follows Session.Alike (fun _ => False) (c.create store intent) (c.create store intent)
      s' s :=
  follows_create Session.isBond_alike (store.follows_self c) tied intent

/-- Accessing an object goes alike on sessions that are alike. -/
theorem follows_access_self (tied : s'.Alike s) (link action : Document) (context : Given Bytes) :
    Task.Follows Session.Alike (fun _ => False) (c.access store link action context)
      (c.access store link action context) s' s := by
  unfold access
  exact Task.follows_bind (Task.follows_ofExcept tied _) fun link _ _ tied =>
    follows_accessThrough Session.isBond_alike (store.follows_self c) tied link action context

end Client

/-! ## Registries that go on to be read back -/

/-- The rules of a sheet are typed. -/
theorem RuleSheet.isTyped_of_toCompact {sheet : RuleSheet} {rules : CompactRules}
    (made : sheet.toCompact = .ok rules) : rules.IsTyped := by
  unfold toCompact at made
  split at made
  · cases made
    exact ⟨⟨rfl, rfl⟩, ⟨_, rfl⟩, ⟨_, rfl⟩, ⟨_, rfl⟩, ⟨_, rfl⟩, ⟨_, rfl⟩, ⟨_, rfl⟩, ⟨_, rfl⟩⟩
  · cases made

namespace Client

variable {c : Client} {store : ContentStore σ} {s s' : Session σ}
  (scalar : c.surroundings.correlation.isScalar = true)

theorem isPaged_of_calls {t : Task σ α}
    (calls : t.Calls fun reg _ reg' => reg.IsPaged → reg'.IsPaged) {r : Except Fault α}
    (ends : t.Ends s r s') (paged : s.registry.IsPaged) : s'.registry.IsPaged := by
  rcases calls s r s' ends with called | ⟨-, same⟩
  · exact called paged
  · rw [same]
    exact paged

include scalar

/-- Creating an object leaves a registry that can be read back from a page, if it was one. -/
theorem isPaged_create {intent : Intent} {r : Except Fault CreatedObject}
    (ends : (c.create store intent).Ends s r s') (paged : s.registry.IsPaged) :
    s'.registry.IsPaged := by
  refine isPaged_of_calls (c.calls_create_of store intent ?_) ends paged
  intro draws sheet rules m kind ruled given
  apply Task.calls_mint
  intro reg drawn paged
  have correlation := c.surroundings.isScalar_correlate scalar draws
  have typed : Registry.Step.IsTyped
      ⟨(c.within (c.surroundings.correlate draws).1).surroundings, .create m⟩ := by
    refine ⟨fun m' rules' same given' => ?_, Document.distinct_of_isScalar correlation⟩
    cases same
    cases given.symm.trans given'
    exact RuleSheet.isTyped_of_toCompact ruled
  have before : (Registry.State.mk drawn reg).registry.IsPaged := paged
  exact Registry.State.isPaged_step before typed correlation

/-- Accessing an object leaves a registry that can be read back from a page, if it was one. -/
theorem isPaged_access {link action : Document} {context : Given Bytes}
    {r : Except Fault AccessResult} (ends : (c.access store link action context).Ends s r s')
    (paged : s.registry.IsPaged) : s'.registry.IsPaged := by
  refine isPaged_of_calls ((Task.isStill_ofExcept _).isAside.bind_calls fun link =>
    c.calls_accessThrough_of store link action context ?_) ends paged
  intro draws id action context actor
  apply Task.calls_request
  intro reg drawn paged
  have correlation := c.surroundings.isScalar_correlate scalar draws
  have typed : Registry.Step.IsTyped ⟨(c.within (c.surroundings.correlate draws).1).surroundings,
      .request id action context actor⟩ :=
    Registry.Step.isTyped_request (Document.distinct_of_isScalar correlation) ..
  have before : (Registry.State.mk drawn reg).registry.IsPaged := paged
  exact Registry.State.isPaged_step before typed correlation

end Client

end RuleBound
