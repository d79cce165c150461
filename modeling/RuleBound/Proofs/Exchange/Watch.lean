import RuleBound.Proofs.Exchange.Lockstep
import RuleBound.Proofs.Retry

/-!
Watching a store. A watched store does what the store does and keeps, beside its state, all that it
has been asked. An access notices nothing of that: it ends over the watched store as it does over
the store, in a session that is the same but for what was asked.
-/

namespace RuleBound

variable {σ τ α β : Type}

/-- What a store is asked. -/
inductive Query
  | put (content : Bytes)
  | get (pointer : Document)
  deriving DecidableEq

/-- A store that keeps all that it has been asked. -/
def ContentStore.watched (store : ContentStore σ) : ContentStore (σ × List Query) where
  put s content :=
    let r := store.put s.1 content
    ⟨r.result, (r.state, s.2 ++ [.put content]), r.notes⟩
  get s pointer :=
    let r := store.get s.1 pointer
    ⟨r.result, (r.state, s.2 ++ [.get pointer]), r.notes⟩

namespace Session

/-- A session that sees a part of its store. -/
def view (part : τ → σ) (s : Session τ) : Session σ :=
  ⟨s.registry, part s.store, s.draws, s.delays, s.journal⟩

/-- A session whose store has not been asked anything yet. -/
def watched (s : Session σ) : Session (σ × List Query) :=
  ⟨s.registry, (s.store, []), s.draws, s.delays, s.journal⟩

@[simp] theorem registry_watched (s : Session σ) : s.watched.registry = s.registry := rfl

@[simp] theorem store_watched (s : Session σ) : s.watched.store = (s.store, []) := rfl

@[simp] theorem view_watched (s : Session σ) : s.watched.view Prod.fst = s := rfl

end Session

/-! ## Operations that see a part of the state -/

/-- Whether an operation on a state does what another does on a part of it. -/
structure Reply.Mirrors (part : τ → σ) (operation' : τ → Reply τ α) (operation : σ → Reply σ α) :
    Prop where
  result : ∀ s, (operation' s).result = (operation (part s)).result
  state : ∀ s, part (operation' s).state = (operation (part s)).state
  notes : ∀ s, (operation' s).notes = (operation (part s)).notes

/-- An account that sees a part of its state. -/
def RetryAccount.view (part : τ → σ) (account : RetryAccount τ) : RetryAccount σ :=
  ⟨part account.state, account.metrics, account.pauses⟩

section Retry

variable {part : τ → σ} {action' : τ → Except Fault α × τ} {action : σ → Except Fault α × σ}

theorem RetryPolicy.runFrom_view (p : RetryPolicy) (share : Document)
    (each : ∀ s, action (part s) = ((action' s).1, part (action' s).2)) (more attempt : Nat)
    (account : RetryAccount τ) :
    p.runFrom share action more attempt (account.view part) =
      ((p.runFrom share action' more attempt account).1,
        (p.runFrom share action' more attempt account).2.view part) := by
  induction more generalizing attempt account with
  | zero =>
    have seen := each account.state
    rcases tried : action' account.state with ⟨result, state⟩
    rw [tried] at seen
    unfold runFrom
    cases result with
    | ok a => simp only [RetryAccount.view, seen, tried]
    | error f =>
      simp only [RetryAccount.view, seen, tried]
      split <;> rfl
  | succ more ih =>
    have seen := each account.state
    rcases tried : action' account.state with ⟨result, state⟩
    rw [tried] at seen
    unfold runFrom
    cases result with
    | ok a => simp only [RetryAccount.view, seen, tried]
    | error f =>
      simp only [RetryAccount.view, seen, tried]
      split
      · rfl
      · split
        · rfl
        · exact ih (attempt + 1) ⟨state, _, _⟩

theorem RetryPolicy.run_view (p : RetryPolicy) (share : Document)
    (each : ∀ s, action (part s) = ((action' s).1, part (action' s).2))
    (account : RetryAccount τ) :
    p.run share action (account.view part) =
      ((p.run share action' account).1, (p.run share action' account).2.view part) := by
  unfold run
  split
  · rfl
  · exact p.runFrom_view share each _ _ account

end Retry

/-! ## Tasks that see a part of the store -/

/-- Whether one session is what another sees through a part of its store. -/
def Session.Sees (part : τ → σ) (s' : Session τ) (s : Session σ) : Prop := s'.view part = s

theorem Session.isBond_sees (part : τ → σ) : Session.IsBond Eq (Session.Sees part) where
  like := Registry.isLikeness_eq
  registry := by
    rintro s' s rfl
    rfl
  draws := by
    rintro s' s rfl
    rfl
  change := by
    rintro s' s rfl draws registry _ rfl
    rfl
  note := by
    rintro s' s rfl c notes
    rfl

/-- Whether a task that is started on a session does what another does on the part that it sees. -/
def Task.Mirrors (part : τ → σ) (t' : Task τ α) (t : Task σ α) (s : Session τ) : Prop :=
  ∀ r s', t'.Ends s r s' → t.Ends (s.view part) r (s'.view part)

namespace Task

variable {part : τ → σ} {s : Session τ} {c : Client}

/-- A task that follows another across what is seen, and never quits, does what the other does. -/
theorem Follows.mirrors {t' : Task τ α} {t : Task σ α}
    (follows : Follows (Session.Sees part) (fun _ => False) t' t s (s.view part)) :
    Mirrors part t' t s := by
  intro r s' ends
  rcases follows r s' ends with ⟨f, -, quits⟩ | ⟨u, ends, rfl⟩
  · exact quits.elim
  · exact ends

theorem mirrors_bind {t' : Task τ α} {t : Task σ α} {f' : α → Task τ β} {f : α → Task σ β}
    (first : Mirrors part t' t s) (rest : ∀ a u, Mirrors part (f' a) (f a) u) :
    Mirrors part (t' >>= f') (t >>= f) s := by
  intro r s' ends
  rcases ends_bind_iff.mp ends with ⟨a, u, answers, ends⟩ | ⟨e, fails, rfl⟩
  · exact (first _ _ answers).bind (rest a u r s' ends)
  · exact ends_bind_iff.mpr (.inr ⟨e, first _ _ fails, rfl⟩)

theorem mirrors_ofExcept (x : Except Fault α) : Mirrors part (ofExcept x) (ofExcept x) s :=
  Follows.mirrors (follows_ofExcept (R := Session.Sees part) rfl x)

end Task

/-- Operations that see a part of a state follow the operations on that part. -/
theorem Reply.Mirrors.follows {part : τ → σ} {operation' : τ → Reply τ α}
    {operation : σ → Reply σ α} (mirrors : Mirrors part operation' operation) (c : Client) :
    Reply.Follows (Session.Sees part) (fun _ => False) c.policy c operation'
      operation := by
  rintro correlation what s _ rfl
  change Task.Follows _ _ (Task.throughStore (c.within correlation) what operation')
    (Task.throughStore (c.within correlation) what operation) s (s.view part)
  have bond := Session.isBond_sees part
  generalize c.within correlation = c
  refine Task.follows_get_bind ?_
  extract_lets attempt' attempt
  have each : ∀ st, attempt (part st.1, st.2) =
      ((attempt' st).1, (part (attempt' st).2.1, (attempt' st).2.2)) := fun st => by
    simp only [attempt, attempt', mirrors.result, mirrors.state, mirrors.notes]
  have ran := c.policy.run_view c.share each ⟨(s.store, []), {}, []⟩
  change c.policy.run c.share attempt ⟨((s.view part).store, []), {}, []⟩ = _ at ran
  rw [ran]
  generalize c.policy.run c.share attempt' ⟨(s.store, []), {}, []⟩ = answer
  obtain ⟨result, account⟩ := answer
  refine Task.follows_bind (Task.follows_set rfl) fun _ _ _ tied =>
    Task.follows_bind (Task.follows_note bond tied c _) fun _ _ _ tied => ?_
  dsimp only
  split
  · exact Task.follows_pure tied _
  · exact Task.follows_bind (Task.follows_note bond tied c _) fun _ _ _ tied =>
      Task.follows_throw tied _
  · exact Task.follows_throw tied _

/-- A watched store does what the store does. -/
theorem ContentStore.follows_watched (store : ContentStore σ) (c : Client) :
    store.watched.Follows (Session.Sees Prod.fst) (fun _ => False) c.policy c store := by
  constructor <;> (intro given; refine Reply.Mirrors.follows ?_ c)
  case putDocument =>
    unfold putDocument
    cases given.canonical with
    | error f => exact ⟨fun _ => rfl, fun _ => rfl, fun _ => rfl⟩
    | ok text => exact ⟨fun _ => rfl, fun _ => rfl, fun _ => rfl⟩
  all_goals exact ⟨fun _ => rfl, fun _ => rfl, fun _ => rfl⟩

namespace Client

variable (c : Client) (store : ContentStore σ) {s : Session (σ × List Query)}

theorem mirrors_accessThrough (link : CapabilityLink) (action : Document) (context : Given Bytes) :
    Task.Mirrors Prod.fst (c.accessThrough store.watched link action context)
      (c.accessThrough store link action context) s :=
  (follows_accessThrough (Session.isBond_sees Prod.fst) (store.follows_watched c) rfl link action
    context).mirrors

theorem mirrors_create (intent : Intent) :
    Task.Mirrors Prod.fst (c.create store.watched intent) (c.create store intent) s :=
  (follows_create (Session.isBond_sees Prod.fst) (store.follows_watched c) rfl intent).mirrors

/-- Creating an object over a store ends as it does over the watched store. -/
theorem exists_watched_of_create {c : Client} {store : ContentStore σ} {intent : Intent}
    {s s' : Session σ} {r : Except Fault CreatedObject}
    (ends : (c.create store intent).Ends s r s') :
    ∃ w, (c.create store.watched intent).Ends s.watched r w ∧ w.view Prod.fst = s' := by
  obtain ⟨r', w, watched⟩ := Task.exists_ends (c.create store.watched intent) s.watched
  have mirrored := c.mirrors_create store intent r' w watched
  rw [Session.view_watched] at mirrored
  obtain ⟨same, left⟩ := ends.unique mirrored
  exact ⟨w, same ▸ watched, left.symm⟩

/-- Whether creating an object puts some content into the store. -/
def Puts (c : Client) (store : ContentStore σ) (intent : Intent) (s : Session σ) (content : Bytes) :
    Prop :=
  ∃ r w, (c.create store.watched intent).Ends s.watched r w ∧ Query.put content ∈ w.store.2

end Client

end RuleBound
