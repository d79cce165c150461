import RuleBound.Proofs.Exchange.Footprint
import RuleBound.Proofs.Exchange.Transparency
import RuleBound.Proofs.Validation.Ready

/-!
Exchanges are steady. On a regular registry an exchange over a guarded store, by a client whose delays
can be told, fails for foreseen reasons only and leaves a regular registry, however it ends.
-/

namespace RuleBound

variable {σ α β : Type}

/-! ## Attempts -/

/-- Attempts of which each fails for foreseen reasons do so together, or have used themselves up. -/
theorem RetryPolicy.IsMeasured.guarded_runFrom {p : RetryPolicy} {share : Document}
    (measured : p.IsMeasured share) {action : σ → Except Fault α × σ}
    (each : ∀ st, Guarded (action st).1) {more attempt : Nat} (first : 1 ≤ attempt)
    (bound : attempt + more ≤ 1000) {account left : RetryAccount σ} {spent : Binary64}
    (waited : account.metrics.delay = .real spent) {run : Except Fault α}
    (ran : p.runFrom share action more attempt account = (run, left)) :
    Guarded run ∨ ∃ attempts last, run = .error (.exhausted attempts last) := by
  induction more using Nat.strong_induction_on generalizing attempt account spent with
  | _ more ih =>
  cases tried : action account.state with
  | mk r st =>
  by_cases last : ∀ f, r = .error f → p.mayPass f = false
  · have answer := each account.state
    rw [tried] at answer
    rw [(eq_of_last ran tried last).1]
    exact .inl answer
  simp only [not_forall, Bool.not_eq_false] at last
  obtain ⟨f, rfl, passes⟩ := last
  cases more with
  | zero => exact .inr ⟨_, _, eq_exhausted_of_passing ran tried passes⟩
  | succ more =>
    obtain ⟨next, total, -, waited, ran⟩ :=
      measured.exists_next ran waited tried passes first bound
    exact ih more (by omega) (by omega) (by omega) waited ran

/-- Whether a client makes a whole number of attempts that is not too great, with delays that can be
told. -/
structure Client.IsPatient (c : Client) : Prop where
  count : ∃ n, c.policy.attemptCount = .ok n ∧ n ≤ 1000
  measured : c.policy.IsMeasured c.share

theorem Client.IsPatient.within {c : Client} (patient : c.IsPatient) (correlation : Document) :
    (c.within correlation).IsPatient :=
  ⟨patient.count, patient.measured⟩

namespace Task

/-- Whether a task that is started on a regular registry fails for foreseen reasons only and leaves
a regular one. -/
def IsSteady (t : Task σ α) : Prop :=
  ∀ s r s', t.Ends s r s' → s.registry.IsRegular → s'.registry.IsRegular ∧ Guarded r

theorem IsSteady.bind {t : Task σ α} {f : α → Task σ β} (first : t.IsSteady)
    (rest : ∀ a, (f a).IsSteady) : (t >>= f).IsSteady := by
  intro s r s' ends regular
  rcases ends_bind_iff.mp ends with ⟨a, u, answers, ends⟩ | ⟨e, fails, rfl⟩
  · exact rest a u r s' ends (first s _ u answers regular).1
  · obtain ⟨regular, guarded⟩ := first s _ s' fails regular
    exact ⟨regular, failsBy_error (guarded.reason e rfl)⟩

/-- A task that leaves the registry is steady if it fails for foreseen reasons only. -/
theorem IsAside.isSteady {t : Task σ α} (aside : t.IsAside)
    (guarded : ∀ s r s', t.Ends s r s' → Guarded r) : t.IsSteady := by
  intro s r s' ends regular
  rw [aside s r s' ends]
  exact ⟨regular, guarded s r s' ends⟩

theorem isSteady_pure (a : α) : (pure a : Task σ α).IsSteady :=
  (isStill_pure a).isAside.isSteady fun _ _ _ ends => (ends_pure_iff.mp ends).1 ▸ failsBy_ok a

theorem isSteady_throw {e : Fault} (foreseen : e.isForeseen = true) :
    (throw e : Task σ α).IsSteady := by
  intro s r s' ends regular
  obtain ⟨rfl, rfl⟩ := ends_throw_iff.mp ends
  exact ⟨regular, failsBy_error foreseen⟩

theorem isSteady_throw_bind {e : Fault} {f : α → Task σ β} (foreseen : e.isForeseen = true) :
    (throw e >>= f).IsSteady := by
  intro s r s' ends regular
  obtain ⟨rfl, rfl⟩ := ends_throw_bind_iff.mp ends
  exact ⟨regular, failsBy_error foreseen⟩

theorem isSteady_ofExcept {x : Except Fault α} (guarded : Guarded x) :
    (ofExcept x : Task σ α).IsSteady :=
  (isStill_ofExcept x).isAside.isSteady fun _ _ _ ends => (ends_ofExcept_iff.mp ends).1 ▸ guarded

/-- What is known may be used by what comes next. -/
theorem isSteady_ofExcept_bind {x : Except Fault α} {f : α → Task σ β} (guarded : Guarded x)
    (rest : ∀ a, x = .ok a → (f a).IsSteady) : (ofExcept x >>= f).IsSteady := by
  intro s r s' ends regular
  rcases ends_ofExcept_bind_iff.mp ends with ⟨a, known, ends⟩ | ⟨e, failed, rfl, rfl⟩
  · exact rest a known s r s' ends regular
  · exact ⟨regular, failsBy_error (guarded.reason e failed)⟩

theorem isSteady_get_bind {f : Session σ → Task σ α}
    (rest : ∀ s, s.registry.IsRegular → (f s).IsSteady) : (get >>= f).IsSteady := by
  intro s r s' ends regular
  exact rest s regular s r s' (ends_get_bind_iff.mp ends) regular

theorem isSteady_note (c : Client) (notes : List Note) : (note c notes : Task σ Unit).IsSteady :=
  (isStill_note c notes).isAside.isSteady fun _ _ _ ends =>
    (ends_note_iff.mp ends).1 ▸ failsBy_ok ()

theorem isSteady_correlate (c : Client) : (correlate c : Task σ Document).IsSteady :=
  (isAside_correlate c).isSteady fun _ _ _ ends => (ends_correlate_iff.mp ends).1 ▸ failsBy_ok _

theorem isSteady_drawKey (c : Client) : (drawKey c : Task σ ContentKey).IsSteady :=
  (isAside_drawKey c).isSteady fun _ _ _ ends => (ends_drawKey_iff.mp ends).1 ▸ failsBy_ok _

theorem isSteady_drawNonce (c : Client) : (drawNonce c : Task σ Bytes).IsSteady :=
  (isAside_drawNonce c).isSteady fun _ _ _ ends => (ends_drawNonce_iff.mp ends).1 ▸ failsBy_ok _

theorem isSteady_sealContent (c : Client) (key : ContentKey) (content : Bytes) :
    (sealContent c key (.bytes content) : Task σ (Bytes × String)).IsSteady := by
  unfold sealContent
  extract_lets seal'
  dsimp only
  rw [pure_bind]
  exact (isSteady_drawNonce c).bind fun nonce => (isSteady_note c _).bind fun _ => isSteady_pure _

theorem isSteady_openContent (c : Client) (key : ContentKey) (content : Sealed) :
    (openContent c key content : Task σ Bytes).IsSteady := by
  refine (isStill_openContent c key content).isAside.isSteady fun s r s' ends => ?_
  rw [(ends_openContent ends).1]
  cases key.unseal content with
  | ok opened => exact failsBy_ok opened
  | error f => exact failsBy_error rfl

/-- A patient client's store operations fail for foreseen reasons only, if each attempt does. -/
theorem isSteady_throughStore {c : Client} (patient : c.IsPatient) (what : String)
    {operation : σ → Reply σ α} (each : ∀ st, Guarded (operation st).result) :
    (throughStore c what operation).IsSteady := by
  refine (isStill_throughStore c what operation).isAside.isSteady fun s r s' ends => ?_
  obtain ⟨n, count, few⟩ := patient.count
  cases tried : c.policy.run c.share (attemptAt operation) { state := (s.store, []) } with
  | mk run left =>
  obtain ⟨-, -, -, ⟨rfl, lasting⟩ | ⟨attempts, last, -, rfl⟩⟩ := ends_throughStore_run ends tried
  · rw [RetryPolicy.run, count] at tried
    rcases patient.measured.guarded_runFrom (fun st => each st.1) (by omega) (by omega) rfl tried
      with guarded | ⟨attempts, last, spent⟩
    · exact guarded
    · exact absurd spent (lasting attempts last)
  · exact failsBy_error rfl

theorem isSteady_mint (c : Client) {m : MintRequest} (fine : m.IsPresentable) (kind : ObjectKind) :
    (mint c m kind : Task σ Int).IsSteady := by
  intro s r s' ends regular
  obtain ⟨-, answer, created, rfl⟩ := ends_mint ends
  have left := regular.create c.surroundings s.draws fine
  rw [created] at left
  exact ⟨left.1, left.2.map _⟩

theorem isSteady_request (c : Client) (id action : Document) (context : Given Bytes)
    (actor : Document) : (request c id action context actor : Task σ Outcome).IsSteady := by
  intro s r s' ends regular
  obtain ⟨-, requested⟩ := ends_request ends
  have left := regular.request c.surroundings s.draws id action context actor
  rw [requested] at left
  exact left

end Task

/-! ## Links and metadata -/

theorem Web.guarded_split (text : String) : Guarded (Web.split text) := by
  have host : ∀ cs, Guarded (Web.splitHost cs) := by
    intro cs
    unfold Web.splitHost
    split
    · extract_lets host
      split
      · exact failsBy_error rfl
      · exact failsBy_ok _
    · exact failsBy_ok _
  unfold Web.split
  extract_lets cs kept
  refine (host _).bind fun parts _ => ?_
  dsimp only
  split
  · exact failsBy_error rfl
  · exact failsBy_ok _

theorem CapabilityLink.guarded_parse (text : String) :
    Guarded (CapabilityLink.parse (.text text)) := by
  change Guarded (CapabilityLink.parseText text)
  unfold CapabilityLink.parseText
  extract_lets cs base fragment rest
  split
  · exact failsBy_error rfl
  refine (Web.guarded_split _).bind fun a _ => ?_
  dsimp only
  split
  · exact failsBy_error rfl
  have numbered : ∀ segment, Guarded (CapabilityLink.objectIdOf segment) := by
    intro segment
    unfold CapabilityLink.objectIdOf
    split
    · exact failsBy_ok _
    · split
      · exact failsBy_error rfl
      · exact failsBy_ok _
  refine (numbered _).bind fun id? _ => ?_
  split
  · exact failsBy_error rfl
  · split
    · exact failsBy_error rfl
    · exact failsBy_ok _

theorem Metadata.guarded_ofDocument (d : Document) : Guarded (Metadata.ofDocument d) := by
  unfold Metadata.ofDocument
  split
  · exact failsBy_ok _
  · exact failsBy_error rfl

/-! ## Exchanges -/

namespace Client

open RuleBound.Task

variable {c : Client} {store : ContentStore σ}

theorem isSteady_createWithin (patient : c.IsPatient) (guarded : store.IsGuarded) {intent : Intent}
    (ready : intent.IsReady) : (c.createWithin store intent).IsSteady := by
  refine isSteady_ofExcept_bind ready.review fun _ _ => ?_
  refine isSteady_ofExcept_bind (ready.compile _) fun compiled compiles => ?_
  refine (isSteady_note c _).bind fun _ => ?_
  refine (isSteady_drawKey c).bind fun key => ?_
  refine isSteady_ofExcept_bind ready.content fun content given => ?_
  obtain ⟨bytes, rfl⟩ := ready.bytes content given
  refine (isSteady_sealContent c key bytes).bind fun ciphertext => ?_
  refine (isSteady_throughStore patient _ fun st => guarded.put st _).bind fun contentPointer => ?_
  refine (isSteady_throughStore patient _ fun st => guarded.putDocument st _).bind
    fun metadataPointer => ?_
  obtain ⟨rules, made, typed, current⟩ := ready.rules _ compiled compiles
  rw [made]
  exact (isSteady_mint c ⟨ready.kind, ⟨rules, rfl, typed, current⟩, ready.whitelist⟩ _).bind
    fun id => isSteady_pure _

/-- Creating an object from a ready intent is steady. -/
theorem isSteady_create (patient : c.IsPatient) (guarded : store.IsGuarded) {intent : Intent}
    (ready : intent.IsReady) : (c.create store intent).IsSteady :=
  (isSteady_correlate c).bind fun correlation =>
    (isSteady_createWithin (patient.within correlation) guarded ready).bind fun _ =>
      (isSteady_note c _).bind fun _ => isSteady_pure _

theorem isSteady_accessWithin (patient : c.IsPatient) (guarded : store.IsGuarded)
    (link : CapabilityLink) (action : Action) (context : Bytes) :
    (c.accessWithin store link action (.member context)).IsSteady := by
  refine isSteady_get_bind fun s regular => ?_
  refine isSteady_ofExcept_bind (s.registry.guarded_find _) fun found finds => ?_
  obtain ⟨pointer, is⟩ := (regular.of_find finds).made.exists_pointer
  dsimp only
  rw [is]
  refine IsSteady.bind (t := c.fetchMetadata store (.text pointer)) ?_ fun metadata => ?_
  · exact (isSteady_throughStore patient _ fun st => guarded.getDocument st pointer).bind
      fun d => isSteady_ofExcept (Metadata.guarded_ofDocument d)
  by_cases differ : Document.text metadata.rulesHash ≠ found.2.rulesHash
  · rw [if_pos differ]
    exact isSteady_throw_bind rfl
  rw [if_neg differ]
  refine isSteady_ofExcept_bind (failsBy_ok _) fun bytes _ => ?_
  refine (isSteady_request c _ _ _ _).bind fun outcome => ?_
  cases outcome.allowed with
  | false => exact (isSteady_note c _).bind fun _ => isSteady_pure _
  | true =>
    exact (isSteady_throughStore patient _ fun st => guarded.get st _).bind fun ciphertext =>
      (isSteady_openContent c _ _).bind fun content => isSteady_pure _

/-- Accessing an object through a text is steady. -/
theorem isSteady_access (patient : c.IsPatient) (guarded : store.IsGuarded) (link : String)
    (action : Document) (context : Bytes) :
    (c.access store (.text link) action (.member context)).IsSteady := by
  refine isSteady_ofExcept_bind (CapabilityLink.guarded_parse link) fun link _ => ?_
  refine isSteady_ofExcept_bind (Registry.guarded_actionOfDocument action) fun action _ => ?_
  refine (isSteady_correlate c).bind fun correlation => ?_
  refine (isSteady_accessWithin (patient.within correlation) guarded link action context).bind
    fun result => ?_
  cases result.allowed with
  | false => exact isSteady_pure _
  | true => exact (isSteady_note c _).bind fun _ => isSteady_pure _

end Client

end RuleBound
