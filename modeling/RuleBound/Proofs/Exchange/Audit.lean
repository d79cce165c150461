import RuleBound.Proofs.Exchange.Delivery

/-!
Disclosure and audit. Whatever the registry, the store and the link, an access appends at most one
event to the log. If it is answered, it appends exactly one, which tells of the answer; and if the
answer is a refusal, the store was asked for the metadata alone. Content that was fetched but cannot
be opened has been allowed, and the log tells so.
-/

namespace RuleBound

variable {σ : Type}

/-- A watched store was asked for nothing but a pointer if only that has led to where it is. -/
theorem asked_of_leads {store : ContentStore σ} {st : σ} {st' : σ × List Query}
    {pointer : Document} (leads : Reply.Leads (store.watched.get · pointer) (st, []) st') :
    ∀ q ∈ st'.2, q = .get pointer := by
  refine leads.keeps (P := fun st => ∀ q ∈ st.2, q = .get pointer) (fun st known q mem => ?_)
    (by simp)
  rcases List.mem_append.mp mem with mem | mem
  · exact known q mem
  · exact List.mem_singleton.mp mem

theorem ContentStore.IsPlain.watched {store : ContentStore σ} (plain : store.IsPlain) :
    store.watched.IsPlain :=
  fun st pointer => plain st.1 pointer

/-- What an access asks for: an object that its link names, an action, and a context. -/
structure IsAsked (link : Given CapabilityLink) (action : Document) (context : Given Bytes)
    (id : Int) (a : Action) (bytes : Bytes) : Prop where
  link : ∃ l, CapabilityLink.ofGiven link = .ok l ∧ l.objectId = .integer id
  action : Action.ofDocument action = .ok a
  context : Client.contextBytes context = .ok bytes

/-- An access appends at most one event. If it is answered, it appends one that tells of the answer
under the reference that was answered, and after a refusal nothing was asked of the store but the
metadata. If content cannot be opened, it appends one that tells that the access was allowed. -/
theorem access_audited {store : ContentStore σ} (plain : store.IsPlain) {c : Client}
    {s : Session σ} (keyed : s.registry.IsKeyed) {link : Given CapabilityLink} {action : Document}
    {context : Given Bytes} {r : Except Fault AccessResult} {s' : Session (σ × List Query)}
    (ends : (c.accessGiven store.watched link action context).Ends s.watched r s') :
    (c.accessGiven store link action context).Ends s r (s'.view Prod.fst) ∧
    ∃ told, s'.registry.log.records = s.registry.log.records ++ told ∧ told.length ≤ 1 ∧
      (∀ result, r = .ok result → ∃ bytes record l, told = [l] ∧
        IsAsked link action context result.objectId result.action bytes ∧
        s.registry.record? result.objectId = some record ∧
        (result.allowed = true →
          l.Tells (.allowed (.integer result.objectId) (.text c.identity)
            (.integer result.action.number) (.text (result.action.digest bytes)))
            result.reference) ∧
        (result.allowed = false →
          l.Tells (.refused (.integer result.objectId) (.text c.identity)
            (.integer result.action.number) record.rulesHash (.text result.reason))
            result.reference ∧
          result.content = none ∧ ∀ q ∈ s'.store.2, q = .get record.pointer)) ∧
      (∀ f, r = .error (.sealed f) → ∃ id a bytes l reference, told = [l] ∧
        IsAsked link action context id a bytes ∧
        l.Tells (.allowed (.integer id) (.text c.identity) (.integer a.number)
          (.text (a.digest bytes))) reference) := by
  have mirrored : (c.accessGiven store link action context).Ends s r (s'.view Prod.fst) := by
    cases link with
    | member link => exact c.mirrors_accessThrough store link action context r s' ends
    | other d =>
      exact Task.mirrors_bind (Task.mirrors_ofExcept (CapabilityLink.parse d))
        (fun link _ => c.mirrors_accessThrough store link action context) r s' ends
  refine ⟨mirrored, ?_⟩
  rcases Client.ends_accessGiven (s := s.watched) keyed ends with
    undecided | ⟨l, a, bytes, o, record, told, read, named, given, objectId, audited⟩
  · obtain ⟨f, rfl⟩ := undecided.fails
    refine ⟨[], by rw [undecided.log]; simp, by simp, fun result same => (by cases same),
      fun g same => absurd same (undecided.unopened plain.watched g)⟩
  have asked : IsAsked link action context o.objectId a bytes := ⟨⟨l, read, objectId⟩, named, given⟩
  have tells := audited.tells
  refine ⟨[told], audited.log, by simp, fun result same => ?_, fun f same => ?_⟩
  · cases verdict : o.refusal with
    | some why =>
      obtain ⟨answer, leads⟩ := audited.refused why verdict
      rw [verdict] at tells
      cases answer.symm.trans same
      exact ⟨bytes, record, told, rfl, asked, audited.found, fun allowed => (by cases allowed),
        fun _ => ⟨tells, rfl, asked_of_leads leads⟩⟩
    | none =>
      rw [verdict] at tells
      rcases audited.allowed verdict with ⟨content, answer⟩ | ⟨g, answer⟩
      · cases answer.symm.trans same
        exact ⟨bytes, record, told, rfl, asked, audited.found, fun _ => tells,
          fun refused => by cases refused⟩
      · cases answer.symm.trans same
  · cases verdict : o.refusal with
    | some why => cases (audited.refused why verdict).1.symm.trans same
    | none =>
      rw [verdict] at tells
      exact ⟨o.objectId, a, bytes, told, o.reference, rfl, asked, tells⟩

open Rehearsal

/-- Records stay under their identifiers whatever deeds are done. -/
theorem Registry.IsKeyed.leads {reg reg' : Registry} (keyed : reg.IsKeyed)
    (leads : Registry.Leads reg reg') : reg'.IsKeyed := by
  induction leads with
  | refl => exact keyed
  | tail _ next ih =>
    obtain ⟨d, happens⟩ := next
    exact ih.happens happens

/-- A note that is read is told of, once, as an allowed access. -/
theorem access_audited_hi :
    ∃ o s result s', ((client "http://h" "alice").create MemoryStore.store (.note "hi")).Ends
        (opening {}) (.ok o) s ∧
      ((client "http://h" "bob").accessGiven MemoryStore.store.watched (.other (.text o.link))
        (.text "READ") (.member [])).Ends s.watched (.ok result) s' ∧
      result.allowed = true ∧ ∃ bytes l,
        s'.registry.log.records = s.registry.log.records ++ [l] ∧
        l.Tells (.allowed (.integer result.objectId) (.text "bob") (.integer result.action.number)
          (.text (result.action.digest bytes))) result.reference := by
  obtain ⟨o, s, created, faithful, -⟩ := exists_ends_create_hi
  have bob : Text.isBlankText "bob" = false := by decide
  have bob' : Text.IsWhole "bob" := by decide
  obtain ⟨result, t, ends, allowed, -⟩ := exists_ends_read_note (s := opening ({} : MemoryStore))
    .memory MemoryStore.isOwn_empty (by decide) isOrigin_http (by decide) created faithful
    (List.forall_mem_nil _) "http://h" bob bob'
  have keyed : s.registry.IsKeyed := Registry.isKeyed_empty.leads
    (Client.isLawful_create _ _ _ _ _ _ created).registry
  obtain ⟨r, s', watched⟩ := Task.exists_ends ((client "http://h" "bob").accessGiven
    MemoryStore.store.watched (.other (.text o.link)) (.text "READ") (.member [])) s.watched
  obtain ⟨mirrored, told, log, -, tells, -⟩ := access_audited MemoryStore.isPlain_store keyed watched
  cases (ends.unique mirrored).1
  obtain ⟨bytes, record, l, rfl, -, -, audited, -⟩ := tells result rfl
  exact ⟨o, s, result, s', created, watched, allowed, bytes, l, log, audited allowed⟩

end RuleBound
