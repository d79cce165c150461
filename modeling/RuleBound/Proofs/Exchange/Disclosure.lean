import RuleBound.Proofs.Exchange.Opening
import RuleBound.Proofs.Exchange.Watch
import RuleBound.Proofs.Registry.Keyed
import RuleBound.Store.File
import RuleBound.Store.Pinned
import RuleBound.Store.Rehearsal

/-!
How an access ends. It fails before its request was decided, and then the log is as it was; or the
request was decided, and then the log has one more record, which tells of the verdict. A store has
no part in that, but for the stores that answer with a fault that is not their own.
-/

namespace RuleBound

variable {σ : Type}

/-! ## Links that were given -/

/-- The link that a caller hands in, read if it is no link yet. -/
def CapabilityLink.ofGiven : Given CapabilityLink → Except Fault CapabilityLink
  | .member link => .ok link
  | .other d => parse d

/-- Request an action through a link, read or not. -/
def Client.accessGiven (c : Client) (store : ContentStore σ) (link : Given CapabilityLink)
    (action : Document) (context : Given Bytes) : Task σ AccessResult :=
  match link with
  | .member link => c.accessThrough store link action context
  | .other d => c.access store d action context

/-! ## Stores -/

/-- Whether a store never answers with the fault of opening sealed content, which is not its own. -/
def ContentStore.IsPlain (store : ContentStore σ) : Prop :=
  ∀ st pointer, Unopened (store.get st pointer).result

theorem unopened_digestOfPointer (pointer : Document) : Unopened (digestOfPointer pointer) := by
  unfold digestOfPointer
  extract_lets digest
  split <;> simp [unopened_error_iff]

theorem MemoryStore.isPlain_store : MemoryStore.store.IsPlain := by
  intro st pointer
  refine unopened_bind (unopened_digestOfPointer pointer) fun digest => ?_
  split
  · exact unopened_ok _
  · exact unopened_error (by simp)

theorem RehearsalStore.isPlain_store : RehearsalStore.store.IsPlain := by
  intro st pointer
  change Unopened (RehearsalStore.get st pointer).result
  unfold RehearsalStore.get
  extract_lets counted
  split
  · exact MemoryStore.isPlain_store _ pointer
  · exact unopened_error (by simp [failure])

theorem FileStore.isPlain_store (root : String) : (FileStore.store root).IsPlain := by
  intro st pointer
  refine unopened_bind (unopened_digestOfPointer pointer) fun digest => ?_
  dsimp only
  split
  · exact unopened_error (by simp)
  · exact unopened_error (by simp)
  · exact unopened_error (by simp)
  · split
    · exact unopened_ok _
    · exact unopened_error (by simp)

theorem PinningService.isPlain_store (service : PinningService) (boundary : Nat → String) :
    (service.store boundary).IsPlain := by
  have checked : ∀ pointer, Unopened (checkPointer pointer) := by
    intro pointer
    unfold checkPointer
    split
    · refine unopened_bind ?_ fun slashed => ?_
      · unfold Document.holdsSlash
        split <;> simp [unopened_error_iff]
      · split
        · exact unopened_error (by simp)
        · exact unopened_ok _
    · exact unopened_error (by simp)
  intro st pointer
  change Unopened (service.get st pointer).result
  unfold PinningService.get
  have valid := checked pointer
  generalize checkPointer pointer = check at valid
  cases check with
  | error f => exact valid.fails rfl
  | ok _ =>
    dsimp only
    cases st.answer with
    | ok content => exact unopened_ok _
    | error fault => exact unopened_error (by simp)

namespace Task

variable {α : Type} {s s' : Session σ} {c : Client} {what : String} {operation : σ → Reply σ α}

/-- A store operation leaves the registry, and the store where some attempts have led. -/
theorem keeps_of_ends_throughStore {r : Except Fault α}
    (ends : (throughStore c what operation).Ends s r s') :
    s'.registry = s.registry ∧ Reply.Leads operation s.store s'.store := by
  obtain ⟨registry, -, ⟨st, leads, after, -⟩ | ⟨same, -⟩⟩ := ends_throughStore ends
  · exact ⟨registry, leads.tail after⟩
  · exact ⟨registry, same ▸ .refl⟩

end Task

namespace Client

variable {store : ContentStore σ} {c : Client} {s s' : Session σ}

/-- Metadata is fetched by asking the store for the pointer, and the registry stays. -/
theorem ends_fetchMetadata {pointer : Document} {r : Except Fault Metadata}
    (ends : (c.fetchMetadata store pointer).Ends s r s') :
    s'.registry = s.registry ∧ Reply.Leads (store.get · pointer) s.store s'.store ∧
      (store.IsPlain → Unopened r) := by
  have fetched : ∀ st, store.IsPlain → Unopened (store.getDocument st pointer).result :=
    fun st plain => unopened_bind (plain st pointer) (unopened_documentOfBytes pointer)
  rcases Task.ends_bind_iff.mp ends with ⟨d, u, answers, ends⟩ | ⟨f, fails, rfl⟩
  · obtain ⟨rfl, rfl⟩ := Task.ends_ofExcept_iff.mp ends
    obtain ⟨registry, leads⟩ := Task.keeps_of_ends_throughStore answers
    exact ⟨registry, leads, fun _ => Metadata.unopened_ofDocument d⟩
  · obtain ⟨registry, leads⟩ := Task.keeps_of_ends_throughStore fails
    have unopened : store.IsPlain → Unopened _ := fun plain =>
      Task.unopened_throughStore (fun st => fetched st plain) fails
    exact ⟨registry, leads, fun plain =>
      (unopened plain).fails rfl⟩

/-! ## How an access ends -/

/-- What an access leaves behind whose request was decided: one more log record, which tells of the
verdict, and after a refusal an answer without content for which only the metadata was fetched. -/
structure IsAudited (c : Client) (store : ContentStore σ) (s s' : Session σ) (o : Outcome)
    (a : Action) (bytes : Bytes) (record : Record) (l : LogRecord)
    (r : Except Fault AccessResult) : Prop where
  found : s.registry.record? o.objectId = some record
  log : s'.registry.log.records = s.registry.log.records ++ [l]
  tells : l.Tells (Registry.verdictBody o.objectId record.rulesHash ⟨a, bytes, c.identity⟩ o.refusal)
    o.reference
  refused : ∀ why, o.refusal = some why →
    r = .ok ⟨false, why.reason, none, o.reference, o.objectId, a⟩ ∧
      Reply.Leads (store.get · record.pointer) s.store s'.store
  allowed : o.refusal = none →
    (∃ content, r = .ok ⟨true, "", some content, o.reference, o.objectId, a⟩) ∨
      ∃ f, r = .error f

/-- Whether an access fails before its request was decided: the log is as it was, and no content
was opened. -/
structure IsUndecided (store : ContentStore σ) (s s' : Session σ) (r : Except Fault AccessResult) :
    Prop where
  fails : ∃ f, r = .error f
  log : s'.registry.log.records = s.registry.log.records
  unopened : store.IsPlain → Unopened r

theorem isUndecided_error {f : Fault} (log : s'.registry.log.records = s.registry.log.records)
    (unopened : store.IsPlain → Unopened (.error f : Except Fault AccessResult)) :
    IsUndecided store s s' (.error f) :=
  ⟨⟨f, rfl⟩, log, unopened⟩

theorem eq_of_check {a : Action} {bytes : Bytes} {identity : String} {req : Request}
    (checked : Request.check (.integer a.number) (.member bytes) (.text identity) = .ok req) :
    req = ⟨a, bytes, identity⟩ := by
  have named : Action.ofDocument (.integer a.number) = .ok a := by cases a <;> rfl
  unfold Request.check at checked
  rw [named] at checked
  simp only [Request.identity?, ok_bind] at checked
  by_cases blank : Text.isBlankText identity = true
  · rw [if_pos blank] at checked
    cases checked
  · rw [if_neg blank] at checked
    cases checked
    rfl

/-- What is fetched and opened after an allowed request leaves the registry. -/
theorem ends_accessWithin {link : CapabilityLink} {a : Action} {context : Given Bytes}
    {r : Except Fault AccessResult} (keyed : s.registry.IsKeyed)
    (ends : (c.accessWithin store link a context).Ends s r s') :
    IsUndecided store s s' r ∨ ∃ bytes o record l, contextBytes context = .ok bytes ∧
      link.objectId = .integer o.objectId ∧ IsAudited c store s s' o a bytes record l r := by
  unfold accessWithin at ends
  rw [Task.ends_get_bind_iff, Task.ends_ofExcept_bind_iff] at ends
  rcases ends with ⟨⟨id, record⟩, found, ends⟩ | ⟨f, missing, rfl, rfl⟩
  swap
  · exact .inl (isUndecided_error rfl fun _ => (Registry.unopened_find _ link.objectId).fails missing)
  rcases Task.ends_bind_iff.mp ends with ⟨metadata, u, fetched, ends⟩ | ⟨f, failed, rfl⟩
  swap
  · obtain ⟨registry, -, unopened⟩ := ends_fetchMetadata failed
    refine .inl (isUndecided_error (by rw [registry]) fun plain => ?_)
    exact (unopened plain).fails rfl
  obtain ⟨registry, leads, -⟩ := ends_fetchMetadata fetched
  dsimp only at ends
  split at ends
  · obtain ⟨rfl, rfl⟩ := Task.ends_throw_bind_iff.mp ends
    exact .inl (isUndecided_error (by rw [registry]) fun _ => unopened_error (by simp))
  rw [Task.ends_ofExcept_bind_iff] at ends
  rcases ends with ⟨bytes, given, ends⟩ | ⟨f, misgiven, rfl, rfl⟩
  swap
  · exact .inl (isUndecided_error (by rw [registry]) fun _ =>
      (unopened_contextBytes context).fails misgiven)
  rcases Task.ends_bind_iff.mp ends with ⟨o, v, decided, ends⟩ | ⟨f, failed, rfl⟩
  swap
  · obtain ⟨store, ran⟩ := Task.ends_request failed
    have unopened := Registry.unopened_request u.registry c.surroundings u.draws (.integer id)
      (.integer a.number) (.member bytes) (.text c.identity)
    rw [ran] at unopened
    rw [registry] at ran
    rcases Registry.request_cases keyed ran with ⟨o, req, r, l, answered, -⟩ | ⟨g, -, log⟩
    · cases answered
    · exact .inl (isUndecided_error log fun _ => unopened.fails rfl)
  obtain ⟨store, ran⟩ := Task.ends_request decided
  rw [registry] at ran
  rcases Registry.request_cases keyed ran with ⟨o', req, r', l, same, moved, told⟩ | ⟨f, failed, -⟩
  swap
  · cases failed
  cases same
  have log : v.registry.log.records = s.registry.log.records ++ [l] := by rw [moved.log]
  obtain ⟨checked, named, recorded, tells⟩ := told
  cases named
  cases eq_of_check checked
  obtain ⟨named, there⟩ := Registry.eq_of_find found
  cases there.symm.trans recorded
  refine .inr ⟨bytes, o, record, l, given, named, ?_⟩
  cases verdict : o.refusal with
  | some why =>
    have refused : o.allowed = false := by rw [Outcome.allowed, verdict]; rfl
    have reason : o.reason = why.reason := by rw [Outcome.reason, verdict]; rfl
    rw [refused, reason] at ends
    change Task.Ends (do Task.note c [refusedNote o]; pure _) v r s' at ends
    rw [Task.ends_note_bind_iff, Task.ends_pure_iff] at ends
    obtain ⟨rfl, rfl⟩ := ends
    exact {
      found := there
      log := log
      tells := tells
      refused := fun why' same => by
        cases verdict.symm.trans same
        exact ⟨rfl, store ▸ leads⟩
      allowed := fun same => by cases verdict.symm.trans same }
  | none =>
    have allowed : o.allowed = true := by rw [Outcome.allowed, verdict]; rfl
    rw [allowed, if_neg (by simp)] at ends
    have opened : s'.registry = v.registry ∧
        ((∃ content, r = .ok ⟨true, "", some content, o.reference, o.objectId, a⟩) ∨
          ∃ f, r = .error f) := by
      rcases Task.ends_bind_iff.mp ends with ⟨ciphertext, w, got, ends⟩ | ⟨f, failed, rfl⟩
      swap
      · exact ⟨(Task.keeps_of_ends_throughStore failed).1, .inr ⟨f, rfl⟩⟩
      have kept := (Task.keeps_of_ends_throughStore got).1
      rcases Task.ends_bind_iff.mp ends with ⟨content, x, unsealed, ends⟩ | ⟨f, failed, rfl⟩
      swap
      · exact ⟨(Task.ends_openContent failed).2.1.trans kept, .inr ⟨f, rfl⟩⟩
      obtain ⟨rfl, rfl⟩ := Task.ends_pure_iff.mp ends
      exact ⟨(Task.ends_openContent unsealed).2.1.trans kept, .inl ⟨content, rfl⟩⟩
    exact {
      found := there
      log := by rw [opened.1, log]
      tells := tells
      refused := fun why same => by cases verdict.symm.trans same
      allowed := fun _ => opened.2 }

/-- An access through a link that has been read ends as the one within its correlation, once the
action is known. -/
theorem ends_accessThrough {link : CapabilityLink} {action : Document} {context : Given Bytes}
    {r : Except Fault AccessResult} (keyed : s.registry.IsKeyed)
    (ends : (c.accessThrough store link action context).Ends s r s') :
    IsUndecided store s s' r ∨ ∃ a bytes o record l, Action.ofDocument action = .ok a ∧
      contextBytes context = .ok bytes ∧ link.objectId = .integer o.objectId ∧
      IsAudited c store s s' o a bytes record l r := by
  unfold accessThrough at ends
  rw [Task.ends_ofExcept_bind_iff] at ends
  rcases ends with ⟨a, named, ends⟩ | ⟨f, unnamed, rfl, rfl⟩
  swap
  · exact .inl (isUndecided_error rfl fun _ => (Action.unopened_ofDocument action).fails unnamed)
  rw [Task.ends_bind_iff_of_ends (Task.ends_correlate_iff.mpr ⟨rfl, rfl⟩)] at ends
  generalize (c.surroundings.correlate s.draws).1 = correlation at ends
  generalize (c.surroundings.correlate s.draws).2 = draws at ends
  rcases Task.ends_bind_iff.mp ends with ⟨result, u, answered, ends⟩ | ⟨f, failed, rfl⟩
  swap
  · rcases ends_accessWithin (s := { s with draws := draws }) keyed failed with
      undecided | ⟨bytes, o, record, l, given, objectId, audited⟩
    · exact .inl ⟨undecided.fails, undecided.log, undecided.unopened⟩
    · exact .inr ⟨a, bytes, o, record, l, named, given, objectId, audited.found, audited.log,
        audited.tells, audited.refused, audited.allowed⟩
  have left : r = .ok result ∧ s'.registry = u.registry ∧ s'.store = u.store := by
    dsimp only at ends
    split at ends
    · rw [Task.ends_note_bind_iff, Task.ends_pure_iff] at ends
      obtain ⟨rfl, rfl⟩ := ends
      exact ⟨rfl, rfl, rfl⟩
    · obtain ⟨rfl, rfl⟩ := Task.ends_pure_iff.mp ends
      exact ⟨rfl, rfl, rfl⟩
  obtain ⟨rfl, registry, store⟩ := left
  rcases ends_accessWithin (s := { s with draws := draws }) keyed answered with
    undecided | ⟨bytes, o, record, l, given, objectId, audited⟩
  · obtain ⟨f, failed⟩ := undecided.fails
    cases failed
  · exact .inr ⟨a, bytes, o, record, l, named, given, objectId, audited.found,
      by rw [registry, audited.log], audited.tells, store ▸ audited.refused, audited.allowed⟩

theorem ends_accessGiven {link : Given CapabilityLink} {action : Document} {context : Given Bytes}
    {r : Except Fault AccessResult} (keyed : s.registry.IsKeyed)
    (ends : (c.accessGiven store link action context).Ends s r s') :
    IsUndecided store s s' r ∨ ∃ l a bytes o record told, CapabilityLink.ofGiven link = .ok l ∧
      Action.ofDocument action = .ok a ∧ contextBytes context = .ok bytes ∧
      l.objectId = .integer o.objectId ∧ IsAudited c store s s' o a bytes record told r := by
  cases link with
  | member link =>
    rcases ends_accessThrough keyed ends with undecided | ⟨a, bytes, o, record, told, rest⟩
    · exact .inl undecided
    · exact .inr ⟨link, a, bytes, o, record, told, rfl, rest⟩
  | other d =>
    change (c.access store d action context).Ends s r s' at ends
    unfold access at ends
    rw [Task.ends_ofExcept_bind_iff] at ends
    rcases ends with ⟨link, read, ends⟩ | ⟨f, unread, rfl, rfl⟩
    · rcases ends_accessThrough keyed ends with undecided | ⟨a, bytes, o, record, told, rest⟩
      · exact .inl undecided
      · exact .inr ⟨link, a, bytes, o, record, told, read, rest⟩
    · exact .inl (isUndecided_error rfl fun _ => (CapabilityLink.unopened_parse d).fails unread)

end Client

end RuleBound
