import RuleBound.Document.Coercion
import RuleBound.Proofs.Document.Unordered
import RuleBound.Store.File
import RuleBound.Store.Memory
import RuleBound.Store.Pinned

/-!
Faults that are foreseen. Whoever starts a command is prepared for bad values, for faults of the
domain, for what the disk and the settings object to, and for a command that is used in a way it does
not support; any other fault breaks the command off. A computation is guarded if it fails for foreseen
reasons only.

Content stores are guarded, whatever is on the disk and whatever the network answers, as long as they
are asked for pointers that are texts. A store in memory and one of a pinning service fail with
storage faults alone.
-/

namespace RuleBound

/-- Whether those who start a command are prepared for a fault. -/
def Fault.isForeseen : Fault → Bool
  | .command _ | .settings _ | .disk _ | .noSchema _ => true
  | f => f.isDomainFault || f.isValueFault

theorem Fault.isForeseen_of_isValueFault {f : Fault} (bad : f.isValueFault = true) :
    f.isForeseen = true := by
  unfold isForeseen
  split
  case h_5 => rw [bad, Bool.or_true]
  all_goals rfl

variable {α β : Type}

/-- Whether a computation fails for reasons of one sort only. -/
structure FailsBy (P : Fault → Prop) (x : Except Fault α) : Prop where
  reason : ∀ f, x = .error f → P f

section FailsBy

variable {P : Fault → Prop} {x : Except Fault α}

theorem failsBy_ok (a : α) : FailsBy P (.ok a) := ⟨nofun⟩

theorem failsBy_error {f : Fault} (reason : P f) : FailsBy P (.error f : Except Fault α) := by
  constructor
  rintro _ ⟨⟩
  exact reason

theorem failsBy_of_exists (answers : ∃ a, x = .ok a) : FailsBy P x := by
  obtain ⟨a, rfl⟩ := answers
  exact failsBy_ok a

theorem FailsBy.bind {g : α → Except Fault β} (first : FailsBy P x)
    (rest : ∀ a, x = .ok a → FailsBy P (g a)) : FailsBy P (x >>= g) := by
  cases x with
  | ok a => exact rest a rfl
  | error f => exact failsBy_error (first.reason f rfl)

theorem FailsBy.map (fails : FailsBy P x) (g : α → β) : FailsBy P (x.map g) := by
  cases x with
  | ok a => exact failsBy_ok _
  | error f => exact failsBy_error (fails.reason f rfl)

theorem FailsBy.mono {Q : Fault → Prop} (fails : FailsBy P x) (implies : ∀ f, P f → Q f) :
    FailsBy Q x :=
  ⟨fun f failed => implies f (fails.reason f failed)⟩

/-- What is asked of each item of a list is asked of all of them. -/
theorem failsBy_mapM {g : α → Except Fault β} {items : List α}
    (each : ∀ a ∈ items, FailsBy P (g a)) : FailsBy P (items.mapM g) := by
  induction items with
  | nil => exact failsBy_ok []
  | cons a items ih =>
    rw [List.forall_mem_cons] at each
    rw [List.mapM_cons]
    exact each.1.bind fun _ _ => (ih each.2).bind fun _ _ => failsBy_ok _

/-- A fault that shows a document stays the fault that it is, unless the document has a number in it
that is too long to be written. -/
theorem failsBy_faultShowing {f : Fault} {d : Document} (shown : P f)
    (long : d.hasLongNumeral = true → P (.numeralTooLong none)) :
    FailsBy P (.error (d.faultShowing f) : Except Fault α) := by
  unfold Document.faultShowing
  split_ifs with here
  · exact failsBy_error (long here)
  · exact failsBy_error shown

end FailsBy

/-- Whether a computation fails for foreseen reasons only. -/
abbrev Guarded (x : Except Fault α) : Prop := FailsBy (fun f => f.isForeseen = true) x

theorem guarded_of_values {x : Except Fault α} (bad : ∀ f, x = .error f → f.isValueFault = true) :
    Guarded x :=
  ⟨fun f failed => Fault.isForeseen_of_isValueFault (bad f failed)⟩

/-- Whether a fault is a storage fault. -/
abbrev Fault.IsStorage (f : Fault) : Prop := f.isIn .storage = true

/-- Whether a computation fails with storage faults only. -/
abbrev FailsByStorage (x : Except Fault α) : Prop := FailsBy Fault.IsStorage x

theorem Fault.IsStorage.isForeseen {f : Fault} (storage : f.IsStorage) : f.isForeseen = true := by
  cases f with
  | storage cause pointer => rfl
  | storageExhausted what attempts last => rfl
  | _ => cases storage

theorem FailsBy.guarded {x : Except Fault α} (fails : FailsByStorage x) : Guarded x :=
  fails.mono fun _ storage => storage.isForeseen

/-! ## Documents -/

theorem Document.guarded_canonical (d : Document) : Guarded d.canonical :=
  guarded_of_values fun _ => isValueFault_of_canonical

theorem Document.guarded_canonicalDigest (d : Document) : Guarded d.canonicalDigest :=
  d.guarded_canonical.map _

/-! ## Stores -/

variable {σ : Type}

/-- Whether the operations of a store are guarded, if the pointers it is asked for are texts. -/
structure ContentStore.IsGuarded (store : ContentStore σ) : Prop where
  put : ∀ st content, Guarded (store.put st content).result
  get : ∀ st pointer, Guarded (store.get st (.text pointer)).result

theorem failsByStorage_documentOfBytes (pointer : Document) (content : Bytes) :
    FailsByStorage (documentOfBytes pointer content) := by
  unfold documentOfBytes
  split
  · exact failsBy_error rfl
  · split
    · exact failsBy_ok _
    · exact failsBy_error rfl

namespace ContentStore.IsGuarded

variable {store : ContentStore σ} (guarded : store.IsGuarded)

include guarded

theorem within {τ : Type} (part : τ → σ) (replace : τ → σ → τ) :
    (store.within part replace).IsGuarded where
  put st content := guarded.put (part st) content
  get st pointer := guarded.get (part st) pointer

theorem putDocument (st : σ) (d : Document) : Guarded (store.putDocument st d).result := by
  have written := d.guarded_canonical
  unfold ContentStore.putDocument
  cases canonical : d.canonical with
  | error f => exact failsBy_error (written.reason f canonical)
  | ok text => exact guarded.put st _

theorem getDocument (st : σ) (pointer : String) :
    Guarded (store.getDocument st (.text pointer)).result :=
  (guarded.get st pointer).bind fun content _ => (failsByStorage_documentOfBytes _ content).guarded

end ContentStore.IsGuarded

/-- Whether the operations of a store fail with storage faults only, if the pointers it is asked for
are texts. -/
structure ContentStore.IsContained (store : ContentStore σ) : Prop where
  put : ∀ st content, FailsByStorage (store.put st content).result
  get : ∀ st pointer, FailsByStorage (store.get st (.text pointer)).result

theorem ContentStore.IsContained.isGuarded {store : ContentStore σ} (contained : store.IsContained) :
    store.IsGuarded where
  put st content := (contained.put st content).guarded
  get st pointer := (contained.get st pointer).guarded

theorem failsByStorage_digestOfPointer (pointer : Document) :
    FailsByStorage (digestOfPointer pointer) := by
  unfold digestOfPointer
  extract_lets digest
  split
  · exact failsBy_ok _
  · exact failsBy_error rfl

theorem MemoryStore.isContained_store : store.IsContained where
  put _ _ := failsBy_ok _
  get s pointer := by
    refine (failsByStorage_digestOfPointer _).bind fun digest _ => ?_
    split
    · exact failsBy_ok _
    · exact failsBy_error rfl

theorem MemoryStore.isGuarded_store : store.IsGuarded := isContained_store.isGuarded

namespace FileStore

theorem isForeseen_unwritable (path digest : String) (fault : DiskFault) :
    (unwritable path digest fault).isForeseen = true := by
  cases fault <;> rfl

theorem guarded_write (root digest : String) (d : Disk) (content : Bytes) :
    Guarded (write root digest d content).result := by
  unfold write
  dsimp only
  split
  · exact failsBy_error (isForeseen_unwritable ..)
  · split
    · exact failsBy_error (isForeseen_unwritable ..)
    · exact failsBy_ok _

theorem isGuarded_store (root : String) : (store root).IsGuarded where
  put d content := by
    change Guarded (put root d content).result
    unfold put
    dsimp only
    split
    · exact failsBy_error rfl
    · exact failsBy_ok _
    · exact guarded_write ..
  get d pointer := by
    refine (failsByStorage_digestOfPointer _).guarded.bind fun digest _ => ?_
    dsimp only
    split
    · exact failsBy_error rfl
    · exact failsBy_error rfl
    · exact failsBy_error rfl
    · split
      · exact failsBy_ok _
      · exact failsBy_error rfl

end FileStore

namespace PinningService

/-- A service is made of a gateway that is a text, unless there is no token. -/
theorem guarded_make (token gateway : String) (timeout : Document) (namePrefix : String) :
    Guarded (make token (.text gateway) timeout namePrefix) := by
  unfold make
  split
  · exact failsBy_error rfl
  · exact failsBy_ok _

theorem failsByStorage_uploadAnswer (answer : NetworkAnswer) :
    FailsByStorage (uploadAnswer answer) := by
  unfold uploadAnswer
  split
  · exact failsBy_error rfl
  · split
    · exact failsBy_error rfl
    · split
      · exact failsBy_ok _
      all_goals exact failsBy_error rfl

theorem failsByStorage_identifier (answer : Document) :
    FailsByStorage (identifier answer) := by
  unfold identifier
  split
  · split
    · exact failsBy_ok _
    · exact failsBy_error rfl
  · exact failsBy_error rfl

theorem failsByStorage_checkPointer (pointer : String) :
    FailsByStorage (checkPointer (.text pointer)) := by
  unfold checkPointer
  split
  · refine FailsBy.bind (failsBy_ok _) fun found _ => ?_
    cases found with
    | true => exact failsBy_error rfl
    | false => exact failsBy_ok _
  · exact failsBy_error rfl

theorem isContained_store (service : PinningService) (boundary : Nat → String) :
    (service.store boundary).IsContained where
  put s content := by
    have answered := (failsByStorage_uploadAnswer s.answer).bind fun d _ =>
      failsByStorage_identifier d
    change FailsByStorage (service.put boundary s content).result
    unfold put
    dsimp only
    cases asked : uploadAnswer s.answer >>= identifier with
    | error f => exact failsBy_error (answered.reason f asked)
    | ok cid => exact failsBy_ok _
  get s pointer := by
    have checked := failsByStorage_checkPointer pointer
    change FailsByStorage (service.get s (.text pointer)).result
    unfold get
    cases asked : checkPointer (.text pointer) with
    | error f => exact failsBy_error (checked.reason f asked)
    | ok done =>
      dsimp only
      split
      · exact failsBy_ok _
      · exact failsBy_error rfl

theorem isGuarded_store (service : PinningService) (boundary : Nat → String) :
    (service.store boundary).IsGuarded :=
  (service.isContained_store boundary).isGuarded

end PinningService

end RuleBound
