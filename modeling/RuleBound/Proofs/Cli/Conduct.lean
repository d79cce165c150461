import RuleBound.Proofs.Cli.Loading
import RuleBound.Proofs.Exchange.Steady

/-!
How commands are carried out. In a workplace whose settings can be worked with, and on a disk whose
snapshot is legible, a command that is regular ends with a result and one of the codes, or fails for a
foreseen reason; so it does whatever it finds in the store and whatever the network answers.
-/

namespace RuleBound.Cli

/-- Whether a file with an intent is YAML, if it has to be. -/
def HoldsYaml (disk : Disk) (path : String) : Prop :=
  ∀ content cause, disk.read (Path.normal path) = .ok content →
    Document.ofFile path content ≠ .error (.notYaml cause)

/-- Whether a command is regular on a disk: the moment at which it compiles is a number, if there is
one, the context of a request is a text, and a file with an intent is YAML if it has to be. -/
def Command.IsRegular (c : Command) (disk : Disk) : Prop :=
  match c with
  | .compile intent now => (now = .null ∨ ∃ n, now = .integer n) ∧ HoldsYaml disk intent
  | .create intent _ _ => HoldsYaml disk intent
  | .access _ _ _ context => ∃ s, context = .text s
  | _ => True

/-- Whether a command loads the registry. -/
def Command.LoadsRegistry : Command → Prop
  | .create _ _ _ | .access _ _ _ _ | .show _ | .events _ | .verifyRefusal _ => True
  | _ => False

namespace Workplace

open RuleBound.Task
open Document (FitsIn)

/-- Whether a workplace can be worked in: its settings suit, and delays can be told. -/
structure IsFit (w : Workplace) : Prop where
  settings : w.settings.IsFit
  attempts : ∀ n, w.settings.get .attempts = .ok (.integer n) → n ≤ 1000
  delay : ∀ d, w.settings.get .baseDelay = .ok d → d.FitsIn 16
  share : w.share.FitsIn 1

variable {w : Workplace} {α : Type}

/-! ## Settings -/

section Settings

variable (fit : w.IsFit)

include fit

theorem IsFit.guarded_text (k : Setting) (text : ∀ d, k.Suits d → ∃ s, d = .text s) :
    Guarded (w.text k) := by
  refine (w.settings.guarded_get k).bind fun d holds => ?_
  obtain ⟨s, rfl⟩ := text d (fit.settings.suits_of_get holds)
  exact failsBy_ok s

theorem IsFit.guarded_root : Guarded w.root := by
  have named : Guarded (do return Path.normal (← w.text .stateDirectory) : Except Fault String) :=
    (fit.guarded_text .stateDirectory fun _ suits => suits).bind fun _ _ => failsBy_ok _
  unfold root
  split
  · split
    · exact failsBy_ok _
    · exact named
  · exact named

theorem IsFit.guarded_snapshotPath : Guarded w.snapshotPath :=
  fit.guarded_root.bind fun _ _ =>
    (fit.guarded_text .snapshotFile fun _ suits => suits).bind fun _ _ => failsBy_ok _

/-- The policy of a fit workplace makes a whole number of attempts that is not too great, with delays
that can be told. -/
theorem IsFit.policy : Guarded w.policy ∧ ∀ p, w.policy = .ok p →
    (∃ n, p.attemptCount = .ok n ∧ n ≤ 1000) ∧ p.IsMeasured w.share := by
  unfold Workplace.policy
  cases counted : w.settings.get .attempts with
  | error f => exact ⟨failsBy_error ((w.settings.guarded_get _).reason f counted), nofun⟩
  | ok attempts =>
  cases delayed : w.settings.get .baseDelay with
  | error f => exact ⟨failsBy_error ((w.settings.guarded_get _).reason f delayed), nofun⟩
  | ok delay =>
  obtain ⟨n, rfl⟩ := fit.settings.suits_of_get counted
  have few := fit.attempts n counted
  simp only [ok_bind]
  unfold RetryPolicy.withAttempts
  rw [Document.isBelow_integer, ok_bind]
  split
  · exact ⟨failsBy_error rfl, nofun⟩
  · refine ⟨failsBy_ok _, ?_⟩
    rintro _ ⟨⟩
    refine ⟨⟨n.toNat, rfl, by omega⟩, ?_⟩
    exact ⟨fit.delay delay delayed, Document.fitsIn_real _ _, Document.fitsIn_real _ _, fit.share⟩

theorem IsFit.guarded_client (identity : String) : Guarded (w.client identity) :=
  fit.policy.1.bind fun _ _ => (fit.guarded_text .origin fun _ suits => suits).bind fun _ _ =>
    (w.settings.guarded_get _).bind fun _ _ => failsBy_ok _

theorem IsFit.isPatient_client {identity : String} {c : Client} (made : w.client identity = .ok c) :
    c.IsPatient := by
  obtain ⟨p, policy, made⟩ := bind_eq_ok_iff.mp made
  obtain ⟨_, -, made⟩ := bind_eq_ok_iff.mp made
  obtain ⟨_, -, made⟩ := bind_eq_ok_iff.mp made
  cases made
  obtain ⟨count, measured⟩ := fit.policy.2 p policy
  exact ⟨count, measured⟩

/-- Whatever store the settings name, it is guarded. -/
theorem IsFit.isSteady_contentStore_bind {f : ContentStore Shelf → Task Shelf α}
    (rest : ∀ store, store.IsGuarded → (f store).IsSteady) : (w.contentStore >>= f).IsSteady := by
  unfold contentStore
  rw [bind_assoc]
  refine isSteady_ofExcept_bind (w.settings.guarded_get _) fun backend _ => ?_
  split_ifs
  · rw [bind_assoc]
    refine isSteady_ofExcept_bind fit.guarded_root fun root _ => ?_
    rw [pure_bind]
    exact rest _ ((FileStore.isGuarded_store _).within _ _)
  · rw [bind_assoc]
    refine isSteady_ofExcept_bind (w.settings.guarded_get _) fun token _ => ?_
    rw [bind_assoc]
    refine isSteady_ofExcept_bind (w.settings.guarded_get _) fun gateway holds => ?_
    obtain ⟨gateway, rfl⟩ := fit.settings.suits_of_get holds
    rw [bind_assoc]
    refine isSteady_ofExcept_bind (w.settings.guarded_get _) fun timeout _ => ?_
    rw [bind_assoc]
    refine isSteady_ofExcept_bind (PinningService.guarded_make _ gateway _ _) fun service _ => ?_
    rw [pure_bind]
    exact rest _ ((service.isGuarded_store _).within _ _)
  · rw [bind_assoc]
    refine (isSteady_note _ _).bind fun _ => ?_
    rw [pure_bind]
    exact rest _ (MemoryStore.isGuarded_store.within _ _)

/-! ## Between loading and saving -/

omit fit in
theorem isSteady_changeDisk (change : Disk → Except DiskFault Disk) :
    (changeDisk change).IsSteady := by
  intro s r s' ends regular
  rcases ends_changeDisk ends with ⟨disk, -, rfl, rfl⟩ | ⟨fault, -, rfl, rfl⟩
  · exact ⟨regular, failsBy_ok ()⟩
  · exact ⟨regular, failsBy_error rfl⟩

/-- A regular registry is written, or not for foreseen reasons. -/
theorem IsFit.isSteady_saveRegistry : w.saveRegistry.IsSteady := by
  refine isSteady_ofExcept_bind fit.guarded_snapshotPath fun path _ => ?_
  refine isSteady_get_bind fun s regular => ?_
  refine isSteady_ofExcept_bind (failsBy_of_exists regular.exists_snapshot) fun d _ => ?_
  split
  · exact isSteady_throw rfl
  · exact isSteady_changeDisk _

/-- One comes to a regular registry, or not for foreseen reasons. -/
theorem IsFit.meets_enter {s : Session Shelf} (legible : w.FindsLegible s.store.disk) :
    Meets w.enter s fun r s' => Guarded r ∧ (r = .ok () → s'.registry.IsRegular) := by
  cases named : w.snapshotPath with
  | error f =>
    have fails : w.enter = throw f := by
      unfold enter
      cases rooted : w.root with
      | error g =>
        unfold snapshotPath at named
        rw [rooted] at named
        cases named
        rfl
      | ok root =>
        rw [named]
        rfl
    rw [fails]
    exact meets_throw ⟨failsBy_error (fit.guarded_snapshotPath.reason f named), nofun⟩
  | ok path =>
    obtain ⟨root, rooted, -⟩ := bind_eq_ok_iff.mp named
    intro r s' ends
    obtain ⟨x, comes, rfl⟩ := Workplace.meets_enter rooted named s r s' ends
    obtain ⟨guarded, regular⟩ := comes.of_legible named legible
    refine ⟨guarded.map _, fun answers => ?_⟩
    obtain ⟨reg, loaded, -⟩ := map_eq_ok_iff.mp answers
    rw [comes.registry reg loaded]
    exact (regular reg loaded).1

/-- Work on the state that is steady fails for foreseen reasons only, and so do the way to it and
the way back. -/
theorem IsFit.meets_transaction {body : Task Shelf α} (steady : body.IsSteady) {s : Session Shelf}
    (legible : w.FindsLegible s.store.disk) :
    Meets (w.transaction body) s fun r _ => Guarded r := by
  rw [w.transaction_eq]
  refine (fit.meets_enter legible).bind (fun _ u ⟨_, regular⟩ => ?_) fun f u ⟨guarded, _⟩ =>
    failsBy_error (guarded.reason f rfl)
  intro r s' ends
  rcases ends_bind_iff.mp ends with ⟨x, v, done, ends⟩ | ⟨f, failed, rfl⟩
  · obtain ⟨y, done, same⟩ := ends_lift_iff.mp done
    cases same
    obtain ⟨regular, guarded⟩ := steady u x v done (regular rfl)
    rcases ends_bind_iff.mp ends with ⟨⟨⟩, t, written, ends⟩ | ⟨f, failed, rfl⟩
    · exact (ends_ofExcept_iff.mp ends).1 ▸ guarded
    · exact failsBy_error ((fit.isSteady_saveRegistry v _ s' failed regular).2.reason f rfl)
  · obtain ⟨y, -, same⟩ := ends_lift_iff.mp failed
    cases same

end Settings

/-! ## Commands -/

/-- Whether a command ends with a result and one of the codes, or fails for a foreseen reason. -/
structure Concludes (r : Except Fault (Nat × Document)) : Prop where
  guarded : Guarded r
  code : ∀ a, r = .ok a → a.1 ≤ 3

theorem concludes_ok {code : Nat} {d : Document} (known : code ≤ 3) : Concludes (.ok (code, d)) := by
  refine ⟨failsBy_ok _, ?_⟩
  rintro _ ⟨⟩
  exact known

theorem concludes_error {f : Fault} (foreseen : f.isForeseen = true) : Concludes (.error f) :=
  ⟨failsBy_error foreseen, nofun⟩

section Perform

variable {s : Session Shelf} {β : Type}

/-- What is guarded is used by what comes next, or concludes the command. -/
theorem meets_guarded_bind {x : Except Fault β} {rest : β → Task Shelf (Nat × Document)}
    (guarded : Guarded x) (answered : ∀ b, x = .ok b → Meets (rest b) s fun r _ => Concludes r) :
    Meets (Task.ofExcept x >>= rest) s fun r _ => Concludes r :=
  meets_ofExcept_bind answered fun f failed => concludes_error (guarded.reason f failed)

theorem meets_note_bind {n : Note} {rest : Unit → Task Shelf (Nat × Document)}
    (answered : ∀ u, Meets (rest ()) u fun r _ => Concludes r) :
    Meets (w.note n >>= rest) s fun r _ => Concludes r := by
  refine Meets.bind (P := fun r _ => r = .ok ()) ?_ (fun _ u _ => answered u) fun f u => nofun
  exact fun r s' ends => (ends_note_iff.mp ends).1

/-- An intent that is read is ready, or the command fails for a foreseen reason. -/
theorem meets_intentAt_bind {path : String} {contentFile : Option String}
    {rest : Intent → Task Shelf (Nat × Document)} (yaml : HoldsYaml s.store.disk path)
    (answered : ∀ i, i.IsReady → Meets (rest i) s fun r _ => Concludes r) :
    Meets (intentAt path contentFile >>= rest) s fun r _ => Concludes r := by
  refine (meets_intentAt path contentFile s).bind ?_ ?_
  · rintro i _ ⟨rfl, comes⟩
    cases comes with | ready ready => exact answered i ready
  · rintro f _ ⟨-, comes⟩
    cases comes with
    | error error => exact concludes_error error.isForeseen
    | notYaml read failed => exact absurd failed (yaml _ _ read)

/-- A registry that is loaded is regular, and its refusals can be compared, or the command fails for a
foreseen reason. -/
theorem IsFit.meets_loadRegistry_bind (fit : w.IsFit) (legible : w.FindsLegible s.store.disk)
    {rest : Registry → Task Shelf (Nat × Document)}
    (answered : ∀ reg u, reg.IsRegular → reg.HasPlainRefusals →
      Meets (rest reg) u fun r _ => Concludes r) :
    Meets (w.loadRegistry >>= rest) s fun r _ => Concludes r := by
  cases named : w.snapshotPath with
  | error f =>
    unfold loadRegistry
    rw [named, bind_assoc]
    exact meets_guarded_bind (failsBy_error (fit.guarded_snapshotPath.reason f named)) nofun
  | ok path =>
    refine (meets_comes named s).bind (fun reg u comes => ?_) fun f u comes => ?_
    · obtain ⟨-, fine⟩ := comes.of_legible named legible
      exact answered reg u (fine reg rfl).1 (fine reg rfl).2
    · exact concludes_error ((comes.of_legible named legible).1.reason f rfl)

/-- A regular command in a fit workplace concludes. -/
theorem IsFit.meets_perform (fit : w.IsFit) {c : Command} (regular : c.IsRegular s.store.disk)
    (legible : c.LoadsRegistry → w.FindsLegible s.store.disk) :
    Meets (w.perform c) s fun r _ => Concludes r := by
  cases c with
  | compile path now =>
    obtain ⟨moment, yaml⟩ := regular
    refine meets_intentAt_bind yaml fun intent ready => ?_
    have counted : ∃ n, (if now = .null then .integer w.surroundings.now else now) =
        Document.integer n := by
      rcases moment with rfl | ⟨n, rfl⟩
      · exact ⟨_, rfl⟩
      · exact ⟨n, rfl⟩
    obtain ⟨n, is⟩ := counted
    dsimp only
    rw [is]
    refine meets_guarded_bind (ready.compile n) fun compiled compiles => meets_note_bind fun u => ?_
    obtain ⟨rules, made, typed, -⟩ := ready.rules n compiled compiles
    obtain ⟨d, written, -⟩ := typed.exists_document
    rw [made]
    refine meets_guarded_bind (failsBy_ok _) fun rules' same => ?_
    cases same
    rw [written]
    exact meets_guarded_bind (failsBy_ok _) fun _ _ => meets_pure (concludes_ok (by omega))
  | keygen =>
    refine Meets.bind (P := fun r _ => ∃ key, r = .ok key) ?_ ?_ ?_
    · intro r s' ends
      exact ⟨_, (ends_drawKey_iff.mp ends).1⟩
    · exact fun key u _ => meets_pure (concludes_ok (by omega))
    · rintro f u ⟨key, same⟩
      cases same
  | create path identity contentFile =>
    refine meets_intentAt_bind regular fun intent ready => ?_
    refine (fit.meets_transaction ?_ (legible trivial)).bind
      (fun created u _ => meets_pure (concludes_ok (by omega))) fun f u guarded =>
        concludes_error (guarded.reason f rfl)
    exact fit.isSteady_contentStore_bind fun store guarded =>
      isSteady_ofExcept_bind (fit.guarded_client identity) fun c made =>
        Client.isSteady_create (fit.isPatient_client made) guarded ready
  | access link identity action context =>
    obtain ⟨context, rfl⟩ := regular
    refine (fit.meets_transaction ?_ (legible trivial)).bind
      (fun result u _ => meets_pure (concludes_ok (by split <;> omega))) fun f u guarded =>
        concludes_error (guarded.reason f rfl)
    exact fit.isSteady_contentStore_bind fun store guarded =>
      isSteady_ofExcept_bind (fit.guarded_client identity) fun c made =>
        Client.isSteady_access (fit.isPatient_client made) guarded link action _
  | «show» id =>
    refine fit.meets_loadRegistry_bind (legible trivial) fun reg u fine _ => ?_
    refine meets_guarded_bind ((reg.guarded_find _).map _) fun r found => ?_
    obtain ⟨entry, finds, rfl⟩ := map_eq_ok_iff.mp found
    have fine := fine.of_find finds
    obtain ⟨fields, written⟩ := fine.exists_toDocument
    obtain ⟨status, is⟩ := fine.made.exists_status w.surroundings.now
    rw [written]
    refine meets_guarded_bind (failsBy_ok _) fun d same => ?_
    cases same
    dsimp only
    rw [is]
    exact meets_guarded_bind (failsBy_ok _) fun _ _ => meets_pure (concludes_ok (by omega))
  | events id =>
    exact fit.meets_loadRegistry_bind (legible trivial) fun reg u _ _ => meets_pure (concludes_ok (by omega))
  | verifyRefusal reference =>
    exact fit.meets_loadRegistry_bind (legible trivial) fun reg u _ plain =>
      meets_guarded_bind (plain.guarded_verifyRefusal _) fun proof _ =>
        meets_pure (concludes_ok (by split <;> omega))
  | showSettings =>
    exact meets_guarded_bind (w.settings.guarded_toDocument true) fun d _ =>
      meets_pure (concludes_ok (by omega))
  | checkSettings => exact meets_pure (concludes_ok (by split <;> omega))
  | settings => exact meets_throw (concludes_error rfl)

/-- Where something stands that is no snapshot, a command that loads the registry leaves it as it is and
fails with the code of errors, unless the reason is not a foreseen one. -/
theorem meets_perform_of_not_isSnapshot {path : String} (named : w.snapshotPath = .ok path)
    {content : Bytes} (read : s.store.disk.read path = .ok content)
    (invalid : ¬ w.IsSnapshot path content) {c : Command} (loads : c.LoadsRegistry) :
    Meets (w.perform c) s fun r s' => s'.store.disk.read path = .ok content ∧
      ∃ f, r = .error f ∧ (IsError f ∨ f.isForeseen = false) := by
  obtain ⟨root, rooted, -⟩ := bind_eq_ok_iff.mp named
  have direct (rest : Registry → Task Shelf (Nat × Document)) : Meets (w.loadRegistry >>= rest) s
      fun r s' => s'.store.disk.read path = .ok content ∧
        ∃ f, r = .error f ∧ (IsError f ∨ f.isForeseen = false) := by
    refine (meets_comes named s).bind (fun reg u comes => ?_) fun f u comes => ?_
    · obtain ⟨-, f, same, -⟩ := comes.of_not_isSnapshot read invalid
      cases same
    · obtain ⟨still, f', same, why⟩ := comes.of_not_isSnapshot read invalid
      cases same
      exact ⟨still, f, rfl, why⟩
  have exchange {α : Type} (body : Task Shelf α) (rest : α → Task Shelf (Nat × Document)) :
      Meets (w.transaction body >>= rest) s fun r s' => s'.store.disk.read path = .ok content ∧
        ∃ f, r = .error f ∧ (IsError f ∨ f.isForeseen = false) := by
    rw [w.transaction_eq, bind_assoc]
    refine (Workplace.meets_enter rooted named s).bind ?_ ?_
    · rintro ⟨⟩ u ⟨x, comes, same⟩
      obtain ⟨-, f, rfl, -⟩ := comes.of_not_isSnapshot read invalid
      cases same
    · rintro f u ⟨x, comes, same⟩
      obtain ⟨still, f', rfl, why⟩ := comes.of_not_isSnapshot read invalid
      cases same
      exact ⟨still, f, rfl, why⟩
  cases c with
  | create path' identity contentFile =>
    refine (meets_intentAt path' contentFile s).bind ?_ ?_
    · rintro i _ ⟨rfl, -⟩
      exact exchange _ _
    · rintro f _ ⟨rfl, comes⟩
      refine ⟨read, f, rfl, ?_⟩
      cases comes with
      | error error => exact .inl error
      | @notYaml _ cause read failed => exact .inr (by cases cause <;> rfl)
  | access link identity action context => exact exchange _ _
  | «show» id => exact direct _
  | events id => exact direct _
  | verifyRefusal reference => exact direct _
  | _ => exact loads.elim

end Perform

end Workplace

end RuleBound.Cli
