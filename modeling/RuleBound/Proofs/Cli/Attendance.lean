import RuleBound.Proofs.Cli.Entry
import RuleBound.Proofs.Exchange.Course
import RuleBound.Proofs.Exchange.Likeness
import RuleBound.Proofs.Registry.Persistence

/-!
Attendance. A registry that is kept in memory attends the commands on a state if every errand is done
on it as well as on the registry that the command loads and writes back. As long as the registry in
memory comes back whenever it is saved, the snapshot on the disk is the one it would be saved as,
however the commands end and whatever becomes of the content in between.
-/

namespace RuleBound.Cli

open RuleBound.Task

namespace Workplace

variable {w : Workplace} {root : String} {s s' u u' : Session Shelf} {site : List String}

/-! ## Doing an errand -/

/-- The content store of a state that keeps its content in files. -/
def files (root : String) : ContentStore Shelf :=
  Shelf.onDisk (FileStore.store (Path.join root contentDirectory))

/-- What a client does about an errand. -/
def does (root : String) (c : Client) : Errand → Task Shelf Unit
  | .create _ intent => discard (c.create (files root) intent)
  | .access link _ action context =>
    match context with
    | .text s => discard (c.access (files root) (.text link) action (.member (Text.utf8 s)))
    | _ => throw .noPart

theorem IsAt.carry_eq (here : w.IsAt root) (e : Errand) : w.carry e =
    Task.ofExcept (w.client e.identity) >>= fun c => does root c e := by
  have store : w.contentStore = pure (files root) := by
    unfold contentStore
    rw [here.backend, here.root]
    rfl
  unfold carry
  rw [store]
  cases e <;> rfl

theorem surroundings_of_client {identity : String} {c : Client} (made : w.client identity = .ok c) :
    c.surroundings = w.surroundings := by
  obtain ⟨policy, -, made⟩ := bind_eq_ok_iff.mp made
  obtain ⟨origin, -, made⟩ := bind_eq_ok_iff.mp made
  obtain ⟨image, -, made⟩ := bind_eq_ok_iff.mp made
  cases made
  rfl

/-- An errand goes alike on sessions that are alike. -/
theorem follows_carry (here : w.IsAt root) (tied : s'.Alike s) (e : Errand) :
    Task.Follows Session.Alike (fun _ => False) (w.carry e) (w.carry e) s' s := by
  rw [here.carry_eq]
  refine follows_bind (follows_ofExcept tied _) fun c _ _ tied => ?_
  cases e with
  | create identity intent =>
    exact follows_bind (c.follows_create_self _ tied intent) fun _ _ _ tied => follows_pure tied _
  | access link identity action context =>
    cases context with
    | text s =>
      exact follows_bind (c.follows_access_self _ tied _ _ _) fun _ _ _ tied => follows_pure tied _
    | _ => exact follows_throw tied _

theorem exists_ends_of_discard {α : Type} {t : Task Shelf α} {r : Except Fault Unit}
    (ends : (discard t : Task Shelf Unit).Ends s r s') : ∃ x, t.Ends s x s' := by
  rcases ends_bind_iff.mp ends with ⟨a, t, answers, ends⟩ | ⟨f, fails, -⟩
  · obtain ⟨-, rfl⟩ := ends_pure_iff.mp ends
    exact ⟨.ok a, answers⟩
  · exact ⟨.error f, fails⟩

/-- An errand leaves a registry that can be read back from a page, if it was one. -/
theorem isPaged_carry (here : w.IsAt root) {e : Errand} {r : Except Fault Unit}
    (ends : (w.carry e).Ends s r s') (paged : s.registry.IsPaged) : s'.registry.IsPaged := by
  rw [here.carry_eq] at ends
  rcases ends_ofExcept_bind_iff.mp ends with ⟨c, made, ends⟩ | ⟨f, -, -, rfl⟩
  · have scalar : c.surroundings.correlation.isScalar = true := by
      rw [surroundings_of_client made]
      exact here.correlation
    cases e with
    | create identity intent =>
      obtain ⟨x, ends⟩ := exists_ends_of_discard ends
      exact Client.isPaged_create scalar ends paged
    | access link identity action context =>
      cases context with
      | text text =>
        obtain ⟨x, ends⟩ := exists_ends_of_discard ends
        exact Client.isPaged_access scalar ends paged
      | _ =>
        obtain ⟨-, rfl⟩ := ends_throw_iff.mp ends
        exact paged
  · exact paged

/-- An errand does nothing to the disk but put content into its store. -/
theorem leads_carry (here : w.IsAt root) {e : Errand} {r : Except Fault Unit}
    (ends : (w.carry e).Ends s r s') : (files root).Leads s.store s'.store := by
  rw [here.carry_eq] at ends
  rcases ends_ofExcept_bind_iff.mp ends with ⟨c, made, ends⟩ | ⟨f, -, -, rfl⟩
  · cases e with
    | create identity intent =>
      obtain ⟨x, ends⟩ := exists_ends_of_discard ends
      exact (c.isLawful_create _ intent _ _ _ ends).store
    | access link identity action context =>
      cases context with
      | text text =>
        obtain ⟨x, ends⟩ := exists_ends_of_discard ends
        exact (c.isLawful_accessGiven _ (.other _) _ _ _ _ _ ends).store
      | _ =>
        obtain ⟨-, rfl⟩ := ends_throw_iff.mp ends
        exact .refl
  · exact .refl

theorem disk_put_files (root : String) (st : Shelf) (content : Bytes) :
    ((files root).put st content).state.disk =
      (FileStore.put (Path.join root contentDirectory) st.disk content).state := by
  simp only [files, Shelf.onDisk, ContentStore.within, FileStore.store]

/-- A store in an open directory leaves what stands beside it. -/
theorem spares_of_leads {st st' : Shelf} (opened : st.disk.IsOpen root site)
    (leads : (files root).Leads st st') :
    Disk.Spares (site ++ [snapshotName]) st.disk st'.disk := by
  induction leads with
  | refl => exact .refl st.disk
  | tail before step ih =>
    rcases step with ⟨content, rfl⟩ | ⟨pointer, rfl⟩
    · have put := FileStore.spares_put (ih.isOpen opened) isPlain_contentDirectory
        (show snapshotName.toList.length < 68 by decide) (by decide) content
      rw [disk_put_files]
      exact ih.trans put
    · exact ih

/-! ## Loading and saving -/

theorem snapshotAt_put {d : Disk}
    (located : d.locate (Path.join root snapshotName) = .ok (site ++ [snapshotName]))
    (free : d.entry? (site ++ [snapshotName]) ≠ some .directory) (content : Bytes) :
    snapshotAt root (d.put (site ++ [snapshotName]) (.file content)) = some content := by
  have there : (d.put (site ++ [snapshotName]) (.file content)).placeOf
      (Path.join root snapshotName) = site ++ [snapshotName] :=
    (Disk.eq_placeOf_of_locate located).symm
  have given : ¬ Disk.isGiven (site ++ [snapshotName]) = true := by
    intro given
    rw [ Disk.entry?, if_pos given] at free
    exact free rfl
  rw [snapshotAt, there, Disk.entry_put, if_neg given, if_pos rfl]

/-- A registry is written into its snapshot unless a number in it is too long. -/
theorem snapshotAt_of_saveRegistry (here : w.IsAt root)
    (located : s.store.disk.locate (Path.join root snapshotName) = .ok (site ++ [snapshotName]))
    (free : s.store.disk.entry? (site ++ [snapshotName]) ≠ some .directory)
    {d : Document} (written : s.registry.snapshot = .ok d) (short : d.hasLongNumeral = false)
    {r : Except Fault Unit} (ends : w.saveRegistry.Ends s r s') :
    snapshotAt root s'.store.disk = some (Text.utf8 (d.toJson .page)) := by
  have saves : (changeDisk fun disk => disk.write (Path.join root snapshotName)
      (Text.utf8 (d.toJson .page))).Ends s r s' := by
    unfold saveRegistry at ends
    rw [here.snapshotPath_eq] at ends
    have rest := (ends_bind_iff_of_ends (ends_ofExcept_iff.mpr ⟨rfl, rfl⟩)).mp ends
    rw [ends_get_bind_iff, written] at rest
    have rest' := (ends_bind_iff_of_ends (ends_ofExcept_iff.mpr ⟨rfl, rfl⟩)).mp rest
    rwa [short, if_neg Bool.false_ne_true] at rest'
  have write : s.store.disk.write (Path.join root snapshotName) (Text.utf8 (d.toJson .page)) =
      .ok (s.store.disk.put (site ++ [snapshotName]) (.file (Text.utf8 (d.toJson .page)))) := by
    unfold Disk.write
    rw [located, ok_bind]
    split
    · next there => exact absurd there free
    · rfl
  rcases ends_changeDisk saves with ⟨disk, changed, -, rfl⟩ | ⟨fault, failed, -⟩
  · cases write.symm.trans changed
    exact snapshotAt_put located free _
  · cases write.symm.trans failed

/-- A registry that has no snapshot, or one with a number that is too long, is not saved. -/
theorem eq_of_saveRegistry (here : w.IsAt root)
    (long : ∀ d, s.registry.snapshot = .ok d → d.hasLongNumeral = true) {r : Except Fault Unit}
    (ends : w.saveRegistry.Ends s r s') : s' = s := by
  unfold saveRegistry at ends
  rw [here.snapshotPath_eq] at ends
  have rest := (ends_bind_iff_of_ends (ends_ofExcept_iff.mpr ⟨rfl, rfl⟩)).mp ends
  rw [ends_get_bind_iff, ends_ofExcept_bind_iff] at rest
  rcases rest with ⟨d, written, ends⟩ | ⟨f, -, -, same⟩
  · rw [long d written, if_pos rfl] at ends
    exact (ends_throw_iff.mp ends).2
  · exact same

/-- An errand leaves the snapshot, and the way to it. -/
theorem IsIn.after_carry (inside : w.IsIn root s site) (here : w.IsAt root) {e : Errand}
    {x : Except Fault Unit} (done : (w.carry e).Ends s x s') :
    s'.store.disk.locate (Path.join root snapshotName) = .ok (site ++ [snapshotName]) ∧
      s'.store.disk.entry? (site ++ [snapshotName]) ≠ some .directory ∧
      snapshotAt root s'.store.disk = snapshotAt root s.store.disk := by
  have spares := spares_of_leads inside.opened (leads_carry here done)
  refine ⟨Disk.locate_of_directories spares.here spares.directories inside.located, ?_, ?_⟩
  · rw [spares.same]
    exact inside.free
  · rw [Disk.eq_placeOf_of_locate inside.located] at spares
    exact snapshotAt_of_spares spares

end Workplace

/-- Whether the snapshot of a state is that of a registry. While there is none, the registry is
empty. -/
def IsKept (root : String) (d : Disk) (reg : Registry) : Prop :=
  snapshotAt root d = none ∧ reg = {} ∨
    ∃ doc, reg.snapshot = .ok doc ∧ snapshotAt root d = some (Text.utf8 (doc.toJson .page))

/-- Where the snapshot is left as it was, it is still that of the same registry. -/
theorem IsKept.of_same {root : String} {d d' : Disk} {reg : Registry} (held : IsKept root d reg)
    (same : snapshotAt root d' = snapshotAt root d) : IsKept root d' reg := by
  unfold IsKept
  rw [same]
  exact held

/-- A snapshot is that of registries with the same records of events only. -/
theorem IsKept.records_eq {root : String} {d : Disk} {reg reg' : Registry}
    (held : IsKept root d reg) (held' : IsKept root d reg') (paged : reg.IsPaged)
    (paged' : reg'.IsPaged) (written : ∃ text, reg.saved = .ok text)
    (written' : ∃ text, reg'.saved = .ok text) : reg.log.records = reg'.log.records := by
  rcases held with ⟨absent, rfl⟩ | ⟨doc, snapshot, held⟩ <;>
    rcases held' with ⟨absent', rfl⟩ | ⟨doc', snapshot', held'⟩
  · rfl
  · cases absent.symm.trans held'
  · cases absent'.symm.trans held
  · obtain ⟨es, holds⟩ := paged.entries
    obtain ⟨es', holds'⟩ := paged'.entries
    cases holds.snapshot_eq.symm.trans snapshot
    cases holds'.snapshot_eq.symm.trans snapshot'
    have bytes := congrArg Text.fromUtf8 (Option.some.inj (held.symm.trans held'))
    rw [Text.fromUtf8_utf8, Text.fromUtf8_utf8] at bytes
    have same := holds.reread_eq_of_page holds' paged.flat paged'.flat (holds.written_iff.mp written)
      (holds'.written_iff.mp written') (Except.ok.inj bytes)
    exact congrArg (fun reg => reg.log.records) same

namespace Workplace

variable {w : Workplace} {root : String} {s : Session Shelf} {site : List String}

/-- From the snapshot of a registry that comes back the registry is loaded, up to the order of its
whitelists. -/
theorem IsIn.inOrder_registry (inside : w.IsIn root s site) {reg : Registry}
    (kept : IsKept root s.store.disk reg) (paged : reg.IsPaged) (back : reg.ComesBack) :
    s.registry.inOrder = reg.inOrder ∧ s.registry.IsPaged := by
  rcases kept with ⟨none, rfl⟩ | ⟨doc, written, held⟩
  · rw [inside.absent none]
    exact ⟨rfl, Registry.isPaged_empty⟩
  · obtain ⟨es, holds⟩ := paged.entries
    cases holds.snapshot_eq.symm.trans written
    have parsed := holds.parse_page (holds.written_iff.mp back.written)
    obtain ⟨d, drawn, drawn', read, restored⟩ := inside.loaded _ held
    unfold snapshotDocument at read
    simp only [Text.fromUtf8_utf8, parsed] at read
    cases read
    have loaded := (holds.restore_page paged.flat w.surroundings drawn).symm.trans restored
    rw [Prod.mk.injEq, Except.ok.injEq] at loaded
    rw [← loaded.2]
    exact ⟨holds.inOrder_reread back, ⟨_, holds.reread⟩, paged.flat⟩

/-- An errand on a registry in memory ends as it does on one that agrees with it up to the order of
its whitelists, and what is written back of the latter is the snapshot of the former. -/
theorem IsIn.isKept_of_carry (inside : w.IsIn root s site) (here : w.IsAt root) {reg : Registry}
    (same : s.registry.inOrder = reg.inOrder) (loaded : s.registry.IsPaged) (paged : reg.IsPaged)
    {e : Errand} {x saved : Except Fault Unit} {t s' : Session Shelf}
    (done : (w.carry e).Ends s x t) (written : w.saveRegistry.Ends t saved s') :
    ∃ t', (w.carry e).Ends { s with registry := reg } x t' ∧ t'.registry.IsPaged ∧
      ((∃ text, t'.registry.saved = .ok text) → IsKept root s'.store.disk t'.registry) := by
  have tied : s.Alike { s with registry := reg } := ⟨same, rfl, rfl, rfl, rfl⟩
  obtain ⟨t', done', tied'⟩ := (follows_carry here tied e).exists_ends done
  have paged' := isPaged_carry here done' paged
  refine ⟨t', done', paged', fun fine => ?_⟩
  obtain ⟨es, holds⟩ := (isPaged_carry here done loaded).entries
  obtain ⟨es', holds'⟩ := paged'.entries
  obtain ⟨located, free, -⟩ := inside.after_carry here done
  have snapshot : t.registry.snapshot = .ok (t'.registry.document es') := by
    rw [holds.snapshot_congr holds' tied'.registry, holds'.snapshot_eq]
  exact .inr ⟨_, holds'.snapshot_eq, snapshotAt_of_saveRegistry here located free snapshot
    (holds'.written_iff.mp fine) written⟩

end Workplace

/-! ## Attendance -/

namespace Machine

/-- The registry in memory after a command line: if its command comes to its errand and to the
state, the errand is done on the registry in memory as it is on the one that was loaded. -/
def attend (m : Machine) (args : List String) (kept : Registry) : Registry :=
  match m.setup? args with
  | none => kept
  | some (w, c) =>
    match c.errand? with
    | none => kept
    | some errand =>
      match ((w.approach errand).run.run m.session).run with
      | (.error _, _) => kept
      | (.ok e, s) => ((w.carry e).run.run { s with registry := kept }).run.2.registry

variable {m : Machine} {args : List String} {kept : Registry} {root : String}

/-- A command line without an errand is not attended. -/
theorem attend_of_idle (idle : ∀ w c, m.setup? args = some (w, c) → c.errand? = none) :
    m.attend args kept = kept := by
  unfold attend
  cases is : m.setup? args with
  | none => rfl
  | some found =>
    obtain ⟨w, c⟩ := found
    dsimp only
    rw [idle w c is]

variable {w : Workplace} {c : Command} {errand : Task Shelf Errand} {s : Session Shelf}

/-- A command that does not come to the state is not attended. -/
theorem attend_of_stopped (is : m.setup? args = some (w, c)) (wanted : c.errand? = some errand)
    {f : Fault} (failed : (w.approach errand).Ends m.session (.error f) s) :
    m.attend args kept = kept := by
  rw [Task.Ends] at failed
  unfold attend
  simp only [is, wanted, failed]

/-- A command that comes to the state is attended by doing its errand. -/
theorem attend_of_came (is : m.setup? args = some (w, c)) (wanted : c.errand? = some errand)
    {e : Errand} (came : (w.approach errand).Ends m.session (.ok e) s) {r : Except Fault Unit}
    {s' : Session Shelf} (done : (w.carry e).Ends { s with registry := kept } r s') :
    m.attend args kept = s'.registry := by
  rw [Task.Ends] at came done
  unfold attend
  simp only [is, wanted, came, done]

/-- A command leaves the snapshot of the registry that attends it, if that comes back before and can
be written after it. -/
theorem isKept_attend (here : ∀ w c, m.setup? args = some (w, c) → w.IsAt root)
    (paged : kept.IsPaged) (back : kept.ComesBack) (held : IsKept root m.disk kept) :
    (m.attend args kept).IsPaged ∧ ((∃ text, (m.attend args kept).saved = .ok text) →
      IsKept root (m.run args).1.disk (m.attend args kept)) := by
  rcases m.disk_run args with ⟨w, c, r, s, is, ends, left⟩ | ⟨is, left⟩
  · have at_ := here w c is
    have before : IsKept root m.session.store.disk kept := held
    rw [left]
    cases wanted : c.errand? with
    | none =>
      have idle : ∀ w' c', m.setup? args = some (w', c') → c'.errand? = none := by
        rintro w' c' is'
        cases is.symm.trans is'
        exact wanted
      rw [attend_of_idle idle]
      refine ⟨paged, fun _ => before.of_same ?_⟩
      rw [w.isReading_perform wanted _ _ _ ends]
    | some errand =>
      have keeps := at_.keepsSnapshot_approach wanted
      cases w.passes_perform wanted ends with
      | stopped failed =>
        rw [attend_of_stopped is wanted failed]
        exact ⟨paged, fun _ => before.of_same (keeps _ _ _ failed)⟩
      | saved came done written =>
        obtain ⟨site, inside⟩ := at_.isIn_of_approach came
        obtain ⟨same, loaded⟩ :=
          inside.inOrder_registry (before.of_same (keeps _ _ _ came)) paged back
        obtain ⟨t', done', paged', kept'⟩ :=
          inside.isKept_of_carry at_ same loaded paged done written
        rw [attend_of_came is wanted came done']
        exact ⟨paged', kept'⟩
  · have idle : ∀ w c, m.setup? args = some (w, c) → c.errand? = none := by
      rintro w c is'
      cases is.symm.trans is'
    rw [attend_of_idle idle, left]
    exact ⟨paged, fun _ => held⟩

end Machine

end RuleBound.Cli
