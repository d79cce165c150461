import RuleBound.Proofs.Cli.Errand
import RuleBound.Proofs.Siblings

/-!
Coming to the state. How a task ends and what it leaves is asked of it where it is started; of tasks
in sequence it is asked one after the other. So it is told what comes of looking for a file, of
reading one, and of loading the registry.

A command with an errand makes the directory of the state, marks it as in use and loads the
registry, and on the way it leaves the snapshot as it is, also if it cannot go on. If it gets there,
the snapshot is a file in an open directory, or there is none yet, and the registry is what was read
from it.
-/

namespace RuleBound.Cli

open RuleBound.Task

/-! ## What a task leaves, however it ends -/

section Meets

variable {α β : Type} {s : Session Shelf} {Q : Except Fault α → Session Shelf → Prop}

/-- Whether what a task ends with and leaves, when it is started on a session, is as asked. -/
def Meets (t : Task Shelf α) (s : Session Shelf) (Q : Except Fault α → Session Shelf → Prop) : Prop :=
  ∀ r s', t.Ends s r s' → Q r s'

theorem meets_pure {a : α} (asked : Q (.ok a) s) : Meets (pure a) s Q := by
  intro r s' ends
  obtain ⟨rfl, rfl⟩ := ends_pure_iff.mp ends
  exact asked

theorem meets_throw {f : Fault} (asked : Q (.error f) s) : Meets (throw f) s Q := by
  intro r s' ends
  obtain ⟨rfl, rfl⟩ := ends_throw_iff.mp ends
  exact asked

theorem meets_throw_bind {f : Fault} {rest : β → Task Shelf α} (asked : Q (.error f) s) :
    Meets (throw f >>= rest) s Q := by
  intro r s' ends
  obtain ⟨rfl, rfl⟩ := ends_throw_bind_iff.mp ends
  exact asked

/-- Of two tasks in sequence the second starts from what the first has left. -/
theorem Meets.bind {t : Task Shelf β} {P : Except Fault β → Session Shelf → Prop}
    {rest : β → Task Shelf α} (first : Meets t s P)
    (answered : ∀ b u, P (.ok b) u → Meets (rest b) u Q)
    (failed : ∀ f u, P (.error f) u → Q (.error f) u) : Meets (t >>= rest) s Q := by
  intro r s' ends
  rcases ends_bind_iff.mp ends with ⟨b, u, answers, ends⟩ | ⟨f, fails, rfl⟩
  · exact answered b u (first _ u answers) r s' ends
  · exact failed f s' (first _ s' fails)

theorem meets_ofExcept_bind {x : Except Fault β} {rest : β → Task Shelf α}
    (answered : ∀ b, x = .ok b → Meets (rest b) s Q)
    (failed : ∀ f, x = .error f → Q (.error f) s) : Meets (Task.ofExcept x >>= rest) s Q := by
  intro r s' ends
  rcases ends_ofExcept_bind_iff.mp ends with ⟨b, known, ends⟩ | ⟨f, known, rfl, rfl⟩
  · exact answered b known r s' ends
  · exact failed f known

theorem meets_get_bind {rest : Session Shelf → Task Shelf α} (asked : Meets (rest s) s Q) :
    Meets (get >>= rest) s Q :=
  fun r s' ends => asked r s' (ends_get_bind_iff.mp ends)

theorem meets_modify_bind {g : Session Shelf → Session Shelf} {rest : PUnit → Task Shelf α}
    (asked : Meets (rest ⟨⟩) (g s) Q) : Meets (modify g >>= rest) s Q := by
  intro r s' ends
  rcases ends_bind_iff.mp ends with ⟨⟨⟩, u, changes, ends⟩ | ⟨f, fails, -⟩
  · obtain ⟨-, rfl⟩ := Workplace.ends_modify_iff.mp changes
    exact asked r s' ends
  · cases (Workplace.ends_modify_iff.mp fails).1

end Meets

namespace Workplace

variable {w : Workplace}

/-! ## Files -/

/-- What comes of asking the disk: its answer, or a fault of it. -/
inductive Finds {α : Type} (x : Except DiskFault α) : Except Fault α → Prop
  | answer {a : α} (is : x = .ok a) : Finds x (.ok a)
  | fault (fault : DiskFault) : Finds x (.error (.disk fault))

theorem meets_isThere (path : String) (s : Session Shelf) :
    Meets (isThere path) s fun r s' => s' = s ∧ Finds (s.store.disk.exists? path) r := by
  refine meets_get_bind ?_
  cases there : s.store.disk.exists? path with
  | ok found => exact meets_pure ⟨rfl, .answer rfl⟩
  | error fault => exact meets_throw ⟨rfl, .fault fault⟩

theorem meets_readFile (path : String) (s : Session Shelf) :
    Meets (readFile path) s fun r s' => s' = s ∧ Finds (s.store.disk.read path) r := by
  refine meets_get_bind ?_
  cases there : s.store.disk.read path with
  | ok content => exact meets_pure ⟨rfl, .answer rfl⟩
  | error fault => exact meets_throw ⟨rfl, .fault fault⟩

/-! ## Loading the registry -/

/-- What comes of loading the registry from a disk: a fault of the disk, an empty registry if there is
no snapshot, a complaint if the snapshot is no document, or else what its document is restored as. -/
inductive LoadsAs (w : Workplace) (disk : Disk) (path : String) : Except Fault Registry → Prop
  | blocked (fault : DiskFault) : LoadsAs w disk path (.error (.disk fault))
  | missing (none : disk.exists? path = .ok false) : LoadsAs w disk path (.ok {})
  | corrupt {content : Bytes} {f : Fault} (read : disk.read path = .ok content)
    (failed : snapshotDocument path content = .error f) : LoadsAs w disk path (.error f)
  | restored {content : Bytes} {d : Document} {r : Except Fault Registry} {drawn : Nat}
    (read : disk.read path = .ok content) (parsed : snapshotDocument path content = .ok d)
    (restored : (Registry.restore w.surroundings drawn d).2 = r) : LoadsAs w disk path r

/-- The registry is loaded as the disk has it, and the disk is left. -/
theorem meets_loadRegistry {path : String} (named : w.snapshotPath = .ok path) (s : Session Shelf) :
    Meets w.loadRegistry s fun r s' => s'.store = s.store ∧ w.LoadsAs s.store.disk path r ∧
      ∀ reg, r = .ok reg → s'.registry = reg := by
  unfold loadRegistry
  refine meets_ofExcept_bind (fun path' known => ?_) fun f failed => by cases named.symm.trans failed
  cases named.symm.trans known
  refine (meets_isThere path s).bind ?_ fun f u ⟨same, finds⟩ => ?_
  swap
  · cases finds with | fault fault => exact ⟨same ▸ rfl, .blocked fault, nofun⟩
  rintro found u ⟨rfl, finds⟩
  cases finds with | answer there =>
  cases found with
  | false =>
    exact meets_modify_bind (meets_pure ⟨rfl, .missing there, fun reg is => Except.ok.inj is⟩)
  | true =>
    refine (meets_readFile path _).bind ?_ fun f u ⟨same, finds⟩ => ?_
    swap
    · cases finds with | fault fault => exact ⟨same ▸ rfl, .blocked fault, nofun⟩
    rintro content u ⟨rfl, finds⟩
    cases finds with | answer read =>
    refine meets_ofExcept_bind (fun d parsed => ?_) fun f failed =>
      ⟨rfl, .corrupt read failed, nofun⟩
    refine meets_get_bind ?_
    generalize restores : Registry.restore w.surroundings u.draws.eventIds d = answer
    obtain ⟨drawn', answer⟩ := answer
    have result : (Registry.restore w.surroundings u.draws.eventIds d).2 = answer :=
      congrArg Prod.snd restores
    refine meets_modify_bind (meets_ofExcept_bind (fun reg is => ?_) fun f failed => ?_)
    · exact meets_modify_bind (meets_pure ⟨rfl, .restored read parsed (result.trans is),
        fun reg' same => Except.ok.inj same⟩)
    · exact ⟨rfl, .restored read parsed (result.trans failed), nofun⟩

end Workplace

/-! ## The snapshot -/

/-- The name of the snapshot unless another one is set. -/
def snapshotName : String := "registry.json"

theorem isPlain_snapshotName : Path.IsPlain snapshotName := by
  refine ⟨by decide, by decide, by decide, by decide, by decide⟩

theorem isPlain_lockName : Path.IsPlain Workplace.lockName := by
  refine ⟨by decide, by decide, by decide, by decide, by decide⟩

theorem isPlain_contentDirectory : Path.IsPlain Workplace.contentDirectory := by
  refine ⟨by decide, by decide, by decide, by decide, by decide⟩

/-- What the snapshot of a state holds, if there is one. -/
def snapshotAt (root : String) (d : Disk) : Option Bytes :=
  match d.entry? (d.placeOf (Path.join root snapshotName)) with
  | some (.file content) => some content
  | _ => none

section Snapshots

variable {root : String} {d d' : Disk}

/-- The place of the snapshot is not that of the mark beside it. -/
theorem placeOf_snapshot_ne (root : String) (d : Disk) (site : List String) :
    site ++ [Workplace.lockName] ≠ d.placeOf (Path.join root snapshotName) := by
  obtain ⟨front, isFront, joined⟩ := Path.exists_front_of_join root
  obtain ⟨before, split⟩ := isFront.exists_split
  have steps : Path.split (Path.join root snapshotName) = before ++ [snapshotName] := by
    rw [joined _ isPlain_snapshotName, split _ isPlain_snapshotName]
  intro same
  rcases d.placeOf_eq_concat steps isPlain_snapshotName.real with ⟨place, is⟩ | is
  · have last := (List.append_inj' (same.trans is) rfl).2
    exact absurd (List.singleton_inj.mp last) (by decide)
  · rw [is] at same
    simp at same

theorem snapshotAt_of_spares
    (spares : Disk.Spares (d.placeOf (Path.join root snapshotName)) d d') :
    snapshotAt root d' = snapshotAt root d := by
  have place : d'.placeOf (Path.join root snapshotName) =
      d.placeOf (Path.join root snapshotName) := by
    unfold Disk.placeOf Disk.relative
    rw [spares.here]
  unfold snapshotAt
  rw [place, spares.same]

/-- Making directories leaves the snapshot. -/
theorem snapshotAt_makeDirectory (root : String) (d : Disk) (path : String) :
    snapshotAt root (d.makeDirectory path).1 = snapshotAt root d := by
  have grows := d.grows_makeDirectory path
  unfold snapshotAt
  rw [grows.placeOf_eq]
  generalize d.placeOf (Path.join root snapshotName) = place
  cases there : d.entry? place with
  | some node => rw [grows.old place node there]
  | none =>
    cases there' : Disk.entry? (d.makeDirectory path).1 place with
    | none => rfl
    | some node =>
      rcases grows.fresh place node there' with old | ⟨rfl, -⟩
      · rw [there] at old
        cases old
      · rfl

end Snapshots

namespace Workplace

variable {w : Workplace} {root : String} {s s' : Session Shelf}

/-- Whether a workplace has its state in a directory, under the usual names and with content in
files, and works in no correlation but a scalar. -/
structure IsAt (w : Workplace) (root : String) : Prop where
  root : w.root = .ok root
  snapshot : w.text .snapshotFile = .ok snapshotName
  backend : w.settings.get .backend = .ok (.text "file")
  correlation : w.surroundings.correlation.isScalar = true

theorem IsAt.snapshotPath_eq (here : w.IsAt root) :
    w.snapshotPath = .ok (Path.join root snapshotName) := by
  unfold snapshotPath
  rw [here.root, here.snapshot]
  rfl

theorem ends_makeDirectory {path : String} {r : Except Fault Unit}
    (ends : (makeDirectory path).Ends s r s') :
    s'.store.disk = (s.store.disk.makeDirectory path).1 := by
  unfold makeDirectory at ends
  rw [ends_get_bind_iff] at ends
  generalize s.store.disk.makeDirectory path = made at ends ⊢
  obtain ⟨disk, result⟩ := made
  rw [ends_set_bind_iff] at ends
  cases result with
  | ok done =>
    obtain ⟨-, rfl⟩ := ends_pure_iff.mp ends
    rfl
  | error fault =>
    obtain ⟨-, rfl⟩ := ends_throw_iff.mp ends
    rfl

theorem ends_changeDisk {change : Disk → Except DiskFault Disk} {r : Except Fault Unit}
    (ends : (changeDisk change).Ends s r s') :
    (∃ disk, change s.store.disk = .ok disk ∧ r = .ok () ∧
      s' = { s with store := { s.store with disk := disk } }) ∨
    ∃ fault, change s.store.disk = .error fault ∧ r = .error (.disk fault) ∧ s' = s := by
  unfold changeDisk at ends
  rw [ends_get_bind_iff] at ends
  cases changed : change s.store.disk with
  | ok disk =>
    rw [changed] at ends
    obtain ⟨rfl, rfl⟩ := ends_set_iff.mp ends
    exact .inl ⟨disk, rfl, rfl, rfl⟩
  | error fault =>
    rw [changed] at ends
    obtain ⟨rfl, rfl⟩ := ends_throw_iff.mp ends
    exact .inr ⟨fault, rfl, rfl, rfl⟩

/-- A file that was touched stands in the place to which its path leads. -/
theorem exists_of_touch {path : String} {d d' : Disk} (touched : touch path d = .ok d') :
    ∃ place, d.locate path = .ok place ∧ d.entry? place ≠ some .directory ∧
      (d' = d ∨ d' = d.put place (.file [])) := by
  unfold touch at touched
  split at touched
  · next content found =>
    cases touched
    obtain ⟨place, located, there⟩ := Disk.look_eq_ok_iff.mp found
    exact ⟨place, located, there ▸ nofun, .inl rfl⟩
  · obtain ⟨place, located, free, rfl⟩ := Disk.exists_of_write touched
    exact ⟨place, located, free, .inr rfl⟩

/-- Marking a state opens its directory and leaves the snapshot. -/
theorem touch_lock {d d' : Disk} (touched : touch (Path.join root lockName) d = .ok d') :
    (∃ site, d'.IsOpen root site) ∧ snapshotAt root d' = snapshotAt root d := by
  obtain ⟨place, located, free, left⟩ := exists_of_touch touched
  have inside : place ≠ [] := by
    rintro rfl
    exact free rfl
  obtain ⟨site, rfl, opened⟩ := Disk.isOpen_of_locate isPlain_lockName located inside
  have spares : Disk.Spares (d.placeOf (Path.join root snapshotName)) d d' := by
    rcases left with rfl | rfl
    · exact .refl d'
    · exact .put (placeOf_snapshot_ne root d site) free
  exact ⟨⟨site, spares.isOpen opened⟩, snapshotAt_of_spares spares⟩

/-- Whether a session has come to the state in a directory. -/
structure IsIn (w : Workplace) (root : String) (s : Session Shelf) (site : List String) : Prop where
  opened : s.store.disk.IsOpen root site
  located : s.store.disk.locate (Path.join root snapshotName) = .ok (site ++ [snapshotName])
  free : s.store.disk.entry? (site ++ [snapshotName]) ≠ some .directory
  absent : snapshotAt root s.store.disk = none → s.registry = {}
  loaded : ∀ content, snapshotAt root s.store.disk = some content →
    ∃ d drawn drawn', snapshotDocument (Path.join root snapshotName) content = .ok d ∧
      Registry.restore w.surroundings drawn d = (drawn', .ok s.registry)

/-- What a sequence answers is what its last task does. -/
theorem exists_of_ends_bind {α β : Type} {t : Task Shelf α} {f : α → Task Shelf β} {b : β}
    (ends : (t >>= f).Ends s (.ok b) s') : ∃ a u, t.Ends s (.ok a) u ∧ (f a).Ends u (.ok b) s' := by
  rcases ends_bind_iff.mp ends with answers | ⟨f, -, failed⟩
  · exact answers
  · cases failed

/-- The registry is loaded from the file that stands at the path, or is empty if nothing does. -/
theorem ends_loadRegistry {path : String} (named : w.snapshotPath = .ok path) {reg : Registry}
    (ends : w.loadRegistry.Ends s (.ok reg) s') :
    s'.store = s.store ∧ (s.store.disk.exists? path = .ok false ∧ s'.registry = {} ∨
      ∃ content d drawn drawn', s.store.disk.read path = .ok content ∧
        snapshotDocument path content = .ok d ∧
        Registry.restore w.surroundings drawn d = (drawn', .ok s'.registry)) := by
  obtain ⟨store, loads, registry⟩ := meets_loadRegistry named s _ s' ends
  refine ⟨store, ?_⟩
  rw [registry reg rfl]
  cases loads with
  | missing none => exact .inl ⟨none, rfl⟩
  | restored read parsed restored =>
    exact .inr ⟨_, _, _, _, read, parsed, Prod.ext rfl restored⟩

theorem snapshotAt_of_locate {d : Disk} {place : List String}
    (located : d.locate (Path.join root snapshotName) = .ok place) :
    snapshotAt root d = match d.entry? place with
      | some (.file content) => some content
      | _ => none := by
  rw [snapshotAt, ← Disk.eq_placeOf_of_locate located]

/-- In a state from which the registry was loaded the snapshot is a file, or there is none yet. -/
theorem isIn_of_loadRegistry (here : w.IsAt root) {site : List String}
    (opened : s.store.disk.IsOpen root site) {reg : Registry}
    (ends : w.loadRegistry.Ends s (.ok reg) s') : w.IsIn root s' site := by
  obtain ⟨store, loads⟩ := ends_loadRegistry here.snapshotPath_eq ends
  rw [← store] at opened loads
  have located : s'.store.disk.locate (Path.join root snapshotName) =
      .ok (site ++ [snapshotName]) := by
    rcases opened.leads _ isPlain_snapshotName with there | current | long
    · exact there
    · have given := Disk.look_eq_ok_iff.mpr ⟨[], current, rfl⟩
      rcases loads with ⟨missing, -⟩ | ⟨content, d, drawn, drawn', read, -⟩
      · exact absurd given (FileStore.look_ne_ok_of_exists? missing _)
      · cases given.symm.trans (Disk.read_eq_ok_iff.mp read)
    · rcases loads with ⟨missing, -⟩ | ⟨content, d, drawn, drawn', read, -⟩
      · rw [Disk.exists?, Disk.look, long.locate_eq] at missing
        cases missing
      · obtain ⟨place, located, -⟩ := Disk.look_eq_ok_iff.mp (Disk.read_eq_ok_iff.mp read)
        cases (long.locate_eq _).symm.trans located
  have held := snapshotAt_of_locate located
  rcases loads with ⟨missing, empty⟩ | ⟨content, d, drawn, drawn', read, parsed, restored⟩
  · have none : ∀ node, s'.store.disk.entry? (site ++ [snapshotName]) ≠ some node :=
      fun node there => FileStore.look_ne_ok_of_exists? missing node
        (Disk.look_eq_ok_iff.mpr ⟨_, located, there⟩)
    rw [Option.eq_none_iff_forall_ne_some.mpr none] at held
    refine ⟨opened, located, none _, fun _ => empty, fun content held' => ?_⟩
    cases held.symm.trans held'
  · obtain ⟨place, located', there⟩ := Disk.look_eq_ok_iff.mp (Disk.read_eq_ok_iff.mp read)
    cases located.symm.trans located'
    rw [there] at held
    refine ⟨opened, located, there ▸ nofun, fun none => ?_, fun content' held' => ?_⟩
    · cases held.symm.trans none
    · cases held.symm.trans held'
      exact ⟨d, drawn, drawn', parsed, restored⟩

/-- Whether a task leaves the snapshot of a state, however it ends. -/
def KeepsSnapshot {α : Type} (root : String) (t : Task Shelf α) : Prop :=
  ∀ s r s', t.Ends s r s' → snapshotAt root s'.store.disk = snapshotAt root s.store.disk

theorem IsReading.keepsSnapshot {α : Type} {t : Task Shelf α} (reading : IsReading t)
    (root : String) : KeepsSnapshot root t := by
  intro s r s' ends
  rw [reading s r s' ends]

theorem KeepsSnapshot.bind {α β : Type} {t : Task Shelf α} {f : α → Task Shelf β}
    (first : KeepsSnapshot root t) (rest : ∀ a, KeepsSnapshot root (f a)) :
    KeepsSnapshot root (t >>= f) := by
  intro s r s' ends
  rcases ends_bind_iff.mp ends with ⟨a, u, answers, ends⟩ | ⟨e, fails, -⟩
  · exact (rest a u r s' ends).trans (first s _ u answers)
  · exact first s _ s' fails

theorem keepsSnapshot_makeDirectory (root path : String) :
    KeepsSnapshot root (makeDirectory path) := by
  intro s r s' ends
  rw [ends_makeDirectory ends, snapshotAt_makeDirectory]

theorem keepsSnapshot_touch_lock (root : String) :
    KeepsSnapshot root (changeDisk (touch (Path.join root lockName))) := by
  intro s r s' ends
  rcases ends_changeDisk ends with ⟨disk, touched, -, rfl⟩ | ⟨fault, -, -, rfl⟩
  · exact (touch_lock touched).2
  · rfl

theorem enter_eq {path : String} (rooted : w.root = .ok root) (named : w.snapshotPath = .ok path) :
    w.enter = (do
      makeDirectory root
      changeDisk (touch (Path.join root lockName))
      let _ ← w.loadRegistry
      return ()) := by
  unfold enter
  rw [rooted, named]
  rfl

/-- Coming to the state leaves the snapshot, whether one gets there or not. -/
theorem IsAt.keepsSnapshot_enter (here : w.IsAt root) : KeepsSnapshot root w.enter := by
  rw [enter_eq here.root here.snapshotPath_eq]
  exact (keepsSnapshot_makeDirectory root root).bind fun _ =>
    (keepsSnapshot_touch_lock root).bind fun _ =>
      (w.isReading_loadRegistry.keepsSnapshot root).bind fun _ =>
        (isReading_pure ()).keepsSnapshot root

/-- One who has come to the state is in it. -/
theorem IsAt.isIn_of_enter (here : w.IsAt root) (ends : w.enter.Ends s (.ok ()) s') :
    ∃ site, w.IsIn root s' site := by
  rw [enter_eq here.root here.snapshotPath_eq] at ends
  obtain ⟨⟨⟩, t, -, marks⟩ := exists_of_ends_bind ends
  obtain ⟨⟨⟩, u, marked, loads⟩ := exists_of_ends_bind marks
  obtain ⟨reg, v, loaded, answers⟩ := exists_of_ends_bind loads
  obtain ⟨-, rfl⟩ := ends_pure_iff.mp answers
  rcases ends_changeDisk marked with ⟨disk, touched, -, rfl⟩ | ⟨fault, -, failed, -⟩
  · obtain ⟨⟨site, opened⟩, -⟩ := touch_lock touched
    exact ⟨site, isIn_of_loadRegistry here opened loaded⟩
  · cases failed

/-- A command comes to its errand without writing anything. -/
theorem isReading_errand {c : Command} {errand : Task Shelf Errand}
    (wanted : c.errand? = some errand) : IsReading errand := by
  cases c with
  | create path identity contentFile =>
    rw [← Option.some.inj wanted]
    exact (isReading_intentAt _ _).bind fun _ => isReading_pure _
  | access link identity action context =>
    rw [← Option.some.inj wanted]
    exact isReading_pure _
  | _ => cases wanted

/-- Coming to an errand and to the state leaves the snapshot. -/
theorem IsAt.keepsSnapshot_approach (here : w.IsAt root) {c : Command} {errand : Task Shelf Errand}
    (wanted : c.errand? = some errand) : KeepsSnapshot root (w.approach errand) :=
  ((isReading_errand wanted).keepsSnapshot root).bind fun e =>
    here.keepsSnapshot_enter.bind fun _ => (isReading_pure e).keepsSnapshot root

theorem IsAt.isIn_of_approach (here : w.IsAt root) {errand : Task Shelf Errand} {e : Errand}
    (ends : (w.approach errand).Ends s (.ok e) s') : ∃ site, w.IsIn root s' site := by
  obtain ⟨e', t, -, enters⟩ := exists_of_ends_bind ends
  obtain ⟨⟨⟩, u, entered, answers⟩ := exists_of_ends_bind enters
  obtain ⟨-, rfl⟩ := ends_pure_iff.mp answers
  exact here.isIn_of_enter entered

/-! ## Getting there -/

theorem ends_isThere_of_exists? {path : String} {found : Bool}
    (there : s.store.disk.exists? path = .ok found) : (isThere path).Ends s (.ok found) s := by
  unfold isThere
  rw [ends_get_bind_iff, there]
  exact ends_pure_iff.mpr ⟨rfl, rfl⟩

theorem ends_readFile_of_read {path : String} {content : Bytes}
    (there : s.store.disk.read path = .ok content) : (readFile path).Ends s (.ok content) s := by
  unfold readFile
  rw [ends_get_bind_iff, there]
  exact ends_pure_iff.mpr ⟨rfl, rfl⟩

/-- The registry is loaded if its snapshot is not there yet, or can be read and restored. -/
theorem exists_ends_loadRegistry {path : String} (named : w.snapshotPath = .ok path)
    {reg : Registry} (loads : s.store.disk.exists? path = .ok false ∧ reg = {} ∨
      ∃ content d, s.store.disk.exists? path = .ok true ∧ s.store.disk.read path = .ok content ∧
        snapshotDocument path content = .ok d ∧
        ∀ drawn, ∃ drawn', Registry.restore w.surroundings drawn d = (drawn', .ok reg)) :
    ∃ s', w.loadRegistry.Ends s (.ok reg) s' ∧ s'.store = s.store ∧ s'.registry = reg := by
  unfold loadRegistry
  rw [named]
  rcases loads with ⟨missing, rfl⟩ | ⟨content, d, there, read, parsed, restores⟩
  · refine ⟨{ s with registry := {} }, ?_, rfl, rfl⟩
    refine Ends.bind (ends_ofExcept_iff.mpr ⟨rfl, rfl⟩) ?_
    refine (ends_isThere_of_exists? missing).bind ?_
    refine Ends.bind (ends_modify_iff.mpr ⟨rfl, rfl⟩) ?_
    exact ends_pure_iff.mpr ⟨rfl, rfl⟩
  · obtain ⟨drawn', restored⟩ := restores s.draws.eventIds
    refine ⟨{ s with draws := { s.draws with eventIds := drawn' }, registry := reg }, ?_, rfl, rfl⟩
    refine Ends.bind (ends_ofExcept_iff.mpr ⟨rfl, rfl⟩) ?_
    refine (ends_isThere_of_exists? there).bind ?_
    refine (ends_readFile_of_read read).bind ?_
    refine Ends.bind (ends_ofExcept_iff.mpr ⟨parsed.symm, rfl⟩) ?_
    rw [ends_get_bind_iff, restored]
    refine Ends.bind (ends_modify_iff.mpr ⟨rfl, rfl⟩) ?_
    refine Ends.bind (ends_ofExcept_iff.mpr ⟨rfl, rfl⟩) ?_
    refine Ends.bind (ends_modify_iff.mpr ⟨rfl, rfl⟩) ?_
    exact ends_pure_iff.mpr ⟨rfl, rfl⟩

/-- One comes to the state if its directory can be made, it can be marked, and the registry can be
loaded then. -/
theorem IsAt.ends_enter (here : w.IsAt root) {d d' : Disk}
    (made : s.store.disk.makeDirectory root = (d, .ok ()))
    (touched : touch (Path.join root lockName) d = .ok d') {reg : Registry}
    (loads : w.loadRegistry.Ends { s with store := { s.store with disk := d' } } (.ok reg) s') :
    w.enter.Ends s (.ok ()) s' := by
  have makes : (makeDirectory root).Ends s (.ok ())
      { s with store := { s.store with disk := d } } := by
    unfold makeDirectory
    rw [ends_get_bind_iff, made]
    exact Ends.bind (ends_set_iff.mpr ⟨rfl, rfl⟩) (ends_pure_iff.mpr ⟨rfl, rfl⟩)
  have marks : (changeDisk (touch (Path.join root lockName))).Ends
      { s with store := { s.store with disk := d } } (.ok ())
      { s with store := { s.store with disk := d' } } := by
    unfold changeDisk
    rw [ends_get_bind_iff, touched]
    exact ends_set_iff.mpr ⟨rfl, rfl⟩
  rw [enter_eq here.root here.snapshotPath_eq]
  exact makes.bind (marks.bind (loads.bind (ends_pure_iff.mpr ⟨rfl, rfl⟩)))

end Workplace

end RuleBound.Cli
