import RuleBound.Proofs.Cli.Entry
import RuleBound.Proofs.Registry.Legible
import RuleBound.Proofs.Registry.Reading
import RuleBound.Proofs.Settings.Fitness
import RuleBound.Proofs.Validation.Ready

/-!
How commands come to what they work on. An intent is read from its file or not, and the registry is
restored from its snapshot or not; whatever keeps a command from them is known, and what a command
does to the disk on the way takes nothing away from it.
-/

namespace RuleBound.Cli

open RuleBound.Task

/-! ## Faults and codes -/

theorem exitOf?_eq_none_iff {f : Fault} : exitOf? f = none ↔ f.isForeseen = false := by
  unfold exitOf? Fault.isForeseen
  cases f <;> simp [Fault.isDomainFault]

/-- Whether a fault ends a command with the code of errors. -/
def IsError (f : Fault) : Prop := ∃ told, exitOf? f = some (1, told)

theorem IsError.isForeseen {f : Fault} (error : IsError f) : f.isForeseen = true := by
  obtain ⟨told, code⟩ := error
  rw [← Bool.not_eq_false, ← exitOf?_eq_none_iff, code]
  exact Option.some_ne_none _

/-- A foreseen fault that is not of the domain ends a command with the code of errors. -/
theorem isError_of_isForeseen {f : Fault} (foreseen : f.isForeseen = true)
    (foreign : f.isDomainFault = false) : IsError f := by
  unfold IsError exitOf?
  unfold Fault.isForeseen at foreseen
  cases f <;> simp_all [Fault.isDomainFault]

theorem isError_of_isValueFault {f : Fault} (bad : f.isValueFault = true) : IsError f := by
  refine isError_of_isForeseen (Fault.isForeseen_of_isValueFault bad) ?_
  cases f <;> first | rfl | cases bad

namespace Workplace

variable {w : Workplace} {s s' : Session Shelf}

/-- A file's content that is no document is not UTF-8, not JSON or not YAML, or holds a number that is
too long. -/
theorem isError_of_ofFile {path : String} {content : Bytes} {f : Fault}
    (failed : Document.ofFile path content = .error f) : IsError f ∨ ∃ cause, f = .notYaml cause := by
  unfold Document.ofFile at failed
  split at failed
  · cases failed
    exact .inl ⟨true, rfl⟩
  · split at failed
    · rcases Document.parseYaml_cases failed with ⟨cause, rfl⟩ | ⟨digits, rfl⟩
      · exact .inr ⟨cause, rfl⟩
      · exact .inl ⟨true, rfl⟩
    · unfold Document.parse at failed
      split at failed
      all_goals cases failed
      all_goals exact .inl ⟨true, rfl⟩

/-! ## Intents -/

theorem isError_of_loadIntent {d : Document} {f : Fault} (failed : loadIntent d = .error f) :
    IsError f := by
  rcases loadIntent_cases d with (⟨i, loaded⟩ | ⟨issues, refused⟩) | ⟨g, escapes⟩
  · cases loaded.symm.trans failed
  · cases refused.symm.trans failed
    exact ⟨true, rfl⟩
  · cases escapes.loadIntent_eq.symm.trans failed
    exact isError_of_isValueFault escapes.isValueFault

/-- What comes of reading an intent: one that is ready, a fault that ends a command with the code of
errors, or a file that is no YAML. -/
inductive IntentIs (disk : Disk) (path : String) : Except Fault Intent → Prop
  | ready {i : Intent} (ready : i.IsReady) : IntentIs disk path (.ok i)
  | error {f : Fault} (error : IsError f) : IntentIs disk path (.error f)
  | notYaml {content : Bytes} {cause : YamlFault}
    (read : disk.read (Path.normal path) = .ok content)
    (failed : Document.ofFile path content = .error (.notYaml cause)) :
    IntentIs disk path (.error (.notYaml cause))

theorem IntentIs.of_finds {α : Type} {disk : Disk} {path : String} {x : Except DiskFault α} {f : Fault}
    (finds : Finds x (.error f)) : IntentIs disk path (.error f) := by
  cases finds with
  | fault fault => exact .error ⟨true, rfl⟩

theorem meets_intentAt (path : String) (contentFile : Option String) (s : Session Shelf) :
    Meets (intentAt path contentFile) s fun r s' => s' = s ∧ IntentIs s.store.disk path r := by
  refine (meets_isThere _ s).bind ?_ fun f u ⟨same, finds⟩ => ⟨same, .of_finds finds⟩
  rintro found _ ⟨rfl, -⟩
  cases found with
  | false => exact meets_throw_bind ⟨rfl, .error ⟨false, rfl⟩⟩
  | true =>
    refine (meets_readFile _ _).bind ?_ fun f u ⟨same, finds⟩ => ⟨same, .of_finds finds⟩
    rintro content _ ⟨rfl, finds⟩
    cases finds with | answer read =>
    refine meets_ofExcept_bind (fun d _ => ?_) fun f failed => ?_
    swap
    · rcases isError_of_ofFile failed with error | ⟨cause, rfl⟩
      · exact ⟨rfl, .error error⟩
      · exact ⟨rfl, .notYaml read failed⟩
    refine meets_ofExcept_bind (fun i loaded => ?_) fun f failed =>
      ⟨rfl, .error (isError_of_loadIntent failed)⟩
    cases contentFile.filter (· != "") with
    | none => exact meets_pure ⟨rfl, .ready (Intent.isReady_of_loadIntent loaded)⟩
    | some other =>
      dsimp only
      split
      · next file =>
        refine (meets_readFile _ _).bind ?_ fun f u ⟨same, finds⟩ => ⟨same, .of_finds finds⟩
        rintro b _ ⟨rfl, -⟩
        exact meets_pure ⟨rfl, .ready (Intent.isReady_of_content loaded file b)⟩
      · exact meets_throw ⟨rfl, .error ⟨false, rfl⟩⟩

/-! ## What is done on the way -/

/-- Whether what is new on a disk is a directory or an empty file. -/
def IsQuiet (_ : List String) (node : DiskNode) : Prop := node = .directory ∨ node = .file []

section Quiet

variable {d d' : Disk} {path : String} {content : Bytes}

theorem grows_touch (touched : touch path d = .ok d') : Disk.Grows IsQuiet d d' := by
  unfold touch at touched
  split at touched
  · cases touched
    exact .refl d
  · next other =>
    obtain ⟨place, located, free, rfl⟩ := Disk.exists_of_write touched
    refine .put ?_ (.inr rfl)
    cases there : d.entry? place with
    | none => rfl
    | some node =>
      cases node with
      | file content => exact absurd (Disk.look_eq_ok_iff.mpr ⟨place, located, there⟩) (other content)
      | directory => exact absurd there free

theorem read_of_grows (grows : Disk.Grows IsQuiet d d') (read : d.read path = .ok content) :
    d'.read path = .ok content :=
  Disk.read_eq_ok_iff.mpr (grows.look (Disk.read_eq_ok_iff.mp read))

/-- What can be read then could be before, or is empty, or only the way to it was not open. -/
theorem entry?_of_read (grows : Disk.Grows IsQuiet d d') (read : d'.read path = .ok content) :
    d.entry? (d.placeOf path) = some (.file content) ∨ content = [] := by
  obtain ⟨place, located, there⟩ := Disk.look_eq_ok_iff.mp (Disk.read_eq_ok_iff.mp read)
  rw [Disk.eq_placeOf_of_locate located, grows.placeOf_eq] at there
  rcases grows.fresh _ _ there with old | directory | empty
  · exact .inl old
  · cases directory
  · cases empty
    exact .inr rfl

end Quiet

theorem meets_makeDirectory (path : String) (s : Session Shelf) :
    Meets (makeDirectory path) s fun r s' => Disk.Grows IsQuiet s.store.disk s'.store.disk ∧
      ∀ f, r = .error f → ∃ fault, f = .disk fault := by
  intro r s' ends
  have grows : Disk.Grows IsQuiet s.store.disk (s.store.disk.makeDirectory path).1 :=
    (s.store.disk.grows_makeDirectory path).mono fun place node new => .inl new.1
  refine ⟨ends_makeDirectory ends ▸ grows, ?_⟩
  unfold makeDirectory at ends
  rw [ends_get_bind_iff] at ends
  dsimp only at ends
  generalize s.store.disk.makeDirectory path = made at ends
  obtain ⟨disk, result⟩ := made
  rw [ends_set_bind_iff] at ends
  cases result with
  | ok done =>
    obtain ⟨rfl, -⟩ := ends_pure_iff.mp ends
    exact nofun
  | error fault =>
    obtain ⟨rfl, -⟩ := ends_throw_iff.mp ends
    rintro _ ⟨⟩
    exact ⟨fault, rfl⟩

theorem meets_touch (path : String) (s : Session Shelf) :
    Meets (changeDisk (touch path)) s fun r s' => Disk.Grows IsQuiet s.store.disk s'.store.disk ∧
      ∀ f, r = .error f → ∃ fault, f = .disk fault := by
  intro r s' ends
  rcases ends_changeDisk ends with ⟨disk, touched, rfl, rfl⟩ | ⟨fault, -, rfl, rfl⟩
  · exact ⟨grows_touch touched, nofun⟩
  · exact ⟨.refl _, by rintro _ ⟨⟩; exact ⟨fault, rfl⟩⟩

/-! ## The registry -/

theorem exists_command_of_snapshotDocument {path : String} {content : Bytes} {f : Fault}
    (failed : snapshotDocument path content = .error f) : ∃ message, f = .command message := by
  unfold snapshotDocument at failed
  split at failed
  · cases failed
    exact ⟨_, rfl⟩
  · split at failed
    · cases failed
    · cases failed
      exact ⟨_, rfl⟩

/-- An empty file is no snapshot. -/
theorem snapshotDocument_nil_ne_ok (path : String) (d : Document) :
    snapshotDocument path [] ≠ .ok d := by
  have empty : Text.fromUtf8 [] = .ok "" := by rfl
  have nothing : Document.parse "" = .error .notJson := by rfl
  unfold snapshotDocument
  rw [empty]
  dsimp only
  rw [nothing]
  nofun

/-- How a command comes to its registry: the disk has nothing new but directories and empty files, and
the registry is loaded from it or not. -/
structure Comes (w : Workplace) (path : String) (s s' : Session Shelf) (r : Except Fault Registry) :
    Prop where
  grows : Disk.Grows IsQuiet s.store.disk s'.store.disk
  loads : w.LoadsAs s'.store.disk path r
  registry : ∀ reg, r = .ok reg → s'.registry = reg

variable {path : String}

theorem Comes.blocked (grows : Disk.Grows IsQuiet s.store.disk s'.store.disk) (fault : DiskFault) :
    w.Comes path s s' (.error (.disk fault)) :=
  ⟨grows, .blocked fault, nofun⟩

/-- A command without an errand comes to its registry at once. -/
theorem meets_comes (named : w.snapshotPath = .ok path) (s : Session Shelf) :
    Meets w.loadRegistry s fun r s' => w.Comes path s s' r := by
  intro r s' ends
  obtain ⟨store, loads, registry⟩ := meets_loadRegistry named s r s' ends
  exact ⟨store ▸ .refl _, store ▸ loads, registry⟩

/-- A command with an errand comes to its registry by way of the directory and the mark in it. -/
theorem meets_enter {root : String} (rooted : w.root = .ok root) (named : w.snapshotPath = .ok path)
    (s : Session Shelf) : Meets w.enter s fun r s' =>
      ∃ x, w.Comes path s s' x ∧ r = x.map fun _ => () := by
  rw [enter_eq rooted named]
  refine (meets_makeDirectory root s).bind ?_ fun f u ⟨grows, disk⟩ => ?_
  swap
  · obtain ⟨fault, rfl⟩ := disk f rfl
    exact ⟨_, .blocked grows fault, rfl⟩
  rintro ⟨⟩ u ⟨made, -⟩
  refine (meets_touch _ u).bind ?_ fun f v ⟨grows, disk⟩ => ?_
  swap
  · obtain ⟨fault, rfl⟩ := disk f rfl
    exact ⟨_, .blocked (made.trans grows) fault, rfl⟩
  rintro ⟨⟩ v ⟨touched, -⟩
  refine (meets_comes named v).bind (fun reg t comes => ?_) fun f t comes => ?_
  · exact meets_pure ⟨.ok reg, ⟨(made.trans touched).trans comes.grows, comes.loads, comes.registry⟩,
      rfl⟩
  · exact ⟨.error f, ⟨(made.trans touched).trans comes.grows, comes.loads, nofun⟩, rfl⟩

/-- Whether what stands in the place of the snapshot is legible, if it is a document. -/
def FindsLegible (w : Workplace) (disk : Disk) : Prop :=
  ∀ path content d, w.snapshotPath = .ok path →
    disk.entry? (disk.placeOf path) = some (.file content) → snapshotDocument path content = .ok d →
      Registry.IsLegible d

/-- A registry whose snapshot is legible is loaded, or not for foreseen reasons; it is regular then, and
its refusals can be compared. -/
theorem Comes.of_legible {r : Except Fault Registry} (comes : w.Comes path s s' r)
    (named : w.snapshotPath = .ok path) (legible : w.FindsLegible s.store.disk) :
    Guarded r ∧ ∀ reg, r = .ok reg → reg.IsRegular ∧ reg.HasPlainRefusals := by
  cases comes.loads with
  | blocked fault => exact ⟨failsBy_error rfl, nofun⟩
  | missing none =>
    refine ⟨failsBy_ok _, ?_⟩
    rintro _ ⟨⟩
    exact ⟨Registry.isRegular_empty, fun l mem => absurd mem List.not_mem_nil⟩
  | corrupt read failed =>
    obtain ⟨message, rfl⟩ := exists_command_of_snapshotDocument failed
    exact ⟨failsBy_error rfl, nofun⟩
  | restored read parsed restored =>
    rcases entry?_of_read comes.grows read with there | rfl
    · have fine := legible path _ _ named there parsed
      subst restored
      exact ⟨fine.guarded_restore, fun reg => fine.of_restore⟩
    · exact absurd parsed (snapshotDocument_nil_ne_ok _ _)

/-- Whether a registry is restored from the content of a file. -/
def IsSnapshot (w : Workplace) (path : String) (content : Bytes) : Prop :=
  ∃ d drawn reg, snapshotDocument path content = .ok d ∧
    (Registry.restore w.surroundings drawn d).2 = .ok reg

/-- Where something stands that is no snapshot, no command comes to a registry: it fails with the code
of errors, unless the reason is not a foreseen one. -/
theorem Comes.of_not_isSnapshot {r : Except Fault Registry} (comes : w.Comes path s s' r)
    {content : Bytes} (read : s.store.disk.read path = .ok content)
    (invalid : ¬ w.IsSnapshot path content) :
    s'.store.disk.read path = .ok content ∧
      ∃ f, r = .error f ∧ (IsError f ∨ f.isForeseen = false) := by
  have still := read_of_grows comes.grows read
  refine ⟨still, ?_⟩
  cases comes.loads with
  | blocked fault => exact ⟨_, rfl, .inl ⟨true, rfl⟩⟩
  | missing none =>
    exact absurd (Disk.read_eq_ok_iff.mp still) (FileStore.look_ne_ok_of_exists? none _)
  | corrupt read' failed =>
    obtain ⟨message, rfl⟩ := exists_command_of_snapshotDocument failed
    exact ⟨_, rfl, .inl ⟨false, rfl⟩⟩
  | @restored content' d r drawn read' parsed restored =>
    cases still.symm.trans read'
    cases r with
    | ok reg => exact absurd ⟨d, drawn, reg, parsed, restored⟩ invalid
    | error f =>
      refine ⟨f, rfl, ?_⟩
      have foreign := (Registry.foreign_restore w.surroundings drawn d).reason f restored
      cases foreseen : f.isForeseen with
      | true => exact .inl (isError_of_isForeseen foreseen foreign)
      | false => exact .inr rfl

end Workplace

end RuleBound.Cli
