import RuleBound.Proofs.Cli.Conduct
import RuleBound.Proofs.Cli.Secrecy

/-!
How command lines end. If files and variables say of the settings what can be worked with, and the
snapshot is legible, every command line ends with a code. A file in the place of the snapshot that is
no snapshot is left as it is in any case, and the command ends with the code of errors unless what is
wrong with the file breaks it off.
-/

namespace RuleBound.Cli

open RuleBound.Task

/-! ## Faults -/

/-- How a command ends that failed. -/
def endingOfFault (f : Fault) : Ending :=
  match exitOf? f with
  | some (code, _) => .exit code
  | none => .broken f

/-- How a command ends that came to a result or failed. -/
def endingOf : Except Fault (Nat × Document) → Ending
  | .ok (code, _) => .exit code
  | .error f => endingOfFault f

theorem ending_reportFault (inv : Invocation) (command : String) (f : Fault)
    (lines : List Note → List String) :
    (reportFault inv command f lines).ending = endingOfFault f := by
  unfold reportFault endingOfFault
  cases exitOf? f <;> rfl

/-- Whether a command line is not broken off, and its code is one of those that are known. -/
def Ending.IsProper (e : Ending) : Prop := (∀ f, e ≠ .broken f) ∧ e.code ≤ 3

theorem isProper_endingOfFault {f : Fault} (foreseen : f.isForeseen = true) :
    (endingOfFault f).IsProper := by
  have known : ∃ code told, exitOf? f = some (code, told) ∧ code ≤ 3 := by
    unfold exitOf?
    unfold Fault.isForeseen at foreseen
    cases f <;> simp_all [Fault.isDomainFault]
  obtain ⟨code, told, is, known⟩ := known
  unfold endingOfFault
  rw [is]
  exact ⟨by rintro _ ⟨⟩, known⟩

theorem Workplace.Concludes.isProper {r : Except Fault (Nat × Document)} (concludes : Concludes r) :
    (endingOf r).IsProper := by
  cases r with
  | ok a => exact ⟨nofun, concludes.code a rfl⟩
  | error f => exact isProper_endingOfFault (concludes.guarded.reason f rfl)

/-- What keeps a command from its registry ends it with the code of errors, or breaks it off. -/
theorem endingOfFault_cases {f : Fault} (why : IsError f ∨ f.isForeseen = false) :
    endingOfFault f = .exit 1 ∨ f.isForeseen = false ∧ endingOfFault f = .broken f := by
  unfold endingOfFault
  rcases why with ⟨told, is⟩ | unforeseen
  · rw [is]
    exact .inl rfl
  · rw [exitOf?_eq_none_iff.mpr unforeseen]
    exact .inr ⟨unforeseen, rfl⟩

namespace Machine

variable {m : Machine} {inv : Invocation} {args : List String} {w : Workplace} {c : Command}

/-! ## Running -/

/-- What a command is carried out in, with settings. -/
def workplace (m : Machine) (inv : Invocation) (settings : Settings) : Workplace :=
  ⟨settings, inv.stateDirectory, m.surroundings, m.share⟩

/-- The settings and the way of keeping the journal that an invocation is set up with. -/
def setupFor (m : Machine) (inv : Invocation) : Except Fault (Settings × JournalStyle) := do
  let s ← m.settingsFor inv
  return (s, ← journalStyle s)

theorem ending_carryOut_of_format {format : OutputFormat} (formatted : inv.format = some format)
    {settings : Settings} {style : JournalStyle} {r : Except Fault (Nat × Document)}
    {s : Session Shelf} (ends : ((m.workplace inv settings).perform c).Ends m.session r s) :
    (m.carryOut inv c settings style).2.ending = endingOf r := by
  unfold carryOut
  extract_lets w before formatted'
  have all : formatted'.Ends before (r.map fun a => (format, a)) s := by
    simp only [formatted', formatted]
    cases r with
    | ok a => exact ends.bind (ends_pure_iff.mpr ⟨rfl, rfl⟩)
    | error f => exact ends_bind_iff.mpr (.inr ⟨f, ends, rfl⟩)
  have ran : formatted'.run.run before = (r.map fun a => (format, a), s) := all
  rw [ran]
  cases r with
  | ok a => rfl
  | error f => exact ending_reportFault _ _ _ _

theorem ending_carryOut_of_no_format (formatted : inv.format = none) {settings : Settings}
    {style : JournalStyle} : (m.carryOut inv c settings style).2.ending = .exit 1 := by
  unfold carryOut
  rw [formatted]
  exact ending_reportFault _ _ _ _

/-- A command that comes to be carried out leaves what it leaves, and the command line ends as it
does. -/
theorem run_of_setup? (comes : m.setup? args = some (w, c)) :
    ∃ r s, (w.perform c).Ends m.session r s ∧ (m.run args).1.disk = s.store.disk ∧
      (m.run args).2.ending = endingOf r := by
  obtain ⟨r, s, ends⟩ := exists_ends (w.perform c) m.session
  refine ⟨r, s, ends, ?_⟩
  unfold setup? at comes
  unfold run
  cases read : Invocation.ofArguments args with
  | error stop =>
    rw [read] at comes
    cases comes
  | ok inv =>
    rw [read] at comes
    unfold invoke
    dsimp only at comes ⊢
    split at comes
    · next c' settings style format named setup formatted =>
      cases comes
      simp only [named, setup]
      exact ⟨disk_carryOut_of_format formatted ends, ending_carryOut_of_format formatted ends⟩
    · cases comes

/-- A command line that can be read and does not come to be carried out has no command, is to be
written in no format, or fails to be set up. -/
theorem ending_run_of_idle (read : Invocation.ofArguments args = .ok inv)
    (idle : m.setup? args = none) :
    (m.run args).2.ending = .noCommand ∨ (m.run args).2.ending = .exit 1 ∨
      ∃ f, m.setupFor inv = .error f ∧ (m.run args).2.ending = endingOfFault f := by
  unfold setup? at idle
  rw [read] at idle
  unfold run
  rw [read]
  unfold invoke
  dsimp only at idle ⊢
  cases named : inv.command with
  | none => exact .inl rfl
  | some c =>
    rw [named] at idle
    dsimp only at idle ⊢
    cases setup : m.setupFor inv with
    | error f =>
      unfold setupFor at setup
      rw [setup]
      exact .inr (.inr ⟨f, rfl, ending_reportFault _ _ _ _⟩)
    | ok found =>
      unfold setupFor at setup
      rw [setup] at idle ⊢
      cases formatted : inv.format with
      | none => exact .inr (.inl (ending_carryOut_of_no_format formatted))
      | some format =>
        rw [formatted] at idle
        cases idle

/-! ## Setting up -/

/-- Whether a machine is sound for an invocation: the files of settings give each setting what it can be
asked about and worked with, a variable for the level names one, the delays between attempts can be
told, the command is regular, and what stands in the place of the snapshot is legible if the command
loads it. -/
structure IsSound (m : Machine) (inv : Invocation) : Prop where
  files : ∀ path ∈ inv.settingsPaths m.home, ∀ k d, Settings.fileValue? m.disk path k = some d →
    k.Takes d
  level : ∀ word, Settings.variableText? { environment := m.environment }
    Setting.level.variableName = some word → ∃ style, Level.ofWord word = .ok style
  attempts : ∀ s n, m.settingsFor inv = .ok s → s.get .attempts = .ok (.integer n) → n ≤ 1000
  delay : ∀ s d, m.settingsFor inv = .ok s → s.get .baseDelay = .ok d → d.FitsIn 16
  share : m.share.FitsIn 1
  command : ∀ c, inv.command = some c → c.IsRegular m.disk
  snapshot : ∀ s c, m.settingsFor inv = .ok s → inv.command = some c → c.LoadsRegistry →
    (m.workplace inv s).FindsLegible m.disk

section Sound

variable (sound : m.IsSound inv)

include sound

theorem IsSound.readSettings :
    (m.readSettings inv).1.IsFit ∧ Guarded (m.readSettings inv).2 := by
  have fit : Settings.IsFit { environment := m.environment } := ⟨nofun, sound.level⟩
  have files := sound.files
  unfold Invocation.settingsPaths at files
  unfold Machine.readSettings
  cases named : inv.settingsFile.filter (· != "") with
  | some path =>
    rw [named] at files
    have loaded := fit.load (files path List.mem_cons_self)
    dsimp only
    exact ⟨loaded.1, loaded.2.map _⟩
  | none =>
    rw [named] at files
    have loaded := fit.loadPresent files
    dsimp only
    rw [Settings.loadDefaults]
    exact ⟨loaded.1, loaded.2.map _⟩

theorem IsSound.settingsFor :
    Guarded (m.settingsFor inv) ∧ ∀ s, m.settingsFor inv = .ok s → s.IsFit := by
  obtain ⟨fit, guarded⟩ := sound.readSettings
  rw [settingsFor_eq]
  cases read : (m.readSettings inv).2 with
  | error f => exact ⟨failsBy_error (guarded.reason f read), nofun⟩
  | ok done =>
    dsimp only [Except.bind]
    cases inv.level.filter (· != "") with
    | some level => exact fit.set (k := .level) trivial
    | none =>
      refine ⟨failsBy_ok _, ?_⟩
      rintro _ ⟨⟩
      exact fit

theorem IsSound.guarded_setupFor : Guarded (m.setupFor inv) := by
  obtain ⟨guarded, fit⟩ := sound.settingsFor
  refine guarded.bind fun s set => FailsBy.bind ?_ fun _ _ => failsBy_ok _
  unfold journalStyle
  refine (s.guarded_get _).bind fun level holds => (s.guarded_get _).bind fun _ _ => ?_
  obtain ⟨word, rfl, style, known⟩ := (fit s set).suits_of_get holds
  unfold JournalStyle.ofDocuments
  dsimp only
  rw [known]
  exact failsBy_ok _

theorem IsSound.isFit_workplace {s : Settings} (set : m.settingsFor inv = .ok s) :
    (m.workplace inv s).IsFit where
  settings := sound.settingsFor.2 s set
  attempts := fun n => sound.attempts s n set
  delay := fun d => sound.delay s d set
  share := sound.share

end Sound

/-- A command line comes to be carried out with the settings of its invocation. -/
theorem exists_of_setup? (read : Invocation.ofArguments args = .ok inv)
    (comes : m.setup? args = some (w, c)) :
    ∃ s, m.settingsFor inv = .ok s ∧ w = m.workplace inv s ∧ inv.command = some c := by
  unfold setup? at comes
  rw [read] at comes
  dsimp only at comes
  split at comes
  · next c' settings style format named setup formatted =>
    cases comes
    obtain ⟨s, set, rest⟩ := bind_eq_ok_iff.mp setup
    obtain ⟨style', -, rest⟩ := bind_eq_ok_iff.mp rest
    cases rest
    exact ⟨settings, set, rfl, named⟩
  · cases comes

/-- A command line ends in a code. On a sound machine nothing breaks it off, and the code is one of
those that are known. Wherever a command that loads the registry finds a file that is no snapshot, the
file is left as it is, and the command ends with the code of errors unless what is wrong with the file
breaks it off. -/
theorem ends_in_code (m : Machine) (args : List String) (inv : Invocation)
    (read : Invocation.ofArguments args = .ok inv) :
    (m.IsSound inv → (m.run args).2.ending.IsProper) ∧
    ∀ w c path content, m.setup? args = some (w, c) → c.LoadsRegistry →
      w.snapshotPath = .ok path → m.disk.read path = .ok content → ¬ w.IsSnapshot path content →
        (m.run args).1.disk.read path = .ok content ∧
          ((m.run args).2.ending = .exit 1 ∨
            ∃ f, f.isForeseen = false ∧ (m.run args).2.ending = .broken f) := by
  constructor
  · intro sound
    cases comes : m.setup? args with
    | none =>
      rcases ending_run_of_idle read comes with is | is | ⟨f, failed, is⟩
      all_goals rw [is]
      · exact ⟨nofun, by decide⟩
      · exact ⟨nofun, by decide⟩
      · exact isProper_endingOfFault (sound.guarded_setupFor.reason f failed)
    | some found =>
      obtain ⟨w, c⟩ := found
      obtain ⟨s, set, rfl, named⟩ := exists_of_setup? read comes
      obtain ⟨r, s', ends, -, is⟩ := run_of_setup? comes
      have concludes := (sound.isFit_workplace set).meets_perform (s := m.session)
        (sound.command c named) (sound.snapshot s c set named)
      rw [is]
      exact (concludes r s' ends).isProper
  · intro w c path content comes loads named there invalid
    obtain ⟨r, s', ends, left, is⟩ := run_of_setup? comes
    have fails := w.meets_perform_of_not_isSnapshot (s := m.session) named there invalid loads
    obtain ⟨still, f, rfl, why⟩ := fails r s' ends
    rw [left, is]
    refine ⟨still, ?_⟩
    rcases endingOfFault_cases why with code | ⟨unforeseen, broken⟩
    · exact .inl code
    · exact .inr ⟨f, unforeseen, broken⟩

/-! ## A snapshot that is wrong -/

/-- A machine with a text in the place of a snapshot. -/
def keeper (snapshot : String) : Machine where
  disk := { entries := [(["st"], .directory), (["st", "registry.json"], .file (Text.utf8 snapshot))] }
  home := "/root"
  environment := []
  surroundings := ⟨0, "", .null, .numbered⟩
  share := .integer 0
  network := .ok []

/-- The command line that shows the first object. -/
def line : List String := ["-s", "st", "show", "1"]

/-- What it is read as. -/
def showing : Invocation := ⟨some .json, false, none, some "st", none, some (.show 1)⟩

/-- A snapshot whose next identifier is no number. -/
def miscounted : String := "\x7b\"next_id\": \"x\"\x7d"

theorem setup_keeper : Invocation.ofArguments line = .ok showing ∧
    (keeper miscounted).settingsFor showing = .ok {} ∧
    journalStyle {} = .ok ⟨some .warning, true⟩ ∧
    ∀ path ∈ Settings.defaultPaths "/root",
      Settings.documentAt (keeper miscounted).disk (Path.normal path) =
        .error (.settings (.noFile (Path.normal path))) := by
  decide +kernel

theorem snapshot_keeper :
    ((keeper miscounted).workplace showing {}).snapshotPath = .ok "st/registry.json" ∧
    (keeper miscounted).disk.read "st/registry.json" = .ok (Text.utf8 miscounted) ∧
    (keeper miscounted).disk.entry? ((keeper miscounted).disk.placeOf "st/registry.json") =
      some (.file (Text.utf8 miscounted)) ∧
    Workplace.snapshotDocument "st/registry.json" (Text.utf8 miscounted) =
      .ok (.object [("next_id", .text "x")]) := by
  decide +kernel

theorem setup?_keeper : (keeper miscounted).setup? line =
    some ((keeper miscounted).workplace showing {}, .show 1) := by
  obtain ⟨read, set, style, -⟩ := setup_keeper
  unfold setup?
  rw [read]
  dsimp only
  rw [set, ok_bind, style]
  rfl

theorem not_isSnapshot_miscounted (w : Workplace) :
    ¬ w.IsSnapshot "st/registry.json" (Text.utf8 miscounted) := by
  rintro ⟨d, drawn, reg, parsed, restored⟩
  cases snapshot_keeper.2.2.2.symm.trans parsed
  have miscounts : (Registry.restore w.surroundings drawn (.object [("next_id", .text "x")])).2 =
      .error (.notInteger "x") := by rfl
  cases miscounts.symm.trans restored

theorem isSound_keeper : (keeper miscounted).IsSound showing where
  files := by
    intro path mem k d given
    rw [Settings.fileValue?, setup_keeper.2.2.2 path mem] at given
    cases given
  level := fun _ set => by cases set
  attempts := by
    intro s n set holds
    cases setup_keeper.2.1.symm.trans set
    cases holds
    decide
  delay := by
    intro s d set holds
    cases setup_keeper.2.1.symm.trans set
    cases holds
    exact Document.fitsIn_real _ _
  share := Document.fitsIn_integer (by decide)
  command := by
    rintro c ⟨⟩
    exact trivial
  snapshot := by
    intro s c set _ _ path content d named there parsed
    cases setup_keeper.2.1.symm.trans set
    obtain ⟨is, -, place, document⟩ := snapshot_keeper
    cases is.symm.trans named
    cases place.symm.trans there
    cases document.symm.trans parsed
    exact ⟨⟨_, rfl, fun _ mem => by cases mem⟩, ⟨_, rfl, fun _ mem => by cases mem⟩,
      ⟨_, rfl, by rintro _ ⟨⟩; exact trivial⟩⟩

/-- A snapshot whose next identifier is no number ends the command with the code of errors, and is
left. -/
theorem ends_in_code_of_miscounted :
    ((keeper miscounted).run line).2.ending = .exit 1 ∧
      ((keeper miscounted).run line).1.disk.read "st/registry.json" = .ok (Text.utf8 miscounted) := by
  obtain ⟨path, read, -⟩ := snapshot_keeper
  obtain ⟨proper, keeps⟩ := ends_in_code (keeper miscounted) line showing setup_keeper.1
  obtain ⟨still, code | ⟨f, -, broken⟩⟩ := keeps _ _ _ _ setup?_keeper trivial path read
    (not_isSnapshot_miscounted _)
  · exact ⟨code, still⟩
  · exact absurd broken ((proper isSound_keeper).1 f)

/-- A list in the place of a snapshot breaks a command off, and so do a text for a number in a file of
settings and a variable that names no level. -/
theorem broken_off : (∃ inv, Invocation.ofArguments line = .ok inv) ∧
    ((keeper "[]").run line).2.ending = .broken .noPart ∧
    (({ keeper "" with disk := { entries := [(["rdo.yaml"], .file (Text.utf8
      "\x7b\"storage\": \x7b\"timeout_seconds\": \"x\"\x7d\x7d"))] } } : Machine).run
        line).2.ending = .broken .wrongType ∧
    (({ keeper "" with environment := [("RDO_LOG_LEVEL", "foo")] } : Machine).run
      line).2.ending = .broken .noPart := by
  refine ⟨⟨showing, setup_keeper.1⟩, ?_⟩
  decide +kernel

end Machine

end RuleBound.Cli
