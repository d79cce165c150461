import RuleBound.Cli.Workplace
import RuleBound.Cli.Output
import RuleBound.Journal.Line

/-!
Carrying out command lines.

A command ends with an exit code: 0 for success, 1 for an error, 2 for a request that is
malformed or names no object, and 3 for a refusal or a proof that does not hold. A fault that no
code stands for breaks the command off.

What a command line reaches on a disk is known before it is carried out: some files by name, and the
directories of its state as a whole.
-/

namespace RuleBound.Cli

/-- What commands are carried out on. -/
structure Machine where
  disk : Disk
  /-- The home directory. -/
  home : String
  environment : List (String × String)
  surroundings : Surroundings
  /-- The random share of delays. -/
  share : Document
  /-- What the network answers to every request. -/
  network : NetworkAnswer
  draws : Draws := {}

/-- How a command line ends. -/
inductive Ending
  | exit (code : Nat)
  /-- It is not carried out. -/
  | stopped (stop : Stop)
  /-- There is no command in it. -/
  | noCommand
  | broken (fault : Fault)
  deriving DecidableEq

/-- The code with which a command line ends. -/
def Ending.code : Ending → Nat
  | exit code => code
  | stopped .misused => 2
  | stopped _ | noCommand => 0
  | broken _ => 1

/-- What comes of a command line: how it ends, and what is written as output and beside it. -/
structure Report where
  ending : Ending
  output : String := ""
  errors : String := ""
  deriving DecidableEq

/-! ## Setting up -/

/-- How the journal is kept. -/
def journalStyle (s : Settings) : Except Fault JournalStyle := do
  let level ← s.get .level
  JournalStyle.ofDocuments level (← s.get .lineFormat)

/-- The settings for an invocation. -/
def Machine.settingsFor (m : Machine) (inv : Invocation) : Except Fault Settings := do
  let s : Settings := { environment := m.environment }
  let (s, result) :=
    match inv.settingsFile.filter (· != "") with
    | some path =>
      let (s, result) := s.load m.disk path
      (s, result.map fun _ => ())
    | none =>
      let (s, result) := s.loadDefaults m.disk m.home
      (s, result.map fun _ => ())
  result
  match inv.level.filter (· != "") with
  | some level => s.set .level (.text (Text.lower level))
  | none => return s

/-! ## Commands -/

namespace Workplace

/-- Carry out a command: its exit code and its result. -/
def perform (w : Workplace) (c : Command) : Task Shelf (Nat × Document) := do
  match c with
  | .compile path now =>
    let intent ← intentAt path none
    let now := if now = .null then .integer w.surroundings.now else now
    let compiled ← Task.ofExcept (intent.compile now)
    w.note compiled.note
    let compact ← Task.ofExcept compiled.sheet.toCompact
    return (0, .object [("canonical", .text compiled.canonical),
      ("digest", .text compiled.digest), ("compact", ← Task.ofExcept compact.toDocument)])
  | .keygen =>
    let key ← Task.drawKey w.journalist
    return (0, .object [("jwk", .text key.exported)])
  | .create path identity contentFile =>
    let intent ← intentAt path contentFile
    let created ← w.exchange identity fun store c => c.create store intent
    return (0, created.toDocument)
  | .access link identity action context =>
    let result ← w.exchange identity fun store c =>
      match context with
      | .text s => c.access store (.text link) action (.member (Text.utf8 s))
      | _ => throw .noPart
    return (if result.allowed then 0 else 3, result.toDocument)
  | .show id =>
    let registry ← w.loadRegistry
    let r ← Task.ofExcept (registry.read (.integer id))
    match ← Task.ofExcept r.toDocument with
    | .object fields =>
      let status ← Task.ofExcept (r.status (.integer w.surroundings.now))
      return (0, .object (fields ++ [("status", .text status)]))
    | d => return (0, d)
  | .events id =>
    let registry ← w.loadRegistry
    return (0, .list ((registry.events id).map LogRecord.toDocument))
  | .verifyRefusal reference =>
    let registry ← w.loadRegistry
    let proof ← Task.ofExcept (registry.verifyRefusal (.text reference))
    return (if proof.valid then 0 else 3, proof.toDocument)
  | .showSettings => return (0, ← Task.ofExcept (w.settings.toDocument true))
  | .checkSettings =>
    let defects := w.settings.defects
    return (if defects.isEmpty then 0 else 1,
      .object [("valid", .bool defects.isEmpty), ("errors", .ofTexts defects)])
  | .settings => throw (.command "config requires a subcommand: show, validate")

end Workplace

/-! ## Endings -/

/-- The exit code that stands for a fault, and whether the journal tells of it. -/
def exitOf? : Fault → Option (Nat × Bool)
  | .command _ => some (1, false)
  | .notFound _ | .malformed _ _ => some (2, false)
  | .settings _ | .disk _ | .noSchema _ => some (1, true)
  | f => if f.isDomainFault || f.isValueFault then some (1, true) else none

/-- What is noted about a command that failed. -/
def failedNote (command : String) (f : Fault) : Note where
  level := .error
  origin := .commandLine
  message := "Command failed"
  errorCode := .text f.code
  context := [("command", .text command)]

/-- Lines, each with its end. -/
def withEnds (lines : List String) : String := String.join (lines.map fun l => l ++ "\n")

/-- The report on a fault, where `lines` writes the journal up to and with a last note. -/
def reportFault (inv : Invocation) (command : String) (f : Fault)
    (lines : List Note → List String) : Report :=
  match exitOf? f with
  | none => ⟨.broken f, "", withEnds (lines [])⟩
  | some (code, told) =>
    let complaint := if inv.quiet then [] else ["Error: " ++ f.message]
    ⟨.exit code, "", withEnds (lines (if told then [failedNote command f] else []) ++ complaint)⟩

namespace Machine

/-- Carry out a command with settings and a journal. -/
def carryOut (m : Machine) (inv : Invocation) (c : Command) (settings : Settings)
    (style : JournalStyle) : Machine × Report :=
  let w : Workplace := ⟨settings, inv.stateDirectory, m.surroundings, m.share⟩
  let before : Session Shelf := {
    registry := {}
    store := ⟨m.disk, {}, ⟨m.network, [], m.draws.boundaries⟩⟩
    draws := m.draws }
  let formatted : Task Shelf (OutputFormat × Nat × Document) := do
    match inv.format with
    | some format => return (format, ← w.perform c)
    | none => throw (.notChoice (.list []) "OutputFormat")
  let (result, after) := formatted.run.run before
  let entry (n : Note) : Entry := ⟨n, m.surroundings.now, m.surroundings.correlation⟩
  let lines (more : List Note) := style.texts (after.journal ++ more.map entry)
  let m := { m with
    disk := after.store.disk
    draws := { after.draws with boundaries := after.store.pinned.boundaries } }
  match result with
  | .ok (format, code, d) =>
    (m, ⟨.exit code, format.write d ++ "\n", withEnds (lines [])⟩)
  | .error f => (m, reportFault inv c.name f lines)

/-- Carry out an invocation. -/
def invoke (m : Machine) (inv : Invocation) : Machine × Report :=
  match inv.command with
  | none => (m, ⟨.noCommand, helpText, ""⟩)
  | some c =>
    let setup : Except Fault (Settings × JournalStyle) := do
      let s ← m.settingsFor inv
      return (s, ← journalStyle s)
    match setup with
    | .ok (settings, style) => m.carryOut inv c settings style
    | .error f => (m, reportFault inv c.name f fun _ => [])

/-- Carry out a command line. -/
def run (m : Machine) (args : List String) : Machine × Report :=
  match Invocation.ofArguments args with
  | .error stop => (m, ⟨.stopped stop, stop.texts.1, stop.texts.2⟩)
  | .ok inv => m.invoke inv

end Machine

/-- The files that a command names. -/
def Command.files : Command → List String
  | compile intent _ => [intent]
  | create intent _ contentFile => intent :: contentFile.toList
  | _ => []

/-- The files that an invocation may read by name: those with settings, and those of its
command. -/
def Invocation.files (inv : Invocation) (home : String) : List String :=
  let settings := match inv.settingsFile.filter (· != "") with
    | some path => [path]
    | none => Settings.defaultPaths home
  settings ++ (inv.command.map Command.files).getD []

/-- The directories of an invocation's state, once the files with settings are on the disk. There
are none as long as the settings cannot be read. -/
def Machine.stateDirectories (m : Machine) (inv : Invocation) : List String :=
  let root : Except Fault String := do
    let settings ← m.settingsFor inv
    Workplace.root ⟨settings, inv.stateDirectory, m.surroundings, m.share⟩
  match root with
  | .ok root => [root, Path.join root Workplace.contentDirectory]
  | .error _ => []

end RuleBound.Cli
