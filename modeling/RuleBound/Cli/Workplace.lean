import RuleBound.Cli.Command
import RuleBound.Settings.Basic
import RuleBound.Store.File
import RuleBound.Store.Memory
import RuleBound.Registry.Snapshot
import RuleBound.Exchange.Access
import RuleBound.Document.Loading

/-!
The workplace of a command: the settings that hold for it, the directory with the registry's
snapshot, and the content store.

The snapshot is written after every command that may change the registry, also after one that
failed, because a refusal is recorded before a later failure.
-/

namespace RuleBound.Cli

/-- What content stores work on. -/
structure Shelf where
  disk : Disk
  memory : MemoryStore := {}
  pinned : PinningState

namespace Shelf

/-- A store on the disk of a shelf. -/
def onDisk (store : ContentStore Disk) : ContentStore Shelf :=
  store.within Shelf.disk fun s disk => { s with disk := disk }

/-- A store in the memory of a shelf. -/
def inMemory (store : ContentStore MemoryStore) : ContentStore Shelf :=
  store.within Shelf.memory fun s memory => { s with memory := memory }

/-- A store of a pinning service. -/
def atService (store : ContentStore PinningState) : ContentStore Shelf :=
  store.within Shelf.pinned fun s pinned => { s with pinned := pinned }

end Shelf

/-- What a command is carried out with. -/
structure Workplace where
  settings : Settings
  /-- The directory that was named for the state, if any. -/
  stateDirectory : Option String
  surroundings : Surroundings
  /-- The random share of delays. -/
  share : Document

namespace Workplace

/-- The text of a setting. -/
def text (w : Workplace) (k : Setting) : Except Fault String := do
  match ← w.settings.get k with
  | .text s => return s
  | _ => throw .wrongType

/-- A client without an identity and policy of its own; it writes the journal. -/
def journalist (w : Workplace) : Client where
  origin := ""
  identity := ""
  image := .null
  policy := .standard
  share := w.share
  surroundings := w.surroundings

/-- Write a note into the journal. -/
def note (w : Workplace) (n : Note) : Task Shelf Unit := Task.note w.journalist [n]

/-! ## Files -/

/-- The directory of the state. -/
def root (w : Workplace) : Except Fault String := do
  match w.stateDirectory with
  | some path => if path ≠ "" then return Path.normal path
  | none => pure ()
  return Path.normal (← w.text .stateDirectory)

/-- The name of the file that is locked while a state is worked on. -/
def lockName : String := ".lock"

/-- Change the disk, or fail as it does. -/
def changeDisk (change : Disk → Except DiskFault Disk) : Task Shelf Unit := do
  let s ← get
  match change s.store.disk with
  | .ok disk => set { s with store := { s.store with disk := disk } }
  | .error fault => throw (.disk fault)

/-- Make a directory and all that lead to it. -/
def makeDirectory (path : String) : Task Shelf Unit := do
  let s ← get
  let (disk, result) := s.store.disk.makeDirectory path
  set { s with store := { s.store with disk := disk } }
  if let .error fault := result then throw (.disk fault)

/-- Whether anything stands at a path. -/
def isThere (path : String) : Task Shelf Bool := do
  match (← get).store.disk.exists? path with
  | .ok found => return found
  | .error fault => throw (.disk fault)

/-- Read a file. -/
def readFile (path : String) : Task Shelf Bytes := do
  match (← get).store.disk.read path with
  | .ok content => return content
  | .error fault => throw (.disk fault)

/-- Make sure that a file is there. -/
def touch (path : String) (d : Disk) : Except DiskFault Disk :=
  match d.look path with
  | .ok (.file _) => .ok d
  | _ => d.write path []

/-- The intent in a file, with its content replaced by that of another file if one is named. -/
def intentAt (path : String) (contentFile : Option String) : Task Shelf Intent := do
  let file := Path.normal path
  if !(← isThere file) then throw (.command ("Intent file not found: " ++ path))
  let d ← Task.ofExcept (Document.ofFile path (← readFile file))
  let intent ← Task.ofExcept (loadIntent d)
  match contentFile.filter (· != "") with
  | none => return intent
  | some other =>
    match intent.payload with
    | .file name mime _ reference =>
      let content ← readFile (Path.normal other)
      return { intent with payload := .file name mime (.bytes content) reference }
    | _ => throw (.command "--content-file is only valid for FILE intents")

/-! ## The registry -/

/-- The path of the snapshot. -/
def snapshotPath (w : Workplace) : Except Fault String := do
  return Path.join (← w.root) (← w.text .snapshotFile)

/-- What is wrong with a snapshot that cannot be read. -/
def corrupt (path : String) (cause : Fault) : Fault :=
  .command ("Corrupt registry snapshot " ++ path ++ ": " ++ cause.message)

/-- The document in a snapshot. -/
def snapshotDocument (path : String) (content : Bytes) : Except Fault Document :=
  match Text.fromUtf8 content with
  | .error defect => .error (corrupt path (.notUtf8 defect))
  | .ok s =>
    match Document.parse s with
    | .ok d => .ok d
    | .error f => .error (corrupt path f)

/-- Load the registry from its snapshot; without one it is empty. -/
def loadRegistry (w : Workplace) : Task Shelf Registry := do
  let path ← Task.ofExcept w.snapshotPath
  if !(← isThere path) then
    modify fun s => { s with registry := {} }
    return {}
  let d ← Task.ofExcept (snapshotDocument path (← readFile path))
  let s ← get
  let (drawn, registry) := Registry.restore w.surroundings s.draws.eventIds d
  modify fun s => { s with draws := { s.draws with eventIds := drawn } }
  let registry ← Task.ofExcept registry
  modify fun s => { s with registry := registry }
  return registry

/-- Write the registry into its snapshot. A number that is too long cannot be written. -/
def saveRegistry (w : Workplace) : Task Shelf Unit := do
  let path ← Task.ofExcept w.snapshotPath
  let d ← Task.ofExcept (← get).registry.snapshot
  if d.hasLongNumeral then throw (.numeralTooLong none)
  else changeDisk fun disk => disk.write path (Text.utf8 (d.toJson .page))

/-- Load the registry, do something with it, and write it back whatever came of that. -/
def transaction {α : Type} (w : Workplace) (body : Task Shelf α) : Task Shelf α := do
  let root ← Task.ofExcept w.root
  let _ ← Task.ofExcept w.snapshotPath
  makeDirectory root
  changeDisk (touch (Path.join root lockName))
  let _ ← w.loadRegistry
  let result ← ExceptT.lift body.run
  w.saveRegistry
  Task.ofExcept result

/-! ## Stores and clients -/

/-- What is noted about a store that forgets. -/
def memoryNote (backend : Document) : Note where
  level := .warning
  origin := .commandLine
  message := "Memory content store does not persist between invocations"
  context := [("backend", backend)]

/-- The name of the directory with content within that of the state. -/
def contentDirectory : String := "content"

/-- The content store that the settings name. -/
def contentStore (w : Workplace) : Task Shelf (ContentStore Shelf) := do
  let backend ← Task.ofExcept (w.settings.get .backend)
  if backend = .text "file" then
    return Shelf.onDisk (FileStore.store (Path.join (← Task.ofExcept w.root) contentDirectory))
  else if backend = .text "pinata" then
    let token ← Task.ofExcept (w.settings.get .token)
    let gateway ← Task.ofExcept (w.settings.get .gateway)
    let timeout ← Task.ofExcept (w.settings.get .timeout)
    let service ← Task.ofExcept
      (PinningService.make (if token.isTrue then token.shown else "") gateway timeout
        PinningService.defaultName)
    return Shelf.atService (service.store w.surroundings.source.boundary)
  else
    w.note (memoryNote backend)
    return Shelf.inMemory MemoryStore.store

/-- The retry policy that the settings describe. Only failures of the store may pass. -/
def policy (w : Workplace) : Except Fault RetryPolicy := do
  let attempts ← w.settings.get .attempts
  let delay ← w.settings.get .baseDelay
  RetryPolicy.withAttempts { RetryPolicy.standard with
    baseDelay := delay, passing := [.storage] } attempts

/-- A client for an identity. -/
def client (w : Workplace) (identity : String) : Except Fault Client := do
  let policy ← w.policy
  let origin ← w.text .origin
  let image ← w.settings.get .image
  return {
    origin := origin
    identity := identity
    image := image
    policy := policy
    share := w.share
    surroundings := w.surroundings }

/-- Do something with a content store as a client, between loading and saving the registry. -/
def exchange {α : Type} (w : Workplace) (identity : String)
    (body : ContentStore Shelf → Client → Task Shelf α) : Task Shelf α :=
  w.transaction do
    let store ← w.contentStore
    let c ← Task.ofExcept (w.client identity)
    body store c

end Workplace

end RuleBound.Cli
