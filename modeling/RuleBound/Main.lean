import RuleBound.Cli.Run

/-!
The command line: it reads what a command reaches, carries the command out, and writes back what
has changed. All decisions are made by `Machine.run`; here is only what joins it to the machine it
runs on.

A command that changes nothing needs no lock. One that does is carried out again under the lock of
its state, on what is there by then.
-/

namespace RuleBound.Cli

-- Powers are those of the core library, whichever others are known.
attribute [local instance (high)] instPowNat

/-- The present moment in seconds: the stamp of a fresh file. -/
def currentSecond : IO Int := do
  let (_, path) ← IO.FS.createTempFile
  let stamp ← path.metadata
  IO.FS.removeFile path
  return stamp.modified.sec

/-- The variables of the environment that settings are bound to. -/
def environmentVariables : IO (List (String × String)) := do
  let named ← Setting.all.mapM fun k => do
    return (← IO.getEnv k.variableName).map fun text => (k.variableName, text)
  return named.filterMap id

/-- A random number that is at least zero and below one. -/
def randomShare : IO Document := do
  let n := (← IO.getRandomBytes 8).toList.foldl (fun n b => n * 256 + b.toNat) 0
  return .real (Binary64.ofRatio false (n % 2 ^ (53 : Nat)) (2 ^ (53 : Nat)))

/-- A disk with what stands at a path. What cannot be read is left out. -/
def withPath (disk : Disk) (path : String) : IO Disk := do
  if ← ((← IO.currentDir) / path).isDir then
    return (disk.makeDirectory path).1
  match ← (IO.FS.readBinFile path).toBaseIO with
  | .ok content => return disk.place path content.toList
  | .error _ => return disk

/-- A disk with a directory and the files in it. -/
def withDirectory (disk : Disk) (path : String) : IO Disk := do
  let place := (← IO.currentDir) / path
  let disk ← withPath disk path
  if ← place.isDir then
    (← place.readDir).foldlM (fun disk e => withPath disk (Path.join path e.fileName)) disk
  else return disk

/-- Write what differs from an earlier disk. A file replaces another as a whole. -/
def writeBack (earlier later : Disk) : IO Unit := do
  for (steps, node) in later.entries do
    if earlier.entry? steps ≠ some node then
      let path := Disk.pathOf steps
      match node with
      | .directory => IO.FS.createDirAll path
      | .file content =>
        IO.FS.writeBinFile (path ++ ".new") ⟨content.toArray⟩
        IO.FS.rename (path ++ ".new") path

/-- The machine with what an invocation reaches. -/
def observed (m : Machine) (inv : Invocation) : IO Machine := do
  let disk ← (inv.files m.home).foldlM withPath ({} : Disk)
  let m := { m with disk := disk }
  let disk ← (m.stateDirectories inv).foldlM withDirectory disk
  return { m with disk := disk }

/-- Carry out an invocation, under a lock if it changes something. -/
def performed (m : Machine) (args : List String) (inv : Invocation) : IO Report := do
  let before ← observed m inv
  let (after, report) := before.run args
  if after.disk = before.disk then return report
  match before.stateDirectories inv with
  | [] => return report
  | root :: _ =>
    IO.FS.createDirAll root
    let handle ← IO.FS.Handle.mk (Path.join root Workplace.lockName) .append
    handle.lock
    let before ← observed m inv
    let (after, report) := before.run args
    writeBack before.disk after.disk
    handle.unlock
    return report

end RuleBound.Cli

open RuleBound RuleBound.Cli

/-- Carry out a command line and end with its code. -/
def main (args : List String) : IO UInt32 := do
  let now ← currentSecond
  let seed ← IO.getRandomBytes 32
  let m : Machine := {
    disk := {}
    home := (← IO.getEnv "HOME").getD "/"
    environment := ← environmentVariables
    surroundings := ⟨now, (Moment.ofSeconds now).zoned, .null, Source.ofSeed seed.toList⟩
    share := ← randomShare
    network := .error (.unreachable "offline") }
  let report ← match Invocation.ofArguments args with
    | .ok inv => performed m args inv
    | .error _ => pure (m.run args).2
  IO.print report.output
  IO.eprint report.errors
  return UInt32.ofNat report.ending.code
