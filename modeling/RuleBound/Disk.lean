import RuleBound.Fault

/-!
A tree of files around a current directory.

Paths are texts with slashes, followed step by step: a step can only be taken from a directory, so
a step up from something that is not there leads nowhere. A path that begins with the name of the
current directory means what follows it. An operation that cannot be carried out tells which path
stood in the way and how.
-/

namespace RuleBound

/-- What stands at a place. -/
inductive DiskNode
  | file (content : Bytes)
  | directory
  deriving DecidableEq, Repr

/-- A tree of files. Places are steps from the current directory; those above it are steps up, and
the root of the tree is a slash. -/
structure Disk where
  /-- The name of the current directory. -/
  here : String := ""
  entries : List (List String × DiskNode) := []
  deriving DecidableEq, Inhabited

namespace Path

/-- What stands between the slashes of a path. -/
def split (path : String) : List String := (path.toList.splitOn '/').map String.ofList

/-- The steps of a path but empty ones and steps to the same place. -/
def steps (path : String) : List String := (split path).filter fun s => s != "" && s != "."

/-- What a path begins with: nothing, or the root of the tree. Two slashes are a root of their
own. -/
def root (path : String) : String :=
  match (path.toList.takeWhile (· == '/')).length with
  | 0 => ""
  | 2 => "//"
  | _ => "/"

/-- The path of a root and steps. -/
def ofSteps (root : String) (steps : List String) : String :=
  if root = "" ∧ steps.isEmpty then "." else root ++ "/".intercalate steps

/-- A path without empty steps and steps to the same place. -/
def normal (path : String) : String := ofSteps (root path) (steps path)

/-- A path below another; one that begins with a slash stands for itself. -/
def join (parent child : String) : String :=
  if root child = "" then ofSteps (root parent) (steps parent ++ steps child) else normal child

/-- A path and all that lead to it, the longest first. -/
def ways (path : String) : List String :=
  let steps := steps path
  (List.range steps.length).map fun n => ofSteps (root path) (steps.take (steps.length - n))

end Path

namespace Disk

/-- The greatest number of bytes in a name. -/
def nameLimit : Nat := 255

/-- The number of bytes from which on a path is too long. -/
def pathLimit : Nat := 4096

/-- Whether there is a directory at a place without anyone having made it. -/
def isGiven (place : List String) : Bool := place == ["/"] || place.all (· == "..")

/-- The place above another. -/
def above (place : List String) : List String :=
  if place = ["/"] then place
  else if place.all (· == "..") then ".." :: place
  else place.dropLast

/-- What stands at a place, without regard to what leads there. -/
def entry? (d : Disk) (place : List String) : Option DiskNode :=
  if isGiven place then some .directory
  else (d.entries.find? fun e => e.1 == place).map Prod.snd

/-- Follow steps from a place. Something may or may not stand at the last place. -/
def follow (d : Disk) (path : String) : List String → List String → Except DiskFault (List String)
  | place, [] => .ok place
  | place, step :: rest =>
    match d.entry? place with
    | none => .error (.absent path)
    | some (.file _) => .error (.notDirectory path)
    | some .directory =>
      if step = "" ∨ step = "." then d.follow path place rest
      else if step = ".." then d.follow path (above place) rest
      else if nameLimit < step.utf8ByteSize then .error (.nameTooLong path)
      else d.follow path (place ++ [step]) rest

/-- A path without the name of the current directory in front. -/
def relative (d : Disk) (path : String) : String :=
  if d.here ≠ "" ∧ (path = d.here ∨ (d.here ++ "/").toList.isPrefixOf path.toList) then
    String.ofList (path.toList.drop (d.here.length + 1))
  else path

/-- The place that a path leads to. -/
def locate (d : Disk) (path : String) : Except DiskFault (List String) :=
  if path.toList.contains '\x00' then .error .hasNul
  else if pathLimit ≤ path.utf8ByteSize then .error (.nameTooLong path)
  else
    let relative := d.relative path
    d.follow path (if Path.root relative = "" then [] else ["/"]) (Path.split relative)

/-- The path of a place. -/
def pathOf : List String → String
  | "/" :: steps => "/" ++ "/".intercalate steps
  | steps => "/".intercalate steps

/-- What stands at a path. -/
def look (d : Disk) (path : String) : Except DiskFault DiskNode := do
  match d.entry? (← d.locate path) with
  | some node => return node
  | none => throw (.absent path)

/-- Whether anything stands at a path. A path that is too long is a fault. -/
def exists? (d : Disk) (path : String) : Except DiskFault Bool :=
  match d.look path with
  | .ok _ => .ok true
  | .error (.nameTooLong path) => .error (.nameTooLong path)
  | .error _ => .ok false

/-- The content of a file. -/
def read (d : Disk) (path : String) : Except DiskFault Bytes := do
  match ← d.look path with
  | .file content => return content
  | .directory => throw (.isDirectory path)

/-- Entries with a node put at a place. -/
def putEntry : List (List String × DiskNode) → List String → DiskNode →
    List (List String × DiskNode)
  | [], place, node => [(place, node)]
  | (s, n) :: rest, place, node =>
    if s = place then (s, node) :: rest else (s, n) :: putEntry rest place node

/-- The tree with a node at a place. -/
def put (d : Disk) (place : List String) (node : DiskNode) : Disk :=
  { d with entries := putEntry d.entries place node }

/-- Write a file into a directory that is there. -/
def write (d : Disk) (path : String) (content : Bytes) : Except DiskFault Disk := do
  let place ← d.locate path
  match d.entry? place with
  | some .directory => throw (.isDirectory path)
  | _ => return d.put place (.file content)

/-- Make a directory within one that is there. -/
def makeOne (d : Disk) (path : String) : Except DiskFault Disk := do
  let place ← d.locate path
  match d.entry? place with
  | some _ => throw (.taken path)
  | none => return d.put place .directory

/-- Whether there is a directory at a path. -/
def isDirectory (d : Disk) (path : String) : Bool :=
  match d.look path with
  | .ok .directory => true
  | _ => false

/-- Make a directory within one that is there, or leave the one that is there already. -/
def ensureOne (d : Disk) (path : String) : Disk × Except DiskFault Unit :=
  match d.makeOne path with
  | .ok d => (d, .ok ())
  | .error fault => (d, if d.isDirectory path then .ok () else .error fault)

/-- Make the first of some directories, making the next one first if something is missing on the
way. What was made stays also if another cannot be made. -/
def ensure (d : Disk) : List String → Disk × Except DiskFault Unit
  | [] => (d, .ok ())
  | path :: shorter =>
    match d.makeOne path with
    | .error (.absent _) =>
      if shorter.isEmpty then (d, .error (.absent path))
      else
        match d.ensure shorter with
        | (d, .ok ()) => d.ensureOne path
        | failed => failed
    | _ => d.ensureOne path

/-- Make a directory and all that lead to it; one that is there already is fine. -/
def makeDirectory (d : Disk) (path : String) : Disk × Except DiskFault Unit :=
  d.ensure (Path.ways path)

/-- Remove what stands at a path and all below it. -/
def remove (d : Disk) (path : String) : Disk :=
  match d.locate path with
  | .ok place => { d with entries := d.entries.filter fun e => !place.isPrefixOf e.1 }
  | .error _ => d

/-- The names in a directory, sorted; none if there is no directory. -/
def list? (d : Disk) (path : String) : Option (List String) :=
  match d.locate path with
  | .error _ => none
  | .ok place =>
    if d.entry? place = some .directory then
      let names := d.entries.filterMap fun e =>
        if place.isPrefixOf e.1 && e.1.length = place.length + 1 then e.1.getLast? else none
      some (names.mergeSort fun a b => decide (a ≤ b))
    else none

/-- Put a file somewhere, making the directories that lead to it and replacing what is there. -/
def place (d : Disk) (path : String) (content : Bytes) : Disk :=
  let (d, _) := d.ensure ((Path.ways path).drop 1)
  match d.locate (Path.normal path) with
  | .ok place => d.put place (.file content)
  | .error _ => d

end Disk

end RuleBound
