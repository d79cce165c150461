import RuleBound.Store.Basic
import RuleBound.Disk

/-!
The content store on disk: each blob is a file in one directory, named by its digest.

A blob that is there already is not written again. What is read is compared with the digest that
names it, so a changed file is noticed. A file is written in one step: it is there whole or not
at all.
-/

namespace RuleBound.FileStore

/-- The end of the names of blobs. -/
def ending : String := ".bin"

/-- The path of the blob of a digest. -/
def path (root digest : String) : String := Path.join root (digest ++ ending)

/-- What is noted about a stored blob. -/
def storedNote (digest : String) (size : Nat) : Note where
  level := .debug
  origin := .storage
  message := "Stored blob"
  operation := .text "put"
  context := [("pointer", .text digest), ("size", .integer size)]

/-- A directory that could not be made or written to. -/
def unwritable (path digest : String) (fault : DiskFault) : Fault :=
  match fault with
  | .hasNul => .disk .hasNul
  | fault => .storage (.unwritable path fault) (.text digest)

/-- Write a blob that is not there yet. -/
def write (root digest : String) (d : Disk) (content : Bytes) : Reply Disk String :=
  let path := path root digest
  let fail (d : Disk) (fault : DiskFault) : Reply Disk String :=
    ⟨.error (unwritable path digest fault), d, []⟩
  match d.makeDirectory root with
  | (d, .error fault) => fail d fault
  | (d, .ok ()) =>
    match d.write path content with
    | .error fault => fail d fault
    | .ok d => ⟨.ok digest, d, [storedNote digest content.length]⟩

/-- Put a blob below a directory; its digest points to it. -/
def put (root : String) (d : Disk) (content : Bytes) : Reply Disk String :=
  let digest := Sha256.ofBytes content
  match d.exists? (path root digest) with
  | .error fault => ⟨.error (.disk fault), d, []⟩
  | .ok true => ⟨.ok digest, d, []⟩
  | .ok false => write root digest d content

/-- Read the blob that a pointer points to. -/
def read (root : String) (d : Disk) (pointer : Document) : Except Fault Bytes := do
  let digest ← digestOfPointer pointer
  let path := path root digest
  match d.read path with
  | .error (.absent _) => throw (.storage (.absent pointer.shown) pointer)
  | .error .hasNul => throw (.disk .hasNul)
  | .error fault => throw (.storage (.unreadable path fault) pointer)
  | .ok content =>
    if Sha256.ofBytes content = digest then return content
    else throw (.storage (.altered pointer.shown) pointer)

/-- Get the blob that a pointer points to. -/
def get (root : String) (d : Disk) (pointer : Document) : Reply Disk Bytes :=
  ⟨read root d pointer, d, []⟩

/-- The content store below a directory. -/
def store (root : String) : ContentStore Disk := ⟨put root, get root⟩

end RuleBound.FileStore
