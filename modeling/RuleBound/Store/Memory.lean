import RuleBound.Store.Basic

/-!
The content store in memory: blobs under their digests.
-/

namespace RuleBound

/-- Blobs under their digests, each digest once. -/
structure MemoryStore where
  blobs : List (String × Bytes) := []
  deriving DecidableEq, Inhabited

namespace MemoryStore

/-- The blob of a digest. -/
def blob? (s : MemoryStore) (digest : String) : Option Bytes :=
  (s.blobs.find? fun b => b.1 == digest).map Prod.snd

/-- The store with a blob. -/
def insert (s : MemoryStore) (content : Bytes) : MemoryStore :=
  let digest := Sha256.ofBytes content
  if (s.blob? digest).isSome then s else ⟨s.blobs ++ [(digest, content)]⟩

/-- The store without the blob of a digest. -/
def erase (s : MemoryStore) (digest : String) : MemoryStore :=
  ⟨s.blobs.filter fun b => b.1 != digest⟩

/-- Put a blob; its digest points to it. -/
def put (s : MemoryStore) (content : Bytes) : Reply MemoryStore String :=
  ⟨.ok (Sha256.ofBytes content), s.insert content, []⟩

/-- Get the blob that a pointer points to. -/
def get (s : MemoryStore) (pointer : Document) : Reply MemoryStore Bytes :=
  let result : Except Fault Bytes := do
    let digest ← digestOfPointer pointer
    match s.blob? digest with
    | some content => return content
    | none => throw (.storage (.absent digest) (.text digest))
  ⟨result, s, []⟩

/-- The content store in memory. -/
def store : ContentStore MemoryStore := ⟨put, get⟩

end MemoryStore

end RuleBound
