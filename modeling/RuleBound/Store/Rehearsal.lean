import RuleBound.Store.Memory

/-!
A store for rehearsals: the store in memory, whose next calls can be made to fail.

Every call counts, also one that fails. A call that fails leaves the blobs as they are.
-/

namespace RuleBound

/-- The store in memory, the number of next calls that fail, and the number of calls so far. -/
structure RehearsalStore where
  memory : MemoryStore := {}
  failingPuts : Nat := 0
  failingGets : Nat := 0
  puts : Nat := 0
  gets : Nat := 0
  deriving DecidableEq, Inhabited

namespace RehearsalStore

/-- The fault of a call that is made to fail. -/
def failure (pointer : Document) : Fault := .storage (.unavailable "gateway timeout") pointer

/-- Put a blob, unless puts are to fail. -/
def put (s : RehearsalStore) (content : Bytes) : Reply RehearsalStore String :=
  let s := { s with puts := s.puts + 1 }
  match s.failingPuts with
  | 0 =>
    let r := s.memory.put content
    ⟨r.result, { s with memory := r.state }, r.notes⟩
  | more + 1 => ⟨.error (failure .null), { s with failingPuts := more }, []⟩

/-- Get a blob, unless gets are to fail. -/
def get (s : RehearsalStore) (pointer : Document) : Reply RehearsalStore Bytes :=
  let s := { s with gets := s.gets + 1 }
  match s.failingGets with
  | 0 =>
    let r := s.memory.get pointer
    ⟨r.result, s, r.notes⟩
  | more + 1 => ⟨.error (failure pointer), { s with failingGets := more }, []⟩

/-- The store for rehearsals. -/
def store : ContentStore RehearsalStore := ⟨put, get⟩

end RehearsalStore

end RuleBound
