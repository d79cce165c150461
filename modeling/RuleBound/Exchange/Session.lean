import RuleBound.Registry.Basic
import RuleBound.Store.Basic
import RuleBound.Retry

/-!
Sessions: the state that an exchange works on.

A task changes a session and ends with an answer or a fault. A fault ends the task but takes
nothing back: what was drawn, noted or stored before it stays.
-/

namespace RuleBound

/-- A registry, a store, and what has been drawn, waited and noted. -/
structure Session (σ : Type) where
  registry : Registry
  store : σ
  draws : Draws := {}
  delays : List Document := []
  journal : List Entry := []

/-- A computation on a session. -/
abbrev Task (σ α : Type) := ExceptT Fault (StateM (Session σ)) α

/-- Who acts, from where, and how. -/
structure Client where
  origin : String
  identity : String
  /-- What metadata names as an image; only a text makes metadata that can be read again. -/
  image : Document
  policy : RetryPolicy
  /-- The random share of delays. -/
  share : Document
  surroundings : Surroundings

namespace Client

/-- The client within a correlation. -/
def within (c : Client) (correlation : Document) : Client :=
  { c with surroundings := { c.surroundings with correlation := correlation } }

end Client

namespace Task

variable {σ α : Type}

/-- Write notes into the journal. -/
def note (c : Client) (notes : List Note) : Task σ Unit :=
  modify fun s =>
    { s with journal := s.journal ++ notes.map fun n =>
        ⟨n, c.surroundings.now, c.surroundings.correlation⟩ }

/-- An answer or a fault that is known already. -/
def ofExcept (r : Except Fault α) : Task σ α :=
  match r with
  | .ok a => pure a
  | .error f => throw f

/-- The correlation under way, drawn if there is none. -/
def correlate (c : Client) : Task σ Document := do
  let s ← get
  let (correlation, draws) := c.surroundings.correlate s.draws
  set { s with draws := draws }
  return correlation

/-- What is noted when a store operation has failed at every attempt. -/
def storeFailedNote (what : String) (attempts : Document) : Note where
  level := .error
  origin := .exchange
  message := "Content store " ++ what ++ " failed"
  errorCode := .text "STORAGE"
  context := [("attempts", attempts)]

/-- A store operation, tried again as the client's policy says. -/
def throughStore (c : Client) (what : String) (operation : σ → Reply σ α) : Task σ α := do
  let s ← get
  let attempt (st : σ × List Note) : Except Fault α × (σ × List Note) :=
    let r := operation st.1
    (r.result, (r.state, st.2 ++ r.notes))
  let (result, account) := c.policy.run c.share attempt { state := (s.store, []) }
  set { s with
    store := account.state.1
    delays := s.delays ++ account.pauses.map Pause.delay }
  note c account.state.2
  match result with
  | .ok a => return a
  | .error (.exhausted attempts last) => do
    note c [storeFailedNote what attempts]
    throw (.storageExhausted what attempts last)
  | .error f => throw f

end Task

end RuleBound
