import RuleBound.Document.Canonical
import RuleBound.Document.Coercion
import RuleBound.Text.Hash
import RuleBound.Text.LetterCase
import RuleBound.Journal.Note

/-!
Content stores: bytes go in and a pointer comes out, the pointer goes in and the bytes come out.

A store is described by what its two operations do to a state. A failing operation is a storage
fault that carries the pointer it was asked for; the caller may try again.
-/

namespace RuleBound

/-- What a store operation gives: its result, the state after it, and notes for the journal. -/
structure Reply (σ α : Type) where
  result : Except Fault α
  state : σ
  notes : List Note := []

/-- A content store over a state. -/
structure ContentStore (σ : Type) where
  put : σ → Bytes → Reply σ String
  get : σ → Document → Reply σ Bytes

namespace Reply

/-- A reply with its value taken further. -/
def bind {σ α β : Type} (r : Reply σ α) (f : α → Except Fault β) : Reply σ β :=
  ⟨r.result.bind f, r.state, r.notes⟩

end Reply

/-- The document that stored bytes are. -/
def documentOfBytes (pointer : Document) (content : Bytes) : Except Fault Document :=
  let fault := Fault.storage (.notJson pointer.shown) pointer
  match Text.fromUtf8? content with
  | none => .error fault
  | some s =>
    match Document.read s with
    | .ok d => .ok d
    | .error _ => .error fault

namespace ContentStore

variable {σ : Type}

/-- A store over a part of a larger state. -/
def within {τ : Type} (store : ContentStore σ) (part : τ → σ) (replace : τ → σ → τ) :
    ContentStore τ where
  put t content :=
    let r := store.put (part t) content
    ⟨r.result, replace t r.state, r.notes⟩
  get t pointer :=
    let r := store.get (part t) pointer
    ⟨r.result, replace t r.state, r.notes⟩

/-- Store a document by its canonical text. -/
def putDocument (store : ContentStore σ) (s : σ) (d : Document) : Reply σ String :=
  match d.canonical with
  | .error f => ⟨.error f, s, []⟩
  | .ok text => store.put s (Text.utf8 text)

/-- Fetch a document. -/
def getDocument (store : ContentStore σ) (s : σ) (pointer : Document) : Reply σ Document :=
  (store.get s pointer).bind (documentOfBytes pointer)

end ContentStore

/-- The digest that a pointer spells: blanks around it and case do not matter. -/
def digestOfPointer (pointer : Document) : Except Fault String :=
  let digest := if pointer.isTrue then Text.lower (Text.strip pointer.shown) else ""
  if Text.isDigest digest then .ok digest else .error (.storage .notDigest pointer)

end RuleBound
