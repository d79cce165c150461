import RuleBound.Proofs.Store

/-!
Calls to a content store, one after the other. A store in memory keeps what it is given, and it
makes no difference to it whether a blob that it has is written anew.
-/

namespace RuleBound

open Sha256 (ofBytes)

/-! ## Calls -/

/-- A call to a content store. -/
inductive StoreCall
  | put (content : Bytes)
  | putDocument (d : Document)
  | get (pointer : Document)
  | getDocument (pointer : Document)

/-- What a call to a content store gives. -/
inductive StoreAnswer
  | pointer (digest : String)
  | content (content : Bytes)
  | document (d : Document)

namespace StoreCall

variable {σ : Type}

/-- The answer of a store to a call, and what the call makes of the store. -/
def ask (store : ContentStore σ) (s : σ) : StoreCall → Reply σ StoreAnswer
  | put content => (store.put s content).bind fun digest => .ok (.pointer digest)
  | putDocument d => (store.putDocument s d).bind fun digest => .ok (.pointer digest)
  | get pointer => (store.get s pointer).bind fun content => .ok (.content content)
  | getDocument pointer => (store.getDocument s pointer).bind fun d => .ok (.document d)

/-- The answers of a store to calls one after the other, and what they make of the store. -/
def run (store : ContentStore σ) : σ → List StoreCall → List (Except Fault StoreAnswer) × σ
  | s, [] => ([], s)
  | s, call :: calls =>
    let r := call.ask store s
    let rest := run store r.state calls
    (r.result :: rest.1, rest.2)

/-- The content that a call brings to the store, if any. -/
def content? : StoreCall → Option Bytes
  | put content => some content
  | putDocument d => d.canonical.toOption.map Text.utf8
  | get _ | getDocument _ => none

/-- The contents that calls bring to the store. -/
def contents (calls : List StoreCall) : List Bytes := calls.filterMap content?

theorem contents_cons (call : StoreCall) (calls : List StoreCall) :
    contents (call :: calls) = call.content?.toList ++ contents calls := by
  rw [contents, List.filterMap_cons]
  cases call.content? <;> rfl

variable (store : ContentStore σ) (s : σ)

theorem ask_put (content : Bytes) : (put content).ask store s =
    (store.put s content).bind fun digest => .ok (.pointer digest) := rfl

theorem run_put (content : Bytes) : (run store s [put content]).1 =
    [(store.put s content).result.bind fun digest => .ok (.pointer digest)] := rfl

/-- A document is put by its canonical text. -/
theorem ask_putDocument_of_ok {d : Document} {text : String} (canonical : d.canonical = .ok text) :
    (putDocument d).ask store s = (put (Text.utf8 text)).ask store s := by
  simp only [ask, ContentStore.putDocument, canonical]

theorem ask_putDocument_of_error {d : Document} {fault : Fault}
    (canonical : d.canonical = .error fault) :
    (putDocument d).ask store s = ⟨.error fault, s, []⟩ := by
  simp only [ask, ContentStore.putDocument, canonical]
  rfl

/-- A call changes a store only by the content that it brings. -/
theorem state_ask {store : ContentStore σ} (reads : ∀ s pointer, (store.get s pointer).state = s)
    (s : σ) (call : StoreCall) :
    (call.ask store s).state = call.content?.elim s fun content => (store.put s content).state := by
  cases call with
  | put content => rfl
  | putDocument d =>
    cases canonical : d.canonical with
    | ok text =>
      rw [ask_putDocument_of_ok _ _ canonical, content?, canonical]
      rfl
    | error fault =>
      rw [ask_putDocument_of_error _ _ canonical, content?, canonical]
      rfl
  | get pointer => exact reads s pointer
  | getDocument pointer => exact reads s pointer

/-- Stores that read alike and take what a call brings alike answer the call alike. -/
theorem ask_congr {store store' : ContentStore σ} {s : σ} {call : StoreCall}
    (gets : ∀ pointer, store.get s pointer = store'.get s pointer)
    (puts : ∀ content ∈ call.content?, store.put s content = store'.put s content) :
    call.ask store s = call.ask store' s := by
  cases call with
  | put content => rw [ask_put, ask_put, puts content rfl]
  | putDocument d =>
    cases canonical : d.canonical with
    | ok text =>
      rw [ask_putDocument_of_ok _ _ canonical, ask_putDocument_of_ok _ _ canonical, ask_put,
        ask_put, puts (Text.utf8 text)]
      rw [content?, canonical]
      rfl
    | error fault =>
      rw [ask_putDocument_of_error _ _ canonical, ask_putDocument_of_error _ _ canonical]
  | get pointer => rw [ask, ask, gets]
  | getDocument pointer => rw [ask, ask, ContentStore.getDocument, ContentStore.getDocument, gets]

end StoreCall

/-- Whether a store keeps given contents: each is read under its digest and taken again without
a trace, and nothing is read but under the digest that it has. -/
structure ContentStore.Keeps {σ : Type} (store : ContentStore σ) (s : σ) (given : List Bytes) :
    Prop where
  read : ∀ content ∈ given, (store.get s (.text (ofBytes content))).result = .ok content
  again : ∀ content ∈ given, store.put s content = ⟨.ok (ofBytes content), s, []⟩
  own : ∀ pointer content, (store.get s pointer).result = .ok content →
    ofBytes content = Text.lower (Text.strip pointer.shown)

theorem eq_of_digestOfPointer {pointer : Document} {digest : String}
    (spelled : digestOfPointer pointer = .ok digest) :
    Text.isDigest digest = true ∧ digest = Text.lower (Text.strip pointer.shown) := by
  unfold digestOfPointer at spelled
  extract_lets candidate at spelled
  split at spelled
  · next shaped =>
    have same : candidate = digest := Except.ok.inj spelled
    rw [← same]
    refine ⟨shaped, ?_⟩
    by_cases some : pointer.isTrue = true
    · exact if_pos some
    · have none : candidate = "" := if_neg some
      rw [none] at shaped
      exact absurd shaped (by decide)
  · cases spelled

theorem Reply.bind_result {σ α β : Type} (r : Reply σ α) (f : α → Except Fault β) :
    (r.bind f).result = r.result.bind f := rfl

/-! ## In memory -/

namespace MemoryStore

theorem store_put (s : MemoryStore) (content : Bytes) :
    store.put s content = ⟨.ok (ofBytes content), s.insert content, []⟩ := rfl

/-- Whether the blobs of a store are given contents, each under its digest. -/
def IsOf (given : List Bytes) (s : MemoryStore) : Prop :=
  ∀ e ∈ s.blobs, e.1 = ofBytes e.2 ∧ e.2 ∈ given

variable {s : MemoryStore} {given : List Bytes} {content : Bytes}

theorem IsOf.of_blob? (isOf : s.IsOf given) {digest : String} {b : Bytes}
    (found : s.blob? digest = some b) : digest = ofBytes b ∧ b ∈ given := by
  obtain ⟨e, first, rfl⟩ := Option.map_eq_some_iff.mp found
  obtain ⟨own, among⟩ := isOf e (List.mem_of_find?_eq_some first)
  have same := List.find?_some first
  exact ⟨(beq_iff_eq.mp same).symm.trans own, among⟩

theorem IsOf.mono {given' : List Bytes} (isOf : s.IsOf given) (sub : given ⊆ given') :
    s.IsOf given' := fun e mem => (isOf e mem).imp id fun among => sub among

theorem IsOf.insert (isOf : s.IsOf given) (content : Bytes) :
    (s.insert content).IsOf (given ++ [content]) := by
  have longer := isOf.mono (List.subset_append_left given [content])
  unfold MemoryStore.insert
  extract_lets digest
  split
  · exact longer
  · intro e mem
    rcases List.mem_append.mp mem with old | new
    · exact longer e old
    · rw [List.mem_singleton.mp new]
      exact ⟨rfl, List.mem_append_right _ List.mem_cons_self⟩

theorem blob?_insert_self (missing : s.blob? (ofBytes content) = none) :
    (s.insert content).blob? (ofBytes content) = some content := by
  obtain ⟨b, found⟩ := exists_blob_insert s content
  rcases blob?_insert found with old | ⟨-, rfl⟩
  · rw [missing] at old
    cases old
  · exact found

theorem blob?_insert_of_ne {digest : String} (other : digest ≠ ofBytes content) :
    (s.insert content).blob? digest = s.blob? digest := by
  cases found : s.blob? digest with
  | some b => exact blob?_insert_of_some found content
  | none =>
    refine Option.eq_none_iff_forall_ne_some.mpr fun b found' => ?_
    rcases blob?_insert found' with old | ⟨same, -⟩
    · rw [found] at old
      cases old
    · exact other same

/-- The store with a blob in the place of the one that stands under its digest. -/
def replace (s : MemoryStore) (content : Bytes) : MemoryStore :=
  let digest := ofBytes content
  if (s.blob? digest).isSome then
    ⟨s.blobs.map fun b => if b.1 = digest then (digest, content) else b⟩
  else ⟨s.blobs ++ [(digest, content)]⟩

/-- The store in memory that writes a blob anew each time it is put. -/
def overwriting : ContentStore MemoryStore where
  put s content := ⟨.ok (ofBytes content), s.replace content, []⟩
  get := get

/-- Whether a blob is kept or written anew makes no difference without a collision. -/
theorem replace_eq_insert (isOf : s.IsOf given) {content : Bytes}
    (distinct : ∀ b ∈ given, ofBytes b = ofBytes content → b = content) :
    s.replace content = s.insert content := by
  unfold replace insert
  extract_lets digest
  split
  · have same : ∀ e ∈ s.blobs, (if e.1 = digest then (digest, content) else e) = id e := by
      intro e mem
      obtain ⟨own, among⟩ := isOf e mem
      split
      · next here => rw [← here, ← distinct e.2 among (own.symm.trans here), id]
      · rfl
    rw [List.map_congr_left same, List.map_id]
  · rfl

theorem IsOf.keeps (isOf : s.IsOf given)
    (stored : ∀ content ∈ given, (s.blob? (ofBytes content)).isSome)
    (distinct : Set.InjOn ofBytes {b | b ∈ given}) : store.Keeps s given where
  read content among := by
    obtain ⟨b, found⟩ := Option.isSome_iff_exists.mp (stored content among)
    obtain ⟨same, among'⟩ := isOf.of_blob? found
    rw [distinct among among' same]
    exact get_eq_ok_iff.mpr ⟨_, digestOfPointer_ofBytes b, same ▸ found⟩
  again content among := by
    have kept : s.insert content = s := if_pos (stored content among)
    change (⟨_, s.insert content, _⟩ : Reply _ _) = _
    rw [kept]
  own pointer content got := by
    obtain ⟨digest, spelled, found⟩ := get_eq_ok_iff.mp got
    exact (isOf.of_blob? found).1.symm.trans (eq_of_digestOfPointer spelled).2

end MemoryStore

/-- Without a collision a store in memory that writes blobs anew goes the same way. -/
theorem StoreCall.run_overwriting {given : List Bytes} {s : MemoryStore} (isOf : s.IsOf given)
    {calls : List StoreCall} (distinct : Set.InjOn ofBytes {b | b ∈ given ++ contents calls}) :
    run MemoryStore.overwriting s calls = run MemoryStore.store s calls := by
  induction calls generalizing given s with
  | nil => rfl
  | cons call calls ih =>
    rw [contents_cons] at distinct
    have puts : ∀ content ∈ call.content?,
        MemoryStore.overwriting.put s content = MemoryStore.store.put s content := by
      intro content brings
      have among : content ∈ given ++ (call.content?.toList ++ contents calls) := by
        rw [Option.mem_def.mp brings]
        simp
      have same : s.replace content = s.insert content :=
        MemoryStore.replace_eq_insert isOf fun b old alike =>
          distinct (List.mem_append_left _ old) among alike
      rw [MemoryStore.store_put, ← same]
      rfl
    have isOf' : (call.ask MemoryStore.store s).state.IsOf (given ++ call.content?.toList) := by
      rw [state_ask fun _ _ => rfl]
      cases call.content? with
      | none =>
        rw [Option.toList_none, List.append_nil]
        exact isOf
      | some content => exact isOf.insert content
    have asks : call.ask MemoryStore.overwriting s = call.ask MemoryStore.store s :=
      ask_congr (fun _ => rfl) puts
    rw [run, run, asks, ih isOf' (by rwa [List.append_assoc])]

end RuleBound
