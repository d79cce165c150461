import RuleBound.Proofs.Directory
import RuleBound.Proofs.StoreCall

/-!
The two local stores are one. A store on disk, in a directory that stands and in which there is no
blob yet, answers every call as the store in memory does, and fails where that one fails, with a
fault of the same family, as long as the directory leaves room for the names of blobs.

The invariant is that the files at the places of blobs are the blobs in memory.
-/

namespace RuleBound

open Sha256 (ofBytes)

/-! ## On disk -/

namespace FileStore

open RuleBound.Path (IsPlain)

variable {root : String} {site : List String} {given : List Bytes} {s : MemoryStore} {d : Disk}

/-- Whether a directory leaves room for the names of blobs in a path. -/
def HasRoom (root : String) : Prop :=
  ∀ content, (path root (ofBytes content)).utf8ByteSize < Disk.pathLimit

/-- Whether the files of a store are the blobs of one in memory: the directory stands, and under the
name of a digest there is the blob of that digest and nothing else, as far as one gets there. -/
structure Mirrors (root : String) (site : List String) (s : MemoryStore) (d : Disk) : Prop where
  stands : d.look (Path.normal root) = .ok .directory
  finds : ∀ digest, Text.isDigest digest = true →
    (d.locate (path root digest) = .ok (site ++ [nameOf digest]) ∧
      d.entry? (site ++ [nameOf digest]) = (s.blob? digest).map .file) ∨
      Disk.IsLong (path root digest)

/-- In a directory that stands and is empty the files are those of an empty store. -/
theorem exists_mirrors (stands : d.look (Path.normal root) = .ok .directory)
    (empty : ∀ name, IsPlain name → ∀ node, d.look (Path.join root name) ≠ .ok node)
    (room : HasRoom root) : ∃ site, Mirrors root site {} d := by
  obtain ⟨place, located⟩ := Disk.exists_locate_join stands (isPlain_nameOf []) (room [])
  have elsewhere : ∀ name, IsPlain name → d.locate (Path.join root name) ≠ .ok [] := by
    intro name plain current
    exact empty name plain .directory (Disk.look_eq_ok_iff.mpr ⟨[], current, rfl⟩)
  obtain ⟨site, -, opened⟩ := Disk.isOpen_of_locate (isPlain_nameOf []) located fun none =>
    elsewhere _ (isPlain_nameOf []) (none ▸ located)
  refine ⟨site, stands, fun digest shaped => ?_⟩
  have plain := isPlain_of_isDigest shaped
  rcases opened.leads _ plain with there | current | long
  · refine .inl ⟨there, ?_⟩
    change d.entry? (site ++ [nameOf digest]) = none
    cases found : d.entry? (site ++ [nameOf digest]) with
    | none => rfl
    | some node =>
      exact absurd (Disk.look_eq_ok_iff.mpr ⟨_, there, found⟩) (empty _ plain node)
  · exact absurd current (elsewhere _ plain)
  · exact .inr long

namespace Mirrors

theorem finds_content (mirrors : Mirrors root site s d) (room : HasRoom root) (content : Bytes) :
    d.locate (path root (ofBytes content)) = .ok (site ++ [nameOf (ofBytes content)]) ∧
      d.entry? (site ++ [nameOf (ofBytes content)]) = (s.blob? (ofBytes content)).map .file :=
  (mirrors.finds _ (Sha256.isDigest_ofBytes content)).resolve_right fun long =>
    absurd long.long (Nat.not_le.mpr (room content))

/-- Both stores get the same under a pointer, or fail with faults of one family. -/
theorem get_alike (mirrors : Mirrors root site s d) (room : HasRoom root) (isOf : s.IsOf given)
    (pointer : Document) : (MemoryStore.store.get s pointer).result.mapError Fault.code =
      ((store root).get d pointer).result.mapError Fault.code := by
  change ((digestOfPointer pointer) >>= _).mapError Fault.code =
    ((digestOfPointer pointer) >>= _).mapError Fault.code
  cases spelled : digestOfPointer pointer with
  | error fault => rfl
  | ok digest =>
    obtain ⟨shaped, -⟩ := eq_of_digestOfPointer spelled
    rw [ok_bind, ok_bind]
    cases found : s.blob? digest with
    | some b =>
      obtain ⟨rfl, -⟩ := isOf.of_blob? found
      obtain ⟨located, there⟩ := mirrors.finds_content room b
      rw [found] at there
      have read : d.read (path root (ofBytes b)) = .ok b :=
        Disk.read_eq_ok_iff.mpr (Disk.look_eq_ok_iff.mpr ⟨_, located, there⟩)
      simp only [read, if_true]
    | none =>
      rcases mirrors.finds digest shaped with ⟨located, gone⟩ | long
      · rw [found, Option.map_none] at gone
        have read : d.read (path root digest) = .error (.absent (path root digest)) := by
          rw [Disk.read, Disk.look, located, ok_bind, gone]
          rfl
        simp only [read]
        rfl
      · have read : d.read (path root digest) = .error (.nameTooLong (path root digest)) := by
          rw [Disk.read, Disk.look, long.locate_eq]
          rfl
        simp only [read]
        rfl

/-- What is there is not put again. -/
theorem put_of_some (mirrors : Mirrors root site s d) (room : HasRoom root) {content : Bytes}
    (there : (s.blob? (ofBytes content)).isSome) :
    (store root).put d content = ⟨.ok (ofBytes content), d, []⟩ := by
  obtain ⟨b, found⟩ := Option.isSome_iff_exists.mp there
  obtain ⟨located, stands⟩ := mirrors.finds_content room content
  rw [found] at stands
  have exist : d.exists? (path root (ofBytes content)) = .ok true := by
    rw [Disk.exists?, Disk.look_eq_ok_iff.mpr ⟨_, located, stands⟩]
  unfold store FileStore.put
  simp only [exist]

/-- What is not there is written, and the rest stays as it is. -/
theorem put_of_none (mirrors : Mirrors root site s d) (room : HasRoom root) {content : Bytes}
    (missing : s.blob? (ofBytes content) = none) :
    ((store root).put d content).result = .ok (ofBytes content) ∧
      ((store root).put d content).state =
        d.put (site ++ [nameOf (ofBytes content)]) (.file content) := by
  obtain ⟨located, gone⟩ := mirrors.finds_content room content
  rw [missing] at gone
  have exist : d.exists? (path root (ofBytes content)) = .ok false := by
    rw [Disk.exists?, Disk.look, located, ok_bind, gone]
    rfl
  have written : d.write (path root (ofBytes content)) content =
      .ok (d.put (site ++ [nameOf (ofBytes content)]) (.file content)) := by
    rw [Disk.write, located, ok_bind, gone]
    rfl
  unfold store FileStore.put
  simp only [exist, write, Disk.makeDirectory_of_look mirrors.stands, written, and_self]

/-- A put of one content to both stores gives the same pointer, and the files are still the blobs. -/
theorem put (mirrors : Mirrors root site s d) (room : HasRoom root) (content : Bytes) :
    ((store root).put d content).result = .ok (ofBytes content) ∧
      Mirrors root site (s.insert content) ((store root).put d content).state := by
  cases found : s.blob? (ofBytes content) with
  | some b =>
    have there : (s.blob? (ofBytes content)).isSome := by rw [found]; rfl
    have kept : s.insert content = s := if_pos there
    rw [mirrors.put_of_some room there, kept]
    exact ⟨rfl, mirrors⟩
  | none =>
    obtain ⟨answers, state⟩ := mirrors.put_of_none room found
    obtain ⟨located, gone⟩ := mirrors.finds_content room content
    rw [found] at gone
    have grows : Disk.Grows (fun _ _ => True) d
        (d.put (site ++ [nameOf (ofBytes content)]) (.file content)) := .put gone trivial
    refine ⟨answers, state ▸ ⟨grows.look mirrors.stands, fun digest shaped => ?_⟩⟩
    refine (mirrors.finds digest shaped).imp ?_ id
    rintro ⟨there, stands⟩
    have ungiven : Disk.isGiven (site ++ [nameOf digest]) = false := by
      rw [← Bool.not_eq_true]
      intro given
      rw [ Disk.entry?, if_pos given] at stands
      cases blob : s.blob? digest <;> rw [blob] at stands <;> cases stands
    refine ⟨grows.locate there, ?_⟩
    rw [Disk.entry_put, ungiven, if_neg Bool.false_ne_true]
    by_cases same : digest = ofBytes content
    · rw [same, if_pos rfl, MemoryStore.blob?_insert_self found]
      rfl
    · rw [if_neg, stands, MemoryStore.blob?_insert_of_ne same]
      intro alike
      have names := List.singleton_inj.mp (List.append_inj_right' alike rfl)
      rw [nameOf, nameOf, ← String.toList_inj, String.toList_append, String.toList_append] at names
      exact same (String.toList_inj.mp (List.append_cancel_right names))

end Mirrors

end FileStore

/-! ## Both -/

theorem mapError_bind {ε ε' α β : Type} {f : ε → ε'} {x y : Except ε α}
    (same : x.mapError f = y.mapError f) (g : α → Except ε β) :
    (x.bind g).mapError f = (y.bind g).mapError f := by
  cases x with
  | ok a =>
    cases y with
    | ok b =>
      cases same
      rfl
    | error fault => cases same
  | error fault =>
    cases y with
    | ok b => cases same
    | error fault' => exact congrArg Except.error (Except.error.inj same)

/-- Whether a store in memory and one on disk were given the same contents: the files of the one are
the blobs of the other, and these are the contents. -/
structure Twins (root : String) (site : List String) (given : List Bytes) (s : MemoryStore)
    (d : Disk) : Prop where
  mirrors : FileStore.Mirrors root site s d
  isOf : s.IsOf given
  stored : ∀ content ∈ given, (s.blob? (ofBytes content)).isSome

namespace Twins

open FileStore (HasRoom)

variable {root : String} {site : List String} {given : List Bytes} {s : MemoryStore} {d : Disk}

theorem put (twins : Twins root site given s d) (room : HasRoom root) (content : Bytes) :
    Twins root site (given ++ [content]) (s.insert content)
      ((FileStore.store root).put d content).state where
  mirrors := (twins.mirrors.put room content).2
  isOf := twins.isOf.insert content
  stored b among := by
    rcases List.mem_append.mp among with old | new
    · obtain ⟨b', found⟩ := Option.isSome_iff_exists.mp (twins.stored b old)
      rw [MemoryStore.blob?_insert_of_some found content]
      rfl
    · obtain ⟨b', found⟩ := MemoryStore.exists_blob_insert s content
      rw [List.mem_singleton.mp new, found]
      rfl

/-- Both stores answer a call in the same way, or fail with faults of one family. -/
theorem ask_alike (twins : Twins root site given s d) (room : HasRoom root) (call : StoreCall) :
    (call.ask MemoryStore.store s).result.mapError Fault.code =
      (call.ask (FileStore.store root) d).result.mapError Fault.code := by
  have puts : ∀ content : Bytes,
      ((StoreCall.put content).ask MemoryStore.store s).result.mapError Fault.code =
        ((StoreCall.put content).ask (FileStore.store root) d).result.mapError Fault.code := by
    intro content
    rw [StoreCall.ask_put, StoreCall.ask_put, MemoryStore.store_put, Reply.bind_result,
      Reply.bind_result, (twins.mirrors.put room content).1]
  have gets := twins.mirrors.get_alike room twins.isOf
  cases call with
  | put content => exact puts content
  | putDocument document =>
    cases canonical : document.canonical with
    | ok text =>
      rw [StoreCall.ask_putDocument_of_ok _ _ canonical,
        StoreCall.ask_putDocument_of_ok _ _ canonical]
      exact puts _
    | error fault =>
      rw [StoreCall.ask_putDocument_of_error _ _ canonical,
        StoreCall.ask_putDocument_of_error _ _ canonical]
  | get pointer => exact mapError_bind (gets pointer) _
  | getDocument pointer => exact mapError_bind (mapError_bind (gets pointer) _) _

theorem ask (twins : Twins root site given s d) (room : HasRoom root) (call : StoreCall) :
    Twins root site (given ++ call.content?.toList) (call.ask MemoryStore.store s).state
      (call.ask (FileStore.store root) d).state := by
  rw [StoreCall.state_ask (fun _ _ => rfl), StoreCall.state_ask (fun _ _ => rfl)]
  cases call.content? with
  | none =>
    rw [Option.toList_none, List.append_nil]
    exact twins
  | some content => exact twins.put room content

/-- Both stores answer calls in the same way one after the other, and stay twins. -/
theorem run (twins : Twins root site given s d) (room : HasRoom root) (calls : List StoreCall) :
    (StoreCall.run MemoryStore.store s calls).1.map (Except.mapError Fault.code) =
        (StoreCall.run (FileStore.store root) d calls).1.map (Except.mapError Fault.code) ∧
      Twins root site (given ++ StoreCall.contents calls)
        (StoreCall.run MemoryStore.store s calls).2
        (StoreCall.run (FileStore.store root) d calls).2 := by
  induction calls generalizing given s d with
  | nil => exact ⟨rfl, (List.append_nil given).symm ▸ twins⟩
  | cons call calls ih =>
    obtain ⟨rest, twins'⟩ := ih (twins.ask room call)
    rw [List.append_assoc, ← StoreCall.contents_cons] at twins'
    refine ⟨?_, twins'⟩
    rw [StoreCall.run, StoreCall.run]
    dsimp only
    rw [List.map_cons, List.map_cons, twins.ask_alike room call, rest]

/-- A store on disk keeps what its twin in memory keeps. -/
theorem keeps (twins : Twins root site given s d) (room : HasRoom root)
    (kept : MemoryStore.store.Keeps s given) : (FileStore.store root).Keeps d given where
  read content among := by
    have alike := twins.mirrors.get_alike room twins.isOf (.text (ofBytes content))
    rw [kept.read content among] at alike
    cases got : ((FileStore.store root).get d (.text (ofBytes content))).result with
    | ok b =>
      rw [got] at alike
      cases alike
      rfl
    | error fault =>
      rw [got] at alike
      cases alike
  again content among := twins.mirrors.put_of_some room (twins.stored content among)
  own pointer content got := by
    obtain ⟨digest, spelled, -, same⟩ := FileStore.get_eq_ok_iff.mp got
    exact same.trans (eq_of_digestOfPointer spelled).2

end Twins

/-- The two local stores are one. Whatever they are asked, a fresh store in memory, whether it keeps
blobs or writes them anew, and a store on disk in an empty directory that leaves room for the names
of blobs give the same answers, or fail with faults of one family, and both keep what they were
given, as long as no two of these contents have one digest. -/
theorem local_stores_agree {root : String} {d : Disk}
    (stands : d.look (Path.normal root) = .ok .directory)
    (empty : ∀ name, Path.IsPlain name → ∀ node, d.look (Path.join root name) ≠ .ok node)
    (room : FileStore.HasRoom root) (calls : List StoreCall)
    (distinct : Set.InjOn ofBytes {b | b ∈ StoreCall.contents calls}) :
    (StoreCall.run MemoryStore.store {} calls).1.map (Except.mapError Fault.code) =
        (StoreCall.run (FileStore.store root) d calls).1.map (Except.mapError Fault.code) ∧
      StoreCall.run MemoryStore.overwriting {} calls = StoreCall.run MemoryStore.store {} calls ∧
      MemoryStore.store.Keeps (StoreCall.run MemoryStore.store {} calls).2
        (StoreCall.contents calls) ∧
      (FileStore.store root).Keeps (StoreCall.run (FileStore.store root) d calls).2
        (StoreCall.contents calls) := by
  have isOf : ({} : MemoryStore).IsOf [] := fun e mem => by cases mem
  obtain ⟨site, mirrors⟩ := FileStore.exists_mirrors stands empty room
  obtain ⟨alike, twins⟩ := Twins.run ⟨mirrors, isOf, fun _ mem => by cases mem⟩ room calls
  rw [List.nil_append] at twins
  have kept := twins.isOf.keeps twins.stored distinct
  exact ⟨alike, StoreCall.run_overwriting isOf distinct, kept, twins.keeps room kept⟩

/-- A store in the directory `cas` is asked for a blob before and after it gets one. -/
theorem local_stores_agree_cas :
    let d : Disk := ⟨"", [(["cas"], .directory)]⟩
    let calls : List StoreCall := [.get (.text (ofBytes [104, 105])), .put [104, 105],
      .putDocument (.text "hi"), .getDocument (.text (ofBytes [104, 105])), .get (.text "hi")]
    (StoreCall.run MemoryStore.store {} calls).1.map (Except.mapError Fault.code) =
        (StoreCall.run (FileStore.store "cas") d calls).1.map (Except.mapError Fault.code) ∧
      StoreCall.run MemoryStore.overwriting {} calls = StoreCall.run MemoryStore.store {} calls ∧
      MemoryStore.store.Keeps (StoreCall.run MemoryStore.store {} calls).2
        (StoreCall.contents calls) ∧
      (FileStore.store "cas").Keeps (StoreCall.run (FileStore.store "cas") d calls).2
        (StoreCall.contents calls) := by
  intro d calls
  have plain : Path.IsPlain "cas" := ⟨by decide, by decide, by decide, by decide, by decide⟩
  have stands : d.look (Path.normal "cas") = .ok .directory := by
    rw [plain.normal_eq]
    exact Disk.look_eq_ok_iff.mpr ⟨_, Disk.locate_plain rfl plain, rfl⟩
  refine local_stores_agree stands (fun name plain' node found => ?_) (fun content => ?_) calls ?_
  · obtain ⟨place, located, there⟩ := Disk.look_eq_ok_iff.mp found
    rw [Disk.locate_join rfl plain plain'] at located
    change Except.ok ["cas", name] = _ at located
    cases located
    simp [Disk.entry?, Disk.isGiven, d] at there
  · rw [FileStore.path_eq, plain.join_eq (FileStore.isPlain_nameOf content),
      String.utf8ByteSize_append, String.utf8ByteSize_append,
      Text.utf8ByteSize_of_isAscii (FileStore.isPlain_nameOf content).ascii,
      FileStore.length_nameOf]
    decide
  · have given : StoreCall.contents calls = [[104, 105], Text.utf8 "\"hi\""] := by decide +kernel
    have apart : ofBytes [104, 105] ≠ ofBytes (Text.utf8 "\"hi\"") := by decide +kernel
    rw [given]
    intro b among b' among' same
    rcases List.mem_pair.mp among with rfl | rfl <;> rcases List.mem_pair.mp among' with rfl | rfl
    · rfl
    · exact absurd same apart
    · exact absurd same.symm apart
    · rfl

/-! ## Without room -/

namespace Path

/-- A path to the directory `a` that leads into it and out of it first. -/
def detour : Nat → String
  | 0 => "a"
  | n + 1 => "a" ++ "/" ++ (".." ++ "/" ++ detour n)

theorem isPlain_a : IsPlain "a" := ⟨by decide, by decide, by decide, by decide, by decide⟩

theorem split_detour (n : Nat) :
    split (detour n) = (List.replicate n ["a", ".."]).flatten ++ ["a"] := by
  induction n with
  | zero => exact isPlain_a.split_eq
  | succ n ih =>
    have up : split ".." = [".."] := split_of_slashless (by decide)
    rw [detour, split_append, split_append, ih, isPlain_a.split_eq, up, List.replicate_succ,
      List.flatten_cons]
    rfl

theorem unrooted_detour (n : Nat) (rest : String) : root (detour n ++ rest) = "" := by
  cases n with
  | zero => exact isPlain_a.root_append rest
  | succ n => simp only [detour, String.append_assoc, isPlain_a.root_append]

theorem steps_detour (n : Nat) : steps (detour n) = split (detour n) := by
  rw [steps, split_detour, List.filter_eq_self]
  intro step mem
  rw [List.mem_append, List.mem_flatten, List.mem_singleton] at mem
  rcases mem with ⟨round, among, mem⟩ | rfl
  · rw [List.eq_of_mem_replicate among] at mem
    rcases List.mem_pair.mp mem with rfl | rfl <;> rfl
  · rfl

theorem normal_detour (n : Nat) : normal (detour n) = detour n := by
  have unrooted : root (detour n) = "" := by
    have whole := unrooted_detour n ""
    rwa [String.append_empty] at whole
  have joined : ∀ n, "/".intercalate (split (detour n)) = detour n := by
    intro n
    induction n with
    | zero => rw [detour, isPlain_a.split_eq, String.intercalate_singleton]
    | succ n ih =>
      rw [split_detour] at ih ⊢
      rw [List.replicate_succ, List.flatten_cons, List.append_assoc]
      cases rest : (List.replicate n ["a", ".."]).flatten ++ ["a"] with
      | nil => simp at rest
      | cons step steps =>
        rw [rest] at ih
        change "/".intercalate ("a" :: ".." :: step :: steps) = _
        rw [String.intercalate_cons_cons, String.intercalate_cons_cons, ih, detour]
  rw [normal, unrooted, steps_detour, ofSteps, if_neg, String.empty_append, joined]
  rintro ⟨-, none⟩
  rw [split_detour] at none
  simp at none

/-- The path of what stands in the directory. -/
theorem IsPlain.join_detour {name : String} (plain : IsPlain name) (n : Nat) :
    join (detour n) name = detour n ++ ("/" ++ name) := by
  rw [plain.join_of_steps, normal_detour, String.append_assoc]
  rw [steps_detour, split_detour]
  simp

theorem utf8ByteSize_detour (n : Nat) : (detour n).utf8ByteSize = 5 * n + 1 := by
  induction n with
  | zero => rfl
  | succ n ih =>
    have one : ("a" : String).utf8ByteSize = 1 := rfl
    have slash : ("/" : String).utf8ByteSize = 1 := rfl
    have up : (".." : String).utf8ByteSize = 2 := rfl
    rw [detour]
    simp only [String.utf8ByteSize_append, ih, one, slash, up]
    omega

theorem whole_detour (n : Nat) : '\x00' ∉ (detour n).toList := by
  induction n with
  | zero => decide
  | succ n ih => simp [detour, ih]

end Path

theorem Disk.follow_detour {d : Disk} (stands : d.entry? ["a"] = some .directory) (path : String)
    (n : Nat) (rest : List String) :
    d.follow path [] ((List.replicate n ["a", ".."]).flatten ++ rest) = d.follow path [] rest := by
  induction n with
  | zero => rfl
  | succ n ih =>
    have up : d.follow path ["a"] (".." :: ((List.replicate n ["a", ".."]).flatten ++ rest)) =
        d.follow path [] ((List.replicate n ["a", ".."]).flatten ++ rest) := by
      rw [follow, stands]
      rfl
    rw [List.replicate_succ, List.flatten_cons, List.append_assoc, List.cons_append,
      List.cons_append, List.nil_append, follow_cons Path.isPlain_a (by rfl), List.nil_append, up,
      ih]

/-- A path that leads into a directory and out of it first leads to a place in it. -/
theorem Disk.locate_detour {d : Disk} (here : d.here = "")
    (stands : d.entry? ["a"] = some .directory) {n : Nat} {behind : List String} {tail : String}
    (parts : Path.split (Path.detour n ++ tail) = Path.split (Path.detour n) ++ behind)
    (whole : '\x00' ∉ tail.toList) (short : (Path.detour n ++ tail).utf8ByteSize < pathLimit) :
    d.locate (Path.detour n ++ tail) = d.follow (Path.detour n ++ tail) ["a"] behind := by
  have whole' : (Path.detour n ++ tail).toList.contains '\x00' = false := by
    simpa using ⟨Path.whole_detour n, whole⟩
  rw [locate_of_short whole' (Nat.not_le.mpr short), relative_of_here here, Path.unrooted_detour,
    parts, Path.split_detour, List.append_assoc, if_pos rfl, follow_detour stands,
    List.singleton_append, follow_cons Path.isPlain_a (by rfl), List.nil_append]

namespace FileStore

variable {d : Disk} {n : Nat}

/-- The directory stands and is empty, by whichever way one goes. -/
theorem look_detour (here : d.here = "") (entries : d.entries = [(["a"], .directory)])
    (short : 5 * n + 1 < Disk.pathLimit) :
    d.look (Path.normal (Path.detour n)) = .ok .directory ∧
      ∀ name, Path.IsPlain name → ∀ node, d.look (Path.join (Path.detour n) name) ≠ .ok node := by
  have stands : d.entry? ["a"] = some .directory := by
    rw [ Disk.entry?, entries]
    rfl
  refine ⟨?_, fun name plain node found => ?_⟩
  · have whole : Path.detour n ++ "" = Path.detour n := String.append_empty
    have located : d.locate (Path.detour n ++ "") = d.follow (Path.detour n ++ "") ["a"] [] :=
      Disk.locate_detour here stands (by rw [whole, List.append_nil]) (by decide)
        (by rwa [whole, Path.utf8ByteSize_detour])
    rw [whole] at located
    rw [Path.normal_detour]
    exact Disk.look_eq_ok_iff.mpr ⟨_, located, stands⟩
  · rw [plain.join_detour] at found
    obtain ⟨place, located, there⟩ := Disk.look_eq_ok_iff.mp found
    have fits := Nat.not_le.mp (Disk.whole_of_locate located).2
    have parts : Path.split (Path.detour n ++ ("/" ++ name)) =
        Path.split (Path.detour n) ++ [name] := by
      rw [← String.append_assoc, Path.split_append, plain.split_eq]
    rw [Disk.locate_detour here stands parts (by simpa using plain.whole) fits,
      Disk.follow_cons plain stands] at located
    cases located
    simp [ Disk.entry?, Disk.isGiven, entries] at there

theorem put_detour (long : Disk.pathLimit ≤ 5 * n + 70) (d : Disk) (content : Bytes) :
    ((store (Path.detour n)).put d content).result =
      .error (.disk (.nameTooLong (path (Path.detour n) (ofBytes content)))) := by
  have plain := isPlain_nameOf content
  have size : (path (Path.detour n) (ofBytes content)).utf8ByteSize = 5 * n + 1 + (1 + 68) := by
    rw [path_eq, plain.join_detour, String.utf8ByteSize_append, String.utf8ByteSize_append,
      Path.utf8ByteSize_detour, Text.utf8ByteSize_of_isAscii plain.ascii, length_nameOf]
    rfl
  have whole : (path (Path.detour n) (ofBytes content)).toList.contains '\x00' = false := by
    rw [path_eq, plain.join_detour]
    simpa using ⟨Path.whole_detour n, plain.whole⟩
  have isLong : Disk.IsLong (path (Path.detour n) (ofBytes content)) := ⟨whole, by omega⟩
  have asked : d.exists? (path (Path.detour n) (ofBytes content)) =
      .error (.nameTooLong (path (Path.detour n) (ofBytes content))) := by
    rw [Disk.exists?, Disk.look, isLong.locate_eq]
    rfl
  unfold store FileStore.put
  simp only [asked]

end FileStore

/-- Where a blob's path would be too long, the store on disk fails and the one in memory does not:
the directory `a` stands and is empty, and is called by a path of 4031 bytes. -/
theorem local_stores_differ_detour :
    let d : Disk := ⟨"", [(["a"], .directory)]⟩
    let root := Path.detour 806
    (d.look (Path.normal root) = .ok .directory ∧
      (∀ name, Path.IsPlain name → ∀ node, d.look (Path.join root name) ≠ .ok node) ∧
      Set.InjOn ofBytes {b | b ∈ StoreCall.contents [.put []]}) ∧
    (StoreCall.run MemoryStore.store {} [.put []]).1.map (Except.mapError Fault.code) =
      [.ok (.pointer (ofBytes []))] ∧
    (StoreCall.run (FileStore.store root) d [.put []]).1.map (Except.mapError Fault.code) =
      [.error "OSError"] := by
  obtain ⟨stands, empty⟩ := FileStore.look_detour
    (d := ⟨"", [(["a"], .directory)]⟩) (n := 806) rfl rfl (by decide)
  have failed := FileStore.put_detour (n := 806) (by decide) ⟨"", [(["a"], .directory)]⟩ []
  intro d root
  refine ⟨⟨stands, empty, ?_⟩, rfl, ?_⟩
  · have only : StoreCall.contents [.put []] = [[]] := rfl
    rw [only]
    intro b among b' among' same
    rw [List.mem_singleton.mp among, List.mem_singleton.mp among']
  · rw [StoreCall.run_put, failed]
    rfl

end RuleBound
