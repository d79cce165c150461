import Mathlib.Data.List.Find
import RuleBound.Store.File
import RuleBound.Store.Memory
import RuleBound.Proofs.Digest
import RuleBound.Proofs.Disk
import RuleBound.Proofs.Text.Blank

/-!
Stores that keep what they are given. A store in memory, and a store on disk whose files nobody else
touches, answer a put with the digest of the content, and from then on that pointer gets content of
that digest. What a pointer gets it always gets: nothing that is put later takes its place.

The digest is all that is known of what a pointer gets; that it is the content itself follows only
if no two contents that were put have one digest.
-/

namespace RuleBound

open Sha256 (ofBytes)

/-- Digits are a pointer that spells themselves. -/
theorem digestOfPointer_of_isDigits {digest : String} (digits : Text.IsDigits digest) :
    digestOfPointer (.text digest) = .ok digest := by
  have some : (Document.text digest).isTrue = true := by
    rw [Document.isTrue, Bool.not_eq_true', ← Bool.not_eq_true, String.isEmpty_iff]
    rintro rfl
    exact absurd digits.length (by decide)
  have shown : (Document.text digest).shown = digest := rfl
  have shaped : Text.isDigest digest = true := Text.isDigest_iff.mpr (.inl digits)
  unfold digestOfPointer
  simp only [some, if_true, shown, digits.hex.strip_eq, digits.hex.lower_eq rfl, shaped]

theorem digestOfPointer_ofBytes (content : Bytes) :
    digestOfPointer (.text (ofBytes content)) = .ok (ofBytes content) :=
  digestOfPointer_of_isDigits (Sha256.isDigits_ofBytes content)

/-! ## In memory -/

namespace MemoryStore

/-- Whether every blob stands under its digest. -/
def IsOwn (s : MemoryStore) : Prop := ∀ digest b, s.blob? digest = some b → ofBytes b = digest

theorem isOwn_empty : IsOwn {} := by
  intro digest b found
  cases found

theorem get_eq_ok_iff {s : MemoryStore} {pointer : Document} {b : Bytes} :
    (store.get s pointer).result = .ok b ↔
      ∃ digest, digestOfPointer pointer = .ok digest ∧ s.blob? digest = some b := by
  change (digestOfPointer pointer >>= _) = _ ↔ _
  rw [bind_eq_ok_iff]
  refine exists_congr fun digest => and_congr_right fun _ => ?_
  cases s.blob? digest with
  | none => simp [throw, throwThe, MonadExceptOf.throw]
  | some c => simp [pure, Except.pure]

/-- A blob that is there stays there. -/
theorem blob?_insert_of_some {s : MemoryStore} {digest : String} {b : Bytes}
    (found : s.blob? digest = some b) (content : Bytes) :
    (s.insert content).blob? digest = some b := by
  unfold insert
  extract_lets key
  split
  · exact found
  · obtain ⟨e, first, rfl⟩ := Option.map_eq_some_iff.mp found
    rw [blob?, List.find?_append, first]
    rfl

/-- A blob that was not there is found under its digest, and nothing else is new. -/
theorem blob?_insert {s : MemoryStore} {content b : Bytes} {digest : String}
    (found : (s.insert content).blob? digest = some b) :
    s.blob? digest = some b ∨ digest = ofBytes content ∧ b = content := by
  unfold insert at found
  extract_lets key at found
  split at found
  · exact .inl found
  · obtain ⟨e, first, rfl⟩ := Option.map_eq_some_iff.mp found
    rw [List.find?_append, Option.or_eq_some_iff] at first
    rcases first with first | ⟨-, last⟩
    · exact .inl (by rw [blob?, first]; rfl)
    · have same := List.find?_some last
      have only := List.mem_singleton.mp (List.mem_of_find?_eq_some last)
      rw [only] at same ⊢
      exact .inr ⟨(beq_iff_eq.mp same).symm, rfl⟩

theorem exists_blob_insert (s : MemoryStore) (content : Bytes) :
    ∃ b, (s.insert content).blob? (ofBytes content) = some b := by
  unfold insert
  extract_lets key
  split
  · next there => exact Option.isSome_iff_exists.mp there
  · next missing =>
    refine ⟨content, ?_⟩
    have none : s.blobs.find? (fun e => e.1 == key) = none :=
      Option.map_eq_none_iff.mp (Option.not_isSome_iff_eq_none.mp missing)
    rw [blob?, List.find?_append]
    change ((s.blobs.find? fun e => e.1 == key).or _).map Prod.snd = _
    rw [none]
    simp [key]

/-- A blob that is taken away is gone, and no other one is. -/
theorem blob?_erase (s : MemoryStore) (digest digest' : String) :
    (s.erase digest).blob? digest' = if digest' = digest then none else s.blob? digest' := by
  unfold blob? erase
  rw [List.find?_filter]
  split
  · next same =>
    rw [same, Option.map_eq_none_iff, List.find?_eq_none]
    simp
  · next other =>
    congr 1
    refine List.find?_congr fun e _ => ?_
    by_cases own : e.1 = digest'
    · simp [own, other]
    · simp [own]

theorem IsOwn.insert {s : MemoryStore} (own : s.IsOwn) (content : Bytes) :
    (s.insert content).IsOwn := by
  intro digest b found
  rcases blob?_insert found with found | ⟨rfl, rfl⟩
  · exact own digest b found
  · rfl

end MemoryStore

/-! ## On disk -/

theorem Disk.read_eq_ok_iff {d : Disk} {path : String} {content : Bytes} :
    d.read path = .ok content ↔ d.look path = .ok (.file content) := by
  unfold Disk.read
  rw [bind_eq_ok_iff]
  constructor
  · rintro ⟨node, found, is⟩
    cases node with
    | file c =>
      cases is
      exact found
    | directory => cases is
  · intro found
    exact ⟨_, found, rfl⟩

namespace FileStore

variable {root : String} {d : Disk}

/-- The name of the file of a blob. -/
def nameOf (digest : String) : String := digest ++ ending

theorem read_eq_ok_iff {pointer : Document} {content : Bytes} :
    read root d pointer = .ok content ↔ ∃ digest, digestOfPointer pointer = .ok digest ∧
      d.look (path root digest) = .ok (.file content) ∧ ofBytes content = digest := by
  unfold read
  rw [bind_eq_ok_iff]
  refine exists_congr fun digest => and_congr_right fun _ => ?_
  rw [← Disk.read_eq_ok_iff]
  dsimp only
  cases d.read (path root digest) with
  | error fault => cases fault <;> simp [throw, throwThe, MonadExceptOf.throw]
  | ok c =>
    dsimp only
    split
    · next same =>
      constructor
      · intro is
        cases is
        exact ⟨rfl, same⟩
      · rintro ⟨is, -⟩
        cases is
        rfl
    · next other =>
      simp only [throw, throwThe, MonadExceptOf.throw, reduceCtorEq, Except.ok.injEq, false_iff,
        not_and]
      rintro rfl
      exact other

theorem get_eq_ok_iff {pointer : Document} {content : Bytes} :
    ((store root).get d pointer).result = .ok content ↔
      ∃ digest, digestOfPointer pointer = .ok digest ∧
        d.look (path root digest) = .ok (.file content) ∧ ofBytes content = digest :=
  read_eq_ok_iff

/-! ### Names and places -/

theorem slashless_nameOf (content : Bytes) : '/' ∉ (nameOf (ofBytes content)).toList := by
  intro mem
  rw [nameOf, String.toList_append, List.mem_append] at mem
  rcases mem with mem | mem
  · exact absurd (Sha256.isHex_ofBytes content _ mem) (by decide)
  · exact absurd mem (by decide)

theorem length_nameOf (content : Bytes) : (nameOf (ofBytes content)).toList.length = 68 := by
  rw [nameOf, String.toList_append, List.length_append, Sha256.length_ofBytes]
  rfl

/-- The name of a blob is a step of its own. -/
theorem nameOf_ne (content : Bytes) {s : String} (short : s.toList.length < 68) :
    nameOf (ofBytes content) ≠ s := by
  intro same
  have length := length_nameOf content
  rw [same] at length
  omega

theorem ofBytes_eq_of_nameOf_eq {a b : Bytes} (same : nameOf (ofBytes a) = nameOf (ofBytes b)) :
    ofBytes a = ofBytes b := by
  rw [nameOf, nameOf, ← String.toList_inj, String.toList_append, String.toList_append] at same
  exact String.toList_inj.mp (List.append_cancel_right same)

/-- The path of a blob ends in its name. -/
theorem split_path (root : String) (content : Bytes) :
    ∃ before, Path.split (path root (ofBytes content)) = before ++ [nameOf (ofBytes content)] := by
  have slashless := slashless_nameOf content
  have unrooted : Path.root (nameOf (ofBytes content)) = "" := by
    unfold Path.root
    cases cs : (nameOf (ofBytes content)).toList with
    | nil => rfl
    | cons c rest =>
      have other : c ≠ '/' := fun same => slashless (cs ▸ same ▸ List.mem_cons_self)
      rw [List.takeWhile_cons_of_neg (by simpa using other)]
      rfl
  have step : Path.steps (nameOf (ofBytes content)) = [nameOf (ofBytes content)] := by
    have named := nameOf_ne content (s := "") (by decide)
    have other := nameOf_ne content (s := ".") (by decide)
    simp [Path.steps, Path.split_of_slashless slashless, named, other]
  have slashless' : ∀ s ∈ Path.steps root ++ [nameOf (ofBytes content)], '/' ∉ s.toList := by
    intro s mem
    rcases List.mem_append.mp mem with mem | mem
    · exact Path.slashless_of_mem_steps mem
    · exact List.mem_singleton.mp mem ▸ slashless
  obtain ⟨count, split⟩ := Path.split_ofSteps root (by simp) slashless'
  refine ⟨List.replicate count "" ++ Path.steps root, ?_⟩
  change Path.split (Path.join root (nameOf (ofBytes content))) = _
  rw [Path.join, if_pos unrooted, step, split, List.append_assoc]

/-- The place of a blob. -/
def placeOf (root : String) (d : Disk) (content : Bytes) : List String :=
  d.placeOf (path root (ofBytes content))

theorem placeOf_eq_concat (root : String) (d : Disk) (content : Bytes) :
    (∃ place, placeOf root d content = place ++ [nameOf (ofBytes content)]) ∨
      placeOf root d content = [] := by
  obtain ⟨before, split⟩ := split_path root content
  exact d.placeOf_eq_concat split ⟨nameOf_ne content (by decide), nameOf_ne content (by decide),
    nameOf_ne content (by decide)⟩

/-- Whether no step to a directory has the name of a blob. -/
def IsClear (root : String) : Prop :=
  ∀ step ∈ Path.steps root, ∀ content, step ≠ nameOf (ofBytes content)

/-- No directory that leads to a store stands where a blob can stand. -/
theorem IsClear.placeOf_ne (clear : IsClear root) {content : Bytes}
    (real : placeOf root d content ≠ []) {way : String} (leads : way ∈ Path.ways root) :
    d.placeOf way ≠ placeOf root d content := by
  intro same
  obtain ⟨place, is⟩ := (placeOf_eq_concat root d content).resolve_right real
  have mem : nameOf (ofBytes content) ∈ d.placeOf way := by
    rw [same, is]
    simp
  have within : nameOf (ofBytes content) ∈ Path.split way := by
    rcases Disk.mem_of_mem_placeOf mem with same | same | same | within
    · exact absurd same (nameOf_ne content (by decide))
    · exact absurd same (nameOf_ne content (by decide))
    · exact absurd same (nameOf_ne content (by decide))
    · exact within
  unfold Path.ways at leads
  obtain ⟨n, small, rfl⟩ := List.mem_map.mp leads
  have some : (Path.steps root).take ((Path.steps root).length - n) ≠ [] := by
    have least := List.mem_range.mp small
    intro none
    have length := congrArg List.length none
    rw [List.length_take, List.length_nil] at length
    omega
  obtain ⟨count, split⟩ := Path.split_ofSteps root some fun s mem =>
    Path.slashless_of_mem_steps (List.take_subset _ _ mem)
  rw [split, List.mem_append] at within
  rcases within with blank | step
  · exact absurd (List.eq_of_mem_replicate blank) (nameOf_ne content (by decide))
  · exact clear _ (List.take_subset _ _ step) content rfl

/-! ### Files of the store -/

/-- Whether what stands at the places of blobs was put there by the store: a file with the digest of
the blob, to which the path of the blob leads. -/
def IsOwn (root : String) (d : Disk) : Prop :=
  ∀ content node, d.entry? (placeOf root d content) = some node →
    (∃ b, node = .file b ∧ ofBytes b = ofBytes content) ∧
      d.look (path root (ofBytes content)) = .ok node

theorem IsOwn.placeOf_ne_nil (own : IsOwn root d) (content : Bytes) :
    placeOf root d content ≠ [] := by
  intro none
  obtain ⟨⟨b, is, -⟩, -⟩ := own content .directory (by rw [none]; rfl)
  cases is

/-- Places of blobs are told apart by their digests. -/
theorem IsOwn.ofBytes_eq (own : IsOwn root d) {a b : Bytes}
    (same : placeOf root d a = placeOf root d b) : ofBytes a = ofBytes b := by
  obtain ⟨place, is⟩ := (placeOf_eq_concat root d a).resolve_right (own.placeOf_ne_nil a)
  obtain ⟨place', is'⟩ := (placeOf_eq_concat root d b).resolve_right (own.placeOf_ne_nil b)
  rw [is, is'] at same
  have last := (List.append_inj' same (by rw [List.length_singleton, List.length_singleton])).2
  exact ofBytes_eq_of_nameOf_eq (List.singleton_inj.mp last)

theorem IsOwn.grows {isNew : List String → DiskNode → Prop} {d' : Disk} (own : IsOwn root d)
    (grows : Disk.Grows isNew d d')
    (new : ∀ content node, isNew (placeOf root d content) node →
      (∃ b, node = .file b ∧ ofBytes b = ofBytes content) ∧
        d'.look (path root (ofBytes content)) = .ok node) : IsOwn root d' := by
  intro content node there
  have same : placeOf root d' content = placeOf root d content := grows.placeOf_eq _
  rw [same] at there
  rcases grows.fresh _ _ there with old | fresh
  · obtain ⟨is, found⟩ := own content node old
    exact ⟨is, grows.look found⟩
  · exact new content node fresh

theorem IsOwn.makeDirectory (own : IsOwn root d) (clear : IsClear root) :
    IsOwn root (d.makeDirectory root).1 := by
  refine own.grows (d.grows_makeDirectory root) ?_
  rintro content node ⟨-, way, leads, same⟩
  exact absurd same.symm (clear.placeOf_ne (own.placeOf_ne_nil content) leads)

/-- What stands at the place of a blob that cannot be found is nothing. -/
theorem IsOwn.entry_eq_none (own : IsOwn root d) {content : Bytes}
    (missing : ∀ node, d.look (path root (ofBytes content)) ≠ .ok node) :
    d.entry? (placeOf root d content) = none := by
  cases there : d.entry? (placeOf root d content) with
  | none => rfl
  | some node => exact absurd (own content node there).2 (missing node)

theorem look_ne_ok_of_exists? {path : String} (missing : d.exists? path = .ok false)
    (node : DiskNode) : d.look path ≠ .ok node := by
  intro found
  unfold Disk.exists? at missing
  rw [found] at missing
  cases missing

/-- Whether something new is a directory or a file with some content. -/
def IsPut (content : Bytes) (_ : List String) (node : DiskNode) : Prop :=
  node = .directory ∨ node = .file content

/-- What a put leaves of a disk, and what it answers. -/
structure PutLeaves (root : String) (d : Disk) (content : Bytes) (r : Reply Disk String) : Prop where
  own : IsOwn root r.state
  grows : Disk.Grows (IsPut content) d r.state
  stored : ∀ pointer, r.result = .ok pointer → pointer = ofBytes content ∧
    ∃ b, r.state.look (path root (ofBytes content)) = .ok (.file b) ∧ ofBytes b = ofBytes content

theorem putLeaves_write (own : IsOwn root d) (clear : IsClear root) {content : Bytes}
    (missing : d.exists? (path root (ofBytes content)) = .ok false) :
    PutLeaves root d content (write root (ofBytes content) d content) := by
  have grows := d.grows_makeDirectory root
  have own' := own.makeDirectory clear
  have gone : d.entry? (placeOf root d content) = none :=
    own.entry_eq_none (look_ne_ok_of_exists? missing)
  have real := own.placeOf_ne_nil content
  unfold write
  extract_lets target fail
  split
  · next d₁ fault made =>
    rw [made] at grows own'
    exact ⟨own', grows.mono fun _ _ new => .inl new.1, fun pointer answer => by cases answer⟩
  · next d₁ made =>
    rw [made] at grows own'
    have gone' : d₁.entry? (placeOf root d content) = none := by
      cases there : d₁.entry? (placeOf root d content) with
      | none => rfl
      | some node =>
        rcases grows.fresh _ _ there with old | ⟨-, way, leads, same⟩
        · rw [gone] at old
          cases old
        · exact absurd same.symm (clear.placeOf_ne real leads)
    split
    · exact ⟨own', grows.mono fun _ _ new => .inl new.1, fun pointer answer => by cases answer⟩
    · next d₂ written =>
      obtain ⟨place, located, -, rfl⟩ := Disk.exists_of_write written
      have here : place = placeOf root d content :=
        (Disk.eq_placeOf_of_locate located).trans (grows.placeOf_eq _)
      have put : Disk.Grows (fun p node => p = place ∧ node = .file content) d₁
          (d₁.put place (.file content)) := .put (here ▸ gone') ⟨rfl, rfl⟩
      have found : (d₁.put place (.file content)).look target = .ok (.file content) := by
        refine Disk.look_eq_ok_iff.mpr ⟨place, put.locate located, ?_⟩
        have unmade : Disk.isGiven place = false := by
          rw [← Bool.not_eq_true]
          intro given
          rw [here] at given
          rw [ Disk.entry?, if_pos given] at gone
          cases gone
        rw [Disk.entry_put, unmade]
        simp only [Bool.false_eq_true, if_false, if_true]
      refine ⟨own'.grows put ?_, (grows.mono fun _ _ new => .inl new.1).trans
        (put.mono fun _ _ new => .inr new.2), fun pointer answer => ?_⟩
      · rintro other node ⟨same, rfl⟩
        have digest : ofBytes other = ofBytes content := by
          refine own'.ofBytes_eq (same.trans (here.trans ?_))
          exact (grows.placeOf_eq _).symm
        refine ⟨⟨content, rfl, digest.symm⟩, ?_⟩
        rw [digest]
        exact found
      · cases answer
        exact ⟨rfl, content, found, rfl⟩

/-- A put leaves the files of the store its own, takes nothing away, and if it answers, the blob can
be found. -/
theorem putLeaves (own : IsOwn root d) (clear : IsClear root) (content : Bytes) :
    PutLeaves root d content (put root d content) := by
  unfold put
  extract_lets digest
  split
  · exact ⟨own, .refl d, fun pointer answer => by cases answer⟩
  · next there =>
    refine ⟨own, .refl d, fun pointer answer => ?_⟩
    cases answer
    refine ⟨rfl, ?_⟩
    cases found : d.look (path root digest) with
    | error fault =>
      unfold Disk.exists? at there
      rw [found] at there
      cases fault <;> cases there
    | ok node =>
      obtain ⟨place, located, standing⟩ := Disk.look_eq_ok_iff.mp found
      rw [Disk.eq_placeOf_of_locate located] at standing
      obtain ⟨⟨b, rfl, same⟩, -⟩ := own content node standing
      exact ⟨b, rfl, same⟩
  · next missing => exact putLeaves_write own clear missing

/-- What can be read after a put could be read before it, or is what was put. -/
theorem PutLeaves.get_cases {content b : Bytes} {r : Reply Disk String} {pointer : Document}
    (own : IsOwn root d) (leaves : PutLeaves root d content r)
    (got : ((store root).get r.state pointer).result = .ok b) :
    b = content ∨ ((store root).get d pointer).result = .ok b := by
  obtain ⟨digest, spelled, found, rfl⟩ := get_eq_ok_iff.mp got
  obtain ⟨place, located, there⟩ := Disk.look_eq_ok_iff.mp found
  have here : place = placeOf root d b :=
    (Disk.eq_placeOf_of_locate located).trans (leaves.grows.placeOf_eq _)
  rcases leaves.grows.fresh _ _ there with old | directory | same
  · rw [here] at old
    exact .inr (get_eq_ok_iff.mpr ⟨_, spelled, (own b _ old).2, rfl⟩)
  · cases directory
  · cases same
    exact .inl rfl

end FileStore

/-! ## What both have in common -/

/-- The stores that keep what they are given, and the states in which they do: the store in memory,
if its blobs stand under their digests, and a store on disk, if the files at the places of its blobs
are its own. -/
inductive Keeping : {σ : Type} → ContentStore σ → (σ → Prop) → Prop
  | memory : Keeping MemoryStore.store MemoryStore.IsOwn
  | file {root : String} (clear : FileStore.IsClear root) :
    Keeping (FileStore.store root) (FileStore.IsOwn root)

namespace Keeping

variable {σ : Type} {store : ContentStore σ} {own : σ → Prop} {s : σ}

/-- Asking for content leaves the store. -/
theorem state_get (keeping : Keeping store own) (s : σ) (pointer : Document) :
    (store.get s pointer).state = s := by
  cases keeping with
  | memory => rfl
  | file => rfl

theorem put (keeping : Keeping store own) (kept : own s) (content : Bytes) :
    own (store.put s content).state := by
  cases keeping with
  | memory => exact MemoryStore.IsOwn.insert kept content
  | file clear => exact (FileStore.putLeaves kept clear content).own

/-- What a pointer gets it still gets after a put. -/
theorem get_put (keeping : Keeping store own) (kept : own s) {pointer : Document} {b : Bytes}
    (got : (store.get s pointer).result = .ok b) (content : Bytes) :
    (store.get (store.put s content).state pointer).result = .ok b := by
  cases keeping with
  | memory =>
    obtain ⟨digest, spelled, found⟩ := MemoryStore.get_eq_ok_iff.mp got
    exact MemoryStore.get_eq_ok_iff.mpr
      ⟨digest, spelled, MemoryStore.blob?_insert_of_some found content⟩
  | file clear =>
    obtain ⟨digest, spelled, found, same⟩ := FileStore.get_eq_ok_iff.mp got
    exact FileStore.get_eq_ok_iff.mpr
      ⟨digest, spelled, (FileStore.putLeaves kept clear content).grows.look found, same⟩

/-- What a pointer gets after a put it got before, or it is what was put. -/
theorem get_of_put (keeping : Keeping store own) (kept : own s) {content b : Bytes}
    {pointer : Document} (got : (store.get (store.put s content).state pointer).result = .ok b) :
    b = content ∨ (store.get s pointer).result = .ok b := by
  cases keeping with
  | memory =>
    obtain ⟨digest, spelled, found⟩ := MemoryStore.get_eq_ok_iff.mp got
    rcases MemoryStore.blob?_insert found with found | ⟨-, same⟩
    · exact .inr (MemoryStore.get_eq_ok_iff.mpr ⟨digest, spelled, found⟩)
    · exact .inl same
  | file clear => exact (FileStore.putLeaves kept clear content).get_cases kept got

/-- A put that answers answers with the digest, and the digest gets content that has it. -/
theorem stored (keeping : Keeping store own) (kept : own s) {content : Bytes} {pointer : String}
    (answer : (store.put s content).result = .ok pointer) :
    pointer = ofBytes content ∧ ∃ b, ofBytes b = ofBytes content ∧
      (store.get (store.put s content).state (.text pointer)).result = .ok b := by
  cases keeping with
  | memory =>
    cases answer
    obtain ⟨b, found⟩ := MemoryStore.exists_blob_insert s content
    refine ⟨rfl, b, MemoryStore.IsOwn.insert kept content _ b found, ?_⟩
    exact MemoryStore.get_eq_ok_iff.mpr ⟨_, digestOfPointer_ofBytes content, found⟩
  | file clear =>
    obtain ⟨rfl, b, found, same⟩ := (FileStore.putLeaves kept clear content).stored pointer answer
    exact ⟨rfl, b, same, FileStore.get_eq_ok_iff.mpr
      ⟨_, digestOfPointer_ofBytes content, found, same⟩⟩

end Keeping

end RuleBound
