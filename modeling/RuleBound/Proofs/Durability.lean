import RuleBound.Proofs.Directory

/-!
Puts that last. What a store on disk has written is read back, whatever else is in the tree. What it
finds to be there already it takes for the blob without a look, and then the blob can be read exactly
if it is the blob.
-/

namespace RuleBound

open Sha256 (ofBytes)

namespace Disk

variable {d d' : Disk} {path : String} {content : Bytes}

/-- The path of a file that was written leads to it. -/
theorem exists_locate_of_write (written : d.write path content = .ok d') :
    ∃ place, d'.locate path = .ok place ∧ d.entry? place ≠ some .directory ∧
      d' = d.put place (.file content) := by
  obtain ⟨place, located, free, rfl⟩ := exists_of_write written
  refine ⟨place, ?_, free, rfl⟩
  -- no directory gives way to the file, so the path still leads to its place
  have stand : ∀ site, d.entry? site = some .directory →
      Disk.entry? (d.put place (.file content)) site = some .directory := by
    intro site stands
    rw [entry_put_of_ne, stands]
    rintro rfl
    exact free stands
  have here : (d.put place (.file content)).here = d.here := rfl
  exact locate_of_directories here stand located

/-- A file that was written is read back. -/
theorem read_of_write (written : d.write path content = .ok d') : d'.read path = .ok content := by
  obtain ⟨place, located, free, rfl⟩ := exists_locate_of_write written
  have ungiven : isGiven place = false := by
    rw [← Bool.not_eq_true]
    intro given
    refine free ?_
    rw [ entry?, if_pos given]
  have there : Disk.entry? (d.put place (.file content)) place = some (.file content) := by
    rw [entry_put, ungiven, if_neg Bool.false_ne_true, if_pos rfl]
  exact read_eq_ok_iff.mpr (look_eq_ok_iff.mpr ⟨place, located, there⟩)

theorem exists?_eq_true_iff : d.exists? path = .ok true ↔ ∃ node, d.look path = .ok node := by
  unfold exists?
  cases d.look path with
  | ok node => simp
  | error fault => cases fault <;> simp

end Disk

namespace FileStore

variable {root : String} {d : Disk} {content : Bytes}

/-! ## What a put comes to -/

/-- What a put of a blob comes to, by how far it gets. -/
inductive Puts (root : String) (d : Disk) (content : Bytes) : Reply Disk String → Prop
  | unasked {fault : DiskFault} (asked : d.exists? (path root (ofBytes content)) = .error fault) :
    Puts root d content ⟨.error (.disk fault), d, []⟩
  | taken (asked : d.exists? (path root (ofBytes content)) = .ok true) :
    Puts root d content ⟨.ok (ofBytes content), d, []⟩
  | unmade {d₁ : Disk} {fault : DiskFault}
    (asked : d.exists? (path root (ofBytes content)) = .ok false)
    (made : d.makeDirectory root = (d₁, .error fault)) :
    Puts root d content
      ⟨.error (unwritable (path root (ofBytes content)) (ofBytes content) fault), d₁, []⟩
  | unwritten {d₁ : Disk} {fault : DiskFault}
    (asked : d.exists? (path root (ofBytes content)) = .ok false)
    (made : d.makeDirectory root = (d₁, .ok ()))
    (written : d₁.write (path root (ofBytes content)) content = .error fault) :
    Puts root d content
      ⟨.error (unwritable (path root (ofBytes content)) (ofBytes content) fault), d₁, []⟩
  | written {d₁ d₂ : Disk} (asked : d.exists? (path root (ofBytes content)) = .ok false)
    (made : d.makeDirectory root = (d₁, .ok ()))
    (written : d₁.write (path root (ofBytes content)) content = .ok d₂) :
    Puts root d content ⟨.ok (ofBytes content), d₂, [storedNote (ofBytes content) content.length]⟩

theorem puts (root : String) (d : Disk) (content : Bytes) :
    Puts root d content ((store root).put d content) := by
  unfold store put
  dsimp only
  split
  · next asked => exact .unasked asked
  · next asked => exact .taken asked
  · next asked =>
    unfold write
    dsimp only
    split
    · next made => exact .unmade asked made
    · next made =>
      split
      · next written => exact .unwritten asked made written
      · next written => exact .written asked made written

/-! ## What is read after it -/

theorem get_ofBytes_eq_ok_iff : ((store root).get d (.text (ofBytes content))).result = .ok content ↔
    d.read (path root (ofBytes content)) = .ok content := by
  rw [get_eq_ok_iff, Disk.read_eq_ok_iff]
  constructor
  · rintro ⟨digest, spelled, found, -⟩
    cases (digestOfPointer_ofBytes content).symm.trans spelled
    exact found
  · intro found
    exact ⟨_, digestOfPointer_ofBytes content, found, rfl⟩

/-- What is read is compared with the pointer, so other content is noticed. -/
theorem get_eq_altered {b : Bytes} (found : d.look (path root (ofBytes content)) = .ok (.file b))
    (other : ofBytes b ≠ ofBytes content) :
    ((store root).get d (.text (ofBytes content))).result =
      .error (.storage (.altered (ofBytes content)) (.text (ofBytes content))) := by
  change read root d (.text (ofBytes content)) = _
  unfold read
  rw [digestOfPointer_ofBytes, ok_bind]
  simp only [Disk.read_eq_ok_iff.mpr found, if_neg other]
  rfl

/-- A put that answers, in whatever tree, answers with the digest of the blob, and the blob is read
from then on exactly if it was there or nothing was there in its place. -/
theorem get_put_iff {pointer : String} (answered : ((store root).put d content).result = .ok pointer) :
    pointer = ofBytes content ∧
      (((store root).get ((store root).put d content).state (.text pointer)).result = .ok content ↔
        (d.exists? (path root pointer) = .ok true → d.read (path root pointer) = .ok content)) := by
  have puts := puts root d content
  generalize (store root).put d content = reply at puts answered ⊢
  cases puts with
  | unasked asked => cases answered
  | unmade asked made => cases answered
  | unwritten asked made written => cases answered
  | taken asked =>
    cases answered
    refine ⟨rfl, get_ofBytes_eq_ok_iff.trans ?_⟩
    simp only [asked, forall_const]
  | written asked made written =>
    cases answered
    refine ⟨rfl, iff_of_true (get_ofBytes_eq_ok_iff.mpr (Disk.read_of_write written)) ?_⟩
    intro there
    rw [asked] at there
    cases there

/-! ## A spoiled blob -/

/-- A store in the directory `cas` in which the file of the letter a holds the letter b. -/
def spoiled : Disk where
  entries := [(["cas"], .directory), (["cas", nameOf (ofBytes [97])], .file [98])]

theorem isPlain_cas : Path.IsPlain "cas" := ⟨by decide, by decide, by decide, by decide, by decide⟩

theorem locate_spoiled (content : Bytes) : spoiled.locate (path "cas" (ofBytes content)) =
    .ok ["cas", nameOf (ofBytes content)] := by
  have stands : spoiled.entry? ["cas"] = some .directory := rfl
  rw [path_eq, Disk.locate_join rfl isPlain_cas (isPlain_nameOf content), stands]

theorem entry_spoiled (content : Bytes) : spoiled.entry? ["cas", nameOf (ofBytes content)] =
    if ofBytes content = ofBytes [97] then some (.file [98]) else none := by
  split_ifs with same
  · rw [same]
    simp [spoiled, Disk.entry?, Disk.isGiven]
  · have other : nameOf (ofBytes [97]) ≠ nameOf (ofBytes content) := fun alike =>
      same (ofBytes_eq_of_nameOf_eq alike).symm
    simp [spoiled, Disk.entry?, Disk.isGiven, other]

theorem look_spoiled : spoiled.look (path "cas" (ofBytes [97])) = .ok (.file [98]) := by
  have there := entry_spoiled [97]
  rw [if_pos rfl] at there
  exact Disk.look_eq_ok_iff.mpr ⟨_, locate_spoiled [97], there⟩

theorem ofBytes_b_ne_a : ofBytes [98] ≠ ofBytes [97] := by decide +kernel

theorem get_spoiled : ((store "cas").get spoiled (.text (ofBytes [97]))).result =
    .error (.storage (.altered (ofBytes [97])) (.text (ofBytes [97]))) :=
  get_eq_altered look_spoiled ofBytes_b_ne_a

/-- The letter b is put under its own name, and read. -/
theorem get_put_spoiled :
    let reply := (store "cas").put spoiled [98]
    reply.result = .ok (ofBytes [98]) ∧
      ((store "cas").get reply.state (.text (ofBytes [98]))).result = .ok [98] := by
  have gone := entry_spoiled [98]
  rw [if_neg ofBytes_b_ne_a] at gone
  have asked : spoiled.exists? (path "cas" (ofBytes [98])) = .ok false := by
    rw [Disk.exists?, Disk.look, locate_spoiled, ok_bind, gone]
    rfl
  have made : spoiled.makeDirectory "cas" = (spoiled, .ok ()) := by
    refine Disk.makeDirectory_of_look ?_
    rw [isPlain_cas.normal_eq]
    exact Disk.look_eq_ok_iff.mpr ⟨_, Disk.locate_plain rfl isPlain_cas, rfl⟩
  have written : spoiled.write (path "cas" (ofBytes [98])) [98] =
      .ok (spoiled.put ["cas", nameOf (ofBytes [98])] (.file [98])) := by
    rw [Disk.write, locate_spoiled, ok_bind, gone]
    rfl
  have answered : ((store "cas").put spoiled [98]).result = .ok (ofBytes [98]) := by
    unfold store put
    simp only [asked, write, made, written]
  refine ⟨answered, (get_put_iff answered).2.mpr fun there => ?_⟩
  rw [asked] at there
  cases there

/-- The letter a is reported to be put, and what is read is refused. -/
theorem not_get_put_spoiled :
    let reply := (store "cas").put spoiled [97]
    reply.result = .ok (ofBytes [97]) ∧
      ((store "cas").get reply.state (.text (ofBytes [97]))).result =
        .error (.storage (.altered (ofBytes [97])) (.text (ofBytes [97]))) := by
  have asked : spoiled.exists? (path "cas" (ofBytes [97])) = .ok true :=
    Disk.exists?_eq_true_iff.mpr ⟨_, look_spoiled⟩
  have kept : (store "cas").put spoiled [97] = ⟨.ok (ofBytes [97]), spoiled, []⟩ := by
    unfold store put
    simp only [asked]
  rw [kept]
  exact ⟨rfl, get_spoiled⟩

end FileStore

end RuleBound
