import RuleBound.Proofs.Store
import RuleBound.Proofs.Text.Utf8

/-!
A store on disk that answers. Below a directory with a plain name, a store takes whatever it is
given, as long as nothing but a directory stands where the directory has to be and the files at the
places of blobs are its own.
-/

namespace RuleBound

open Sha256 (ofBytes)

/-- An ASCII text has as many bytes as characters. -/
theorem Text.utf8ByteSize_of_isAscii {s : String} (ascii : Text.isAscii s = true) :
    s.utf8ByteSize = s.toList.length := by
  have size : s.utf8ByteSize = (Text.utf8 s).length := by
    simp [Text.utf8]
  have one : ∀ cs : List Char, (∀ c ∈ cs, c.toNat < 128) →
      (cs.flatMap String.utf8EncodeChar).length = cs.length := by
    intro cs small
    induction cs with
    | nil => rfl
    | cons c cs ih =>
      rw [List.forall_mem_cons] at small
      have width : c.utf8Size = 1 :=
        Char.utf8Size_eq_one_iff.mpr (UInt32.le_iff_toNat_le.mpr (Nat.le_of_lt_succ small.1))
      rw [List.flatMap_cons, List.length_append, String.length_utf8EncodeChar, width, ih small.2,
        List.length_cons, Nat.add_comm]
  rw [size, Text.utf8_eq_flatMap]
  refine one _ ?_
  simpa [Text.isAscii] using ascii

/-! ## Plain names -/

namespace Path

/-- Whether a name is plain: a step down, in ASCII and not too long. -/
structure IsPlain (name : String) : Prop where
  slashless : '/' ∉ name.toList
  real : name ≠ "" ∧ name ≠ "." ∧ name ≠ ".."
  ascii : Text.isAscii name = true
  whole : '\x00' ∉ name.toList
  short : name.toList.length ≤ Disk.nameLimit

namespace IsPlain

variable {name child : String}

theorem split_eq (plain : IsPlain name) : split name = [name] :=
  split_of_slashless plain.slashless

theorem steps_eq (plain : IsPlain name) : steps name = [name] := by
  obtain ⟨named, other, -⟩ := plain.real
  simp [steps, plain.split_eq, named, other]

/-- A path that begins with a plain name has no root. -/
theorem root_append (plain : IsPlain name) (rest : String) : root (name ++ rest) = "" := by
  unfold root
  rw [String.toList_append]
  cases cs : name.toList with
  | nil => exact absurd (String.toList_eq_nil_iff.mp cs) plain.real.1
  | cons c cs' =>
    have other : c ≠ '/' := fun same => plain.slashless (cs ▸ same ▸ List.mem_cons_self)
    rw [List.cons_append, List.takeWhile_cons_of_neg (by simpa using other)]
    rfl

theorem root_eq (plain : IsPlain name) : root name = "" := by
  have whole := plain.root_append ""
  rwa [String.append_empty] at whole

theorem ways_eq (plain : IsPlain name) : ways name = [name] := by
  unfold ways
  rw [plain.steps_eq, plain.root_eq]
  simp [ofSteps]

/-- A plain name below a directory is one more step behind those to the directory. -/
theorem join_eq_ofSteps (plain : IsPlain name) (parent : String) :
    join parent name = ofSteps (root parent) (steps parent ++ [name]) := by
  rw [join, if_pos plain.root_eq, plain.steps_eq]

theorem join_eq (plain : IsPlain name) (plain' : IsPlain child) :
    join name child = name ++ "/" ++ child := by
  rw [plain'.join_eq_ofSteps, plain.steps_eq, plain.root_eq]
  simp [ofSteps]

theorem normal_eq (plain : IsPlain name) : normal name = name := by
  rw [normal, plain.root_eq, plain.steps_eq]
  simp [ofSteps]

end IsPlain

theorem steps_here : steps "." = [] := by
  rw [steps, split_of_slashless (by decide)]
  rfl

theorem normal_here : normal "." = "." := by
  rw [normal, steps_here]
  rfl

theorem ways_here : ways "." = [] := by
  rw [ways, steps_here]
  rfl

/-- A plain name within the current directory is that name. -/
theorem IsPlain.join_here {name : String} (plain : IsPlain name) : join "." name = name := by
  have here : root "." = "" := by rfl
  rw [plain.join_eq_ofSteps, here, steps_here]
  simp [ofSteps]

end Path

namespace Disk

open RuleBound.Path (IsPlain)

variable {d : Disk} {name child : String}

theorem follow_cons {path : String} {place rest : List String} (plain : IsPlain name)
    (stands : d.entry? place = some .directory) :
    d.follow path place (name :: rest) = d.follow path (place ++ [name]) rest := by
  obtain ⟨named, other, up⟩ := plain.real
  have fits : ¬ nameLimit < name.utf8ByteSize := by
    rw [Text.utf8ByteSize_of_isAscii plain.ascii, Nat.not_lt]
    exact plain.short
  rw [follow, stands]
  simp only [named, other, up, fits, or_self, if_false]

theorem relative_of_here (here : d.here = "") (path : String) : d.relative path = path := by
  rw [relative, if_neg]
  exact fun within => within.1 here

/-- A plain name leads to a place of that name. -/
theorem locate_plain (here : d.here = "") (plain : IsPlain name) : d.locate name = .ok [name] := by
  have fits : ¬ pathLimit ≤ name.utf8ByteSize := by
    rw [Text.utf8ByteSize_of_isAscii plain.ascii, Nat.not_le]
    exact Nat.lt_of_le_of_lt plain.short (by decide)
  unfold locate
  rw [if_neg (by simpa using plain.whole), if_neg fits, relative_of_here here]
  dsimp only
  rw [if_pos plain.root_eq, plain.split_eq, follow_cons plain (by rfl)]
  rfl

/-- What stands below a directory that is not there is not found. -/
theorem locate_join (here : d.here = "") (plain : IsPlain name) (plain' : IsPlain child) :
    d.locate (Path.join name child) = match d.entry? [name] with
      | some .directory => .ok [name, child]
      | some (.file _) => .error (.notDirectory (Path.join name child))
      | none => .error (.absent (Path.join name child)) := by
  have short := plain.short
  have short' := plain'.short
  have split : Path.split (Path.join name child) = [name, child] := by
    rw [plain.join_eq plain', Path.split_append, plain.split_eq, plain'.split_eq]
    rfl
  have fits : ¬ pathLimit ≤ (Path.join name child).utf8ByteSize := by
    rw [plain.join_eq plain', String.utf8ByteSize_append, String.utf8ByteSize_append,
      Text.utf8ByteSize_of_isAscii plain.ascii, Text.utf8ByteSize_of_isAscii plain'.ascii]
    change ¬ 4096 ≤ name.toList.length + 1 + child.toList.length
    have : nameLimit = 255 := rfl
    omega
  have whole : ¬ (Path.join name child).toList.contains '\x00' = true := by
    rw [plain.join_eq plain']
    simp [plain.whole, plain'.whole]
  have unrooted : Path.root (Path.join name child) = "" := by
    rw [plain.join_eq plain', String.append_assoc, plain.root_append]
  unfold locate
  rw [if_neg whole, if_neg fits, relative_of_here here]
  dsimp only
  rw [if_pos unrooted, split, follow_cons plain (by rfl), List.nil_append]
  cases stands : d.entry? [name] with
  | none => rw [follow, stands]
  | some node =>
    cases node with
    | file content => rw [follow, stands]
    | directory => rw [follow_cons plain' stands]; rfl

theorem makeOne_plain (here : d.here = "") (plain : IsPlain name) :
    d.makeOne name = match d.entry? [name] with
      | some _ => .error (.taken name)
      | none => .ok (d.put [name] .directory) := by
  rw [makeOne, locate_plain here plain]
  rfl

/-- A directory of a plain name is made unless it is there, and nothing else is. -/
theorem makeDirectory_plain (here : d.here = "") (plain : IsPlain name)
    (way : ∀ content, d.entry? [name] ≠ some (.file content)) :
    d.makeDirectory name =
      (if d.entry? [name] = none then d.put [name] .directory else d, .ok ()) := by
  have located := locate_plain here plain
  have made := makeOne_plain here plain
  rw [makeDirectory, plain.ways_eq, ensure, made]
  cases stands : d.entry? [name] with
  | none =>
    rw [stands] at made
    simp only [ensureOne, made, if_true]
  | some node =>
    rw [stands] at made
    have there : d.isDirectory name = true := by
      have found : d.look name = .ok node := look_eq_ok_iff.mpr ⟨[name], located, stands⟩
      rw [isDirectory, found]
      cases node with
      | file content => exact absurd stands (way content)
      | directory => rfl
    simp only [ensureOne, made, there, if_true, reduceCtorEq, if_false]

end Disk

namespace FileStore

open RuleBound.Path (IsPlain)

variable {root : String} {d : Disk}

/-- What has the shape of a digest names a file. -/
theorem isPlain_of_isDigest {digest : String} (shaped : Text.isDigest digest = true) :
    IsPlain (nameOf digest) := by
  have letters : ∀ c ∈ digest.toList, Text.isLowerHex c = true ∨ c = '\n' := by
    intro c mem
    rcases Text.isDigest_iff.mp shaped with digits | ⟨digits, isDigits, rfl⟩
    · exact .inl (digits.hex c mem)
    · rw [String.toList_append, List.mem_append] at mem
      exact mem.imp (isDigits.hex c) List.mem_singleton.mp
  have length : digest.toList.length = 64 ∨ digest.toList.length = 65 := by
    rcases Text.isDigest_iff.mp shaped with digits | ⟨digits, isDigits, rfl⟩
    · exact .inl digits.length
    · rw [String.toList_append, List.length_append, isDigits.length]
      exact .inr rfl
  have long : (nameOf digest).toList.length = digest.toList.length + 4 := by
    rw [nameOf, String.toList_append, List.length_append]
    rfl
  have apart : ∀ c : Char, Text.isLowerHex c = false → c ≠ '\n' → c ∉ ending.toList →
      c ∉ (nameOf digest).toList := by
    intro c other other' outside mem
    rw [nameOf, String.toList_append, List.mem_append] at mem
    rcases mem with mem | mem
    · rcases letters c mem with hex | newline
      · rw [hex] at other
        cases other
      · exact other' newline
    · exact outside mem
  have other : ∀ t : String, t.toList.length < 68 → nameOf digest ≠ t := by
    rintro t few rfl
    omega
  refine ⟨apart '/' (by decide) (by decide) (by decide), ⟨other "" (by decide),
    other "." (by decide), other ".." (by decide)⟩, ?_,
    apart '\x00' (by decide) (by decide) (by decide), ?_⟩
  · have ascii := Text.isAscii_of_isDigest shaped
    unfold Text.isAscii at ascii ⊢
    rw [nameOf, String.toList_append, List.all_append, ascii]
    rfl
  · have : Disk.nameLimit = 255 := rfl
    omega

theorem isPlain_nameOf (content : Bytes) : IsPlain (nameOf (ofBytes content)) :=
  isPlain_of_isDigest (Sha256.isDigest_ofBytes content)

theorem isClear_of_isPlain (plain : IsPlain root) (short : root.toList.length < 68) :
    IsClear root := by
  intro step mem content same
  rw [plain.steps_eq, List.mem_singleton] at mem
  exact nameOf_ne content short (same.symm.trans mem)

theorem path_eq (root digest : String) : path root digest = Path.join root (nameOf digest) := rfl

theorem placeOf_plain (here : d.here = "") (plain : IsPlain root) (content : Bytes) :
    placeOf root d content = [root, nameOf (ofBytes content)] := by
  have plain' := isPlain_nameOf content
  have grown : (d.put [root] .directory).locate (path root (ofBytes content)) =
      .ok [root, nameOf (ofBytes content)] := by
    have stands : Disk.entry? (d.put [root] .directory) [root] = some .directory := by
      rw [Disk.entry_put]
      simp
    have here' : (d.put [root] .directory).here = "" := here
    rw [path_eq, Disk.locate_join here' plain plain', stands]
  exact (Disk.eq_placeOf_of_locate grown).symm

/-- Whether a store below a directory takes what it is given: the files at the places of blobs are
its own, and nothing but a directory stands where the directory has to be. -/
structure IsTidy (root : String) (d : Disk) : Prop where
  own : IsOwn root d
  here : d.here = ""
  way : ∀ content, d.entry? [root] ≠ some (.file content)

theorem isTidy_empty (plain : IsPlain root) : IsTidy root {} := by
  obtain ⟨-, -, up⟩ := plain.real
  refine ⟨fun content node there => ?_, rfl, fun content there => ?_⟩
  · rw [placeOf_plain rfl plain] at there
    simp [ Disk.entry?, Disk.isGiven, up] at there
  · simp only [ Disk.entry?] at there
    split at there
    · cases there
    · cases there

/-- One can ask whether a blob is there, and if it is not, nothing stands at its place. -/
theorem IsTidy.exists?_cases (tidy : IsTidy root d) (plain : IsPlain root) (content : Bytes) :
    d.exists? (path root (ofBytes content)) = .ok true ∨
      d.exists? (path root (ofBytes content)) = .ok false ∧
        d.entry? [root, nameOf (ofBytes content)] = none := by
  have located := Disk.locate_join tidy.here plain (isPlain_nameOf content)
  rw [← path_eq] at located
  have gone : (∀ node, d.look (path root (ofBytes content)) ≠ .ok node) →
      d.entry? [root, nameOf (ofBytes content)] = none := fun missing =>
    placeOf_plain tidy.here plain content ▸ tidy.own.entry_eq_none missing
  have asked : d.exists? (path root (ofBytes content)) =
      .ok (d.entry? [root] == some .directory &&
        Option.isSome ( d.entry? [root, nameOf (ofBytes content)])) := by
    unfold Disk.exists? Disk.look
    rw [located]
    cases stands : d.entry? [root] with
    | none => rfl
    | some node =>
      cases node with
      | file c => rfl
      | directory =>
        simp only [ok_bind]
        cases d.entry? [root, nameOf (ofBytes content)] with
        | none => rfl
        | some node => rfl
  cases there : d.exists? (path root (ofBytes content)) with
  | error fault =>
    rw [there] at asked
    cases asked
  | ok answer =>
    cases answer with
    | true => exact .inl rfl
    | false => exact .inr ⟨rfl, gone (look_ne_ok_of_exists? there)⟩

theorem IsTidy.result_put (tidy : IsTidy root d) (plain : IsPlain root) (content : Bytes) :
    (put root d content).result = .ok (ofBytes content) := by
  have plain' := isPlain_nameOf content
  unfold FileStore.put
  rcases tidy.exists?_cases plain content with there | ⟨missing, gone⟩
  · simp only [there]
  · have made := Disk.makeDirectory_plain tidy.here plain tidy.way
    generalize remade : (if d.entry? [root] = none then d.put [root] .directory else d) = d' at made
    have stands : d'.entry? [root] = some .directory ∧
        d'.entry? [root, nameOf (ofBytes content)] = none ∧ d'.here = "" := by
      rw [← remade]
      cases stands : d.entry? [root] with
      | none =>
        have ungiven : Disk.isGiven [root] = false := by
          rw [← Bool.not_eq_true]
          intro given
          rw [ Disk.entry?, if_pos given] at stands
          cases stands
        have ungiven' : Disk.isGiven [root, nameOf (ofBytes content)] = false := by
          rw [← Bool.not_eq_true]
          intro given
          rw [ Disk.entry?, if_pos given] at gone
          cases gone
        rw [if_pos rfl, Disk.entry_put, Disk.entry_put, ungiven, ungiven']
        exact ⟨by simp, by simpa using gone, tidy.here⟩
      | some node =>
        cases node with
        | file c => exact absurd stands (tidy.way c)
        | directory => exact ⟨stands, gone, tidy.here⟩
    obtain ⟨stands, gone', here'⟩ := stands
    have located := Disk.locate_join here' plain plain'
    rw [stands, ← path_eq] at located
    have written : d'.write (path root (ofBytes content)) content =
        .ok (d'.put [root, nameOf (ofBytes content)] (.file content)) := by
      rw [Disk.write, located, ok_bind, gone']
      rfl
    simp only [missing, write, made, written]

/-- A store below a directory takes what it is given, and goes on to. -/
theorem IsTidy.put (tidy : IsTidy root d) (plain : IsPlain root) (clear : IsClear root)
    (content : Bytes) : ((store root).put d content).result = .ok (ofBytes content) ∧
      IsTidy root ((store root).put d content).state := by
  change (FileStore.put root d content).result = _ ∧ IsTidy root (FileStore.put root d content).state
  have answers := tidy.result_put plain content
  have leaves := putLeaves tidy.own clear content
  generalize FileStore.put root d content = r at answers leaves
  obtain ⟨-, b, found, -⟩ := leaves.stored _ answers
  obtain ⟨place, located, -⟩ := Disk.look_eq_ok_iff.mp found
  have here := leaves.grows.here.trans tidy.here
  refine ⟨answers, leaves.own, here, fun c stands => ?_⟩
  rw [path_eq, Disk.locate_join here plain (isPlain_nameOf content), stands] at located
  cases located

end FileStore

end RuleBound
