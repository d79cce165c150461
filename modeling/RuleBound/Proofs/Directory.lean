import RuleBound.Proofs.Siblings

/-!
Below a directory. Where a path leads to a directory, a plain name behind it leads to a place in that
directory, unless the path gets too long, and the directory does not have to be made.
-/

namespace RuleBound

namespace Path

/-- Behind a path with steps stands a slash. -/
theorem IsPlain.join_of_steps {parent name : String} (plain : IsPlain name)
    (some : steps parent ≠ []) : join parent name = normal parent ++ "/" ++ name := by
  have some' : ¬ (root parent = "" ∧ (steps parent).isEmpty = true) := fun none =>
    some (List.isEmpty_iff.mp none.2)
  rw [plain.join_eq_ofSteps, normal, ofSteps, if_neg (by simp), ofSteps, if_neg some',
    String.intercalate_append_of_ne_nil some (List.cons_ne_nil _ _), String.intercalate_singleton]
  simp only [String.append_assoc]

/-- A path with steps ends in one. -/
theorem exists_normal_eq {parent : String} (some : steps parent ≠ []) :
    ∃ front step, normal parent = front ++ step ∧ step ≠ "" ∧ '/' ∉ step.toList := by
  obtain ⟨before, last, whole⟩ := (List.eq_nil_or_concat' (steps parent)).resolve_left some
  have mem : last ∈ steps parent := by
    rw [whole]
    simp
  obtain ⟨front, -, joined⟩ := exists_front_of_intercalate before
  refine ⟨root parent ++ front, last, ?_, ?_, slashless_of_mem_steps mem⟩
  · rw [normal, ofSteps, if_neg, whole, joined, String.append_assoc]
    rintro ⟨-, none⟩
    exact some (List.isEmpty_iff.mp none)
  · have real := (List.mem_filter.mp mem).2
    simp only [Bool.and_eq_true, bne_iff_ne] at real
    exact real.1

/-- The first way to a path with steps is the path itself. -/
theorem exists_ways_eq {path : String} (some : steps path ≠ []) :
    ∃ shorter, ways path = normal path :: shorter := by
  obtain ⟨count, length⟩ := Nat.exists_eq_succ_of_ne_zero (mt List.length_eq_zero_iff.mp some)
  unfold ways
  extract_lets all
  have length' : all.length = count + 1 := length
  have kept : all.take (all.length - 0) = all := List.take_length
  rw [length', List.range_succ_eq_map, List.map_cons, ← length', kept]
  exact ⟨_, rfl⟩

end Path

namespace Disk

open RuleBound.Path (IsPlain)

variable {d : Disk} {parent name : String}

theorem follow_blank {path : String} {place blanks rest : List String}
    (stands : d.entry? place = some .directory) (blank : ∀ s ∈ blanks, s = "") :
    d.follow path place (blanks ++ rest) = d.follow path place rest := by
  induction blanks with
  | nil => rfl
  | cons s blanks ih =>
    rw [List.forall_mem_cons] at blank
    rw [List.cons_append, follow, stands, blank.1]
    dsimp only
    rw [if_pos (.inl rfl)]
    exact ih blank.2

/-- Where a path begins there is a directory. -/
theorem entry_start (d : Disk) (path : String) :
    d.entry? (if Path.root path = "" then [] else ["/"]) = some .directory := by
  split <;> rfl

/-- The path of the current directory with a slash begins a path behind a directory only if the
directory is the current one or below it. -/
theorem here_or_below {front : String} (plain : IsPlain name)
    (begins : (d.here ++ "/").toList <+: (front ++ "/" ++ name).toList) :
    d.here = front ∨ (d.here ++ "/").toList <+: front.toList := by
  rw [Path.prefix_front_iff plain.slashless, String.toList_append, String.toList_append] at begins
  rcases List.prefix_concat_iff.mp begins with same | inside
  · have alike := List.append_inj_left' same rfl
    exact .inl (String.toList_inj.mp alike)
  · rw [String.toList_append]
    exact .inr inside

/-- The path of the current directory is taken off in front. -/
theorem relative_below (named : d.here ≠ "") (rest : String) :
    d.relative (d.here ++ "/" ++ rest) = rest := by
  have within : (d.here ++ "/").toList.isPrefixOf (d.here ++ "/" ++ rest).toList = true := by
    rw [List.isPrefixOf_iff_prefix]
    exact ⟨rest.toList, (String.toList_append ..).symm⟩
  rw [relative, if_pos ⟨named, .inr within⟩, ← String.toList_inj, String.toList_ofList,
    ← String.length_toList]
  simp

theorem relative_outside {path : String} (other : path ≠ d.here)
    (apart : ¬ (d.here ≠ "" ∧ (d.here ++ "/").toList <+: path.toList)) : d.relative path = path := by
  rw [relative, if_neg]
  rintro ⟨named, same | within⟩
  · exact other same
  · exact apart ⟨named, List.isPrefixOf_iff_prefix.mp within⟩

/-- Where one gets to a directory one gets below it, also if both paths mean less than is written. -/
theorem exists_locate_below {path : String} {place : List String} (plain : IsPlain name)
    (solid : ∃ front step, path = front ++ step ∧ step ≠ "" ∧ '/' ∉ step.toList)
    (located : d.locate path = .ok place) (stands : d.entry? place = some .directory)
    (whole : (path ++ "/" ++ name).toList.contains '\x00' = false)
    (short : ¬ pathLimit ≤ (path ++ "/" ++ name).utf8ByteSize) :
    ∃ place', d.locate (path ++ "/" ++ name) = .ok place' := by
  obtain ⟨front, step, rfl, named, slashless⟩ := solid
  obtain ⟨whole₀, short₀⟩ := whole_of_locate located
  rw [locate_of_short whole₀ short₀] at located
  rw [locate_of_short whole short]
  -- whatever is taken off in front, the part behind still ends in the step
  have behind : ∀ rest, d.relative (front ++ step) = rest ++ step →
      d.relative (front ++ step ++ "/" ++ name) = rest ++ step ++ "/" ++ name →
      ∃ place', d.follow (front ++ step ++ "/" ++ name)
        (if Path.root (d.relative (front ++ step ++ "/" ++ name)) = "" then [] else ["/"])
        (Path.split (d.relative (front ++ step ++ "/" ++ name))) = .ok place' := by
    intro rest same same'
    have rooted : Path.root (rest ++ step ++ "/" ++ name) = Path.root (rest ++ step) := by
      have long := Path.root_append_of_slashless named slashless rest ("/" ++ name)
      have short := Path.root_append_of_slashless named slashless rest ""
      rw [String.append_empty] at short
      simp only [String.append_assoc] at long ⊢
      rw [long, short]
    rw [same] at located
    rw [same', rooted, Path.split_append, plain.split_eq, follow_append,
      follow_of_directories (fun _ stands => stands) located]
    exact ⟨_, follow_cons plain stands⟩
  by_cases current : d.here = front ++ step ++ "/" ++ name
  · have same : d.relative (front ++ step ++ "/" ++ name) = "" := by
      rw [← current]
      refine relative_here ?_
      rw [current]
      simp
    rw [same]
    exact ⟨[], rfl⟩
  by_cases begins : d.here ≠ "" ∧ (d.here ++ "/").toList <+: (front ++ step ++ "/" ++ name).toList
  · rcases here_or_below plain begins.2 with same | below
    · rw [← same, relative_below begins.1, if_pos plain.root_eq, plain.split_eq]
      exact ⟨_, follow_cons plain (by rfl)⟩
    · rw [Path.prefix_front_iff slashless] at below
      obtain ⟨rest, whole⟩ := below
      have front_eq : front = d.here ++ "/" ++ String.ofList rest := by
        rw [← String.toList_inj, String.toList_append, String.toList_ofList, whole]
      refine behind (String.ofList rest) ?_ ?_
      · have taken := d.relative_below begins.1 (String.ofList rest ++ step)
        rw [← String.append_assoc] at taken
        rw [front_eq]
        exact taken
      · have taken := d.relative_below begins.1 (String.ofList rest ++ step ++ "/" ++ name)
        simp only [← String.append_assoc] at taken
        rw [front_eq]
        exact taken
  · refine behind front (relative_outside ?_ ?_) (relative_outside (Ne.symm current) begins)
    · intro same
      refine begins ⟨?_, ?_⟩
      · rw [← same]
        simp [named]
      · rw [← same]
        exact ⟨name.toList, (String.toList_append ..).symm⟩
    · rintro ⟨named, within⟩
      refine begins ⟨named, within.trans ?_⟩
      have longer : (front ++ step ++ "/" ++ name).toList =
          (front ++ step).toList ++ ("/" ++ name).toList := by
        rw [← String.toList_append, String.append_assoc]
      exact ⟨_, longer.symm⟩

/-- Where nothing but slashes stands in front of a name, one gets under it. -/
theorem exists_locate_of_stepless (plain : IsPlain name) (none : Path.steps parent = [])
    (whole : (Path.join parent name).toList.contains '\x00' = false)
    (short : ¬ pathLimit ≤ (Path.join parent name).utf8ByteSize) :
    ∃ place, d.locate (Path.join parent name) = .ok place := by
  have joined : Path.join parent name = Path.ofSteps (Path.root parent) [name] := by
    rw [plain.join_eq_ofSteps, none, List.nil_append]
  obtain ⟨count, split⟩ := Path.split_ofSteps parent (List.cons_ne_nil name [])
    (by simpa using plain.slashless)
  rw [← joined] at split
  rw [locate_of_short whole short]
  -- in front of the name only empty steps are left
  have led : ∀ blanks : List String, (∀ s ∈ blanks, s = "") →
      Path.split (d.relative (Path.join parent name)) = blanks ++ [name] →
      ∃ place, d.follow (Path.join parent name)
        (if Path.root (d.relative (Path.join parent name)) = "" then [] else ["/"])
        (Path.split (d.relative (Path.join parent name))) = .ok place := by
    intro blanks blank parts
    rw [parts, follow_blank (d.entry_start _) blank, follow_cons plain (d.entry_start _)]
    exact ⟨_, rfl⟩
  rcases d.relative_cases (Path.join parent name) with same | ⟨-, same⟩ | ⟨rest, whole, same⟩
  · exact led _ (fun s mem => List.eq_of_mem_replicate mem) (same.symm ▸ split)
  · rw [same]
    exact ⟨[], rfl⟩
  · rw [whole, Path.split_append] at split
    obtain ⟨first, last, parts⟩ := (List.eq_nil_or_concat' _).resolve_left (Path.split_ne_nil rest)
    rw [parts, ← List.append_assoc] at split
    obtain ⟨blanks, last_eq⟩ := List.append_inj' split rfl
    refine led first (fun s mem => ?_) (by rw [same, parts, last_eq])
    exact List.eq_of_mem_replicate (blanks ▸ List.mem_append_right _ mem)

/-- Below a directory one gets under every plain name that leaves the path short enough. -/
theorem exists_locate_join (found : d.look (Path.normal parent) = .ok .directory)
    (plain : IsPlain name) (short : (Path.join parent name).utf8ByteSize < pathLimit) :
    ∃ place, d.locate (Path.join parent name) = .ok place := by
  obtain ⟨place, located, stands⟩ := look_eq_ok_iff.mp found
  have fits := Nat.not_le.mpr short
  have whole := plain.whole
  by_cases none : Path.steps parent = []
  · refine exists_locate_of_stepless plain none ?_ fits
    rw [plain.join_eq_ofSteps, none, List.nil_append, Path.ofSteps, if_neg (by simp),
      String.intercalate_singleton]
    rcases Path.root_cases parent with is | is | is <;> rw [is] <;> simpa using whole
  · rw [plain.join_of_steps none] at fits ⊢
    refine exists_locate_below plain (Path.exists_normal_eq none) located stands ?_ fits
    have whole₀ := (whole_of_locate located).1
    simp only [String.toList_append, List.contains_append, Bool.or_eq_false_iff]
    exact ⟨⟨whole₀, by decide⟩, by simpa using whole⟩

/-- A directory that stands is not made again. -/
theorem makeDirectory_of_look {path : String} (found : d.look (Path.normal path) = .ok .directory) :
    d.makeDirectory path = (d, .ok ()) := by
  unfold makeDirectory
  by_cases none : Path.steps path = []
  · have nowhere : Path.ways path = [] := by
      unfold Path.ways
      rw [none]
      rfl
    rw [nowhere]
    rfl
  · obtain ⟨shorter, ways⟩ := Path.exists_ways_eq none
    obtain ⟨place, located, stands⟩ := look_eq_ok_iff.mp found
    have taken : d.makeOne (Path.normal path) = .error (.taken (Path.normal path)) := by
      rw [makeOne, located, ok_bind, stands]
      rfl
    have there : d.isDirectory (Path.normal path) = true := by rw [isDirectory, found]
    rw [ways, ensure, taken]
    simp only [ensureOne, taken, there, if_true]

end Disk

end RuleBound
