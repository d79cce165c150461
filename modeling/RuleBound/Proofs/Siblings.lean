import RuleBound.Proofs.Tidy

/-!
Siblings: what stands below one directory under plain names. Whatever the directory is called and
whichever directory is the current one, its siblings are reached in the same way, so if one of them
can be reached the others can, unless a path is too long or names the current directory itself.
-/

namespace RuleBound

namespace Path

theorem root_cases (path : String) : root path = "" ∨ root path = "/" ∨ root path = "//" := by
  unfold root
  split <;> simp

/-- Whether a text is what stands in front of a name in a path: nothing, or something up to a
slash. -/
def IsFront (front : String) : Prop := front = "" ∨ ∃ before, front = before ++ "/"

theorem exists_front_of_intercalate (steps : List String) :
    ∃ front, IsFront front ∧ ∀ name, "/".intercalate (steps ++ [name]) = front ++ name := by
  induction steps with
  | nil => exact ⟨"", .inl rfl, fun name => by simp⟩
  | cons step steps ih =>
    obtain ⟨front, isFront, joined⟩ := ih
    refine ⟨step ++ "/" ++ front, .inr ?_, fun name => ?_⟩
    · rcases isFront with rfl | ⟨before, rfl⟩
      · exact ⟨step, by simp⟩
      · exact ⟨step ++ "/" ++ before, by simp [String.append_assoc]⟩
    · cases steps with
      | nil =>
        have alone : "/".intercalate [name] = front ++ name := joined name
        change "/".intercalate [step, name] = _
        rw [String.intercalate_cons_cons, alone, String.append_assoc, String.append_assoc,
          String.append_assoc]
      | cons next steps =>
        have rest := joined name
        rw [List.cons_append, List.cons_append, String.intercalate_cons_cons]
        rw [List.cons_append] at rest
        rw [rest, String.append_assoc, String.append_assoc, String.append_assoc]

/-- The paths of siblings are their names behind one front. -/
theorem exists_front_of_join (parent : String) :
    ∃ front, IsFront front ∧ ∀ name, IsPlain name → join parent name = front ++ name := by
  obtain ⟨front, isFront, joined⟩ := exists_front_of_intercalate (steps parent)
  have path : ∀ name, IsPlain name → join parent name = root parent ++ front ++ name := by
    intro name plain
    have some : ¬ (root parent = "" ∧ (steps parent ++ [name]).isEmpty = true) := by simp
    rw [plain.join_eq_ofSteps, ofSteps, if_neg some, joined, String.append_assoc]
  refine ⟨root parent ++ front, ?_, path⟩
  rcases isFront with rfl | ⟨before, rfl⟩
  · rw [String.append_empty]
    rcases root_cases parent with is | is | is
    · exact .inl is
    · exact .inr ⟨"", is⟩
    · exact .inr ⟨"/", is⟩
  · exact .inr ⟨root parent ++ before, String.append_assoc.symm⟩

variable {front name : String}

/-- What stands in front of a name is split off as steps of its own. -/
theorem IsFront.exists_split (isFront : IsFront front) :
    ∃ before, ∀ name, IsPlain name → split (front ++ name) = before ++ [name] := by
  rcases isFront with rfl | ⟨before, rfl⟩
  · exact ⟨[], fun name plain => by rw [String.empty_append, plain.split_eq]; rfl⟩
  · exact ⟨split before, fun name plain => by rw [split_append, plain.split_eq]⟩

/-- The root of a path does not depend on what follows a step. -/
theorem root_append_of_slashless {step : String} (named : step ≠ "") (slashless : '/' ∉ step.toList)
    (front behind : String) : root (front ++ (step ++ behind)) = root front := by
  have slashes : ∀ cs : List Char,
      (cs ++ (step.toList ++ behind.toList)).takeWhile (· == '/') = cs.takeWhile (· == '/') := by
    intro cs
    induction cs with
    | nil =>
      cases letters : step.toList with
      | nil => exact absurd (String.toList_eq_nil_iff.mp letters) named
      | cons c letters' =>
        have other : c ≠ '/' := fun same => slashless (letters ▸ same ▸ List.mem_cons_self)
        rw [List.nil_append, List.cons_append, List.takeWhile_cons_of_neg (by simpa using other),
          List.takeWhile_nil]
    | cons c cs ih => rw [List.cons_append, List.takeWhile_cons, List.takeWhile_cons, ih]
  unfold root
  rw [String.toList_append, String.toList_append, slashes]

/-- The root of a path does not depend on the plain name at its end. -/
theorem IsPlain.root_behind (plain : IsPlain name) (front : String) :
    root (front ++ name) = root front := by
  have alone := root_append_of_slashless plain.real.1 plain.slashless front ""
  rwa [String.append_empty] at alone

theorem IsPlain.steps_join (plain : IsPlain name) (parent : String) :
    steps (join parent name) = steps parent ++ [name] := by
  have slashless : ∀ s ∈ steps parent ++ [name], '/' ∉ s.toList := by
    rw [List.forall_mem_append, List.forall_mem_singleton]
    exact ⟨fun s mem => slashless_of_mem_steps mem, plain.slashless⟩
  have real : ∀ s ∈ steps parent ++ [name], s ≠ "" ∧ s ≠ "." := by
    rw [List.forall_mem_append, List.forall_mem_singleton]
    exact ⟨fun s mem => by simpa using (List.mem_filter.mp mem).2, plain.real.1, plain.real.2.1⟩
  obtain ⟨count, split⟩ := split_ofSteps parent (by simp) slashless
  rw [plain.join_eq_ofSteps, steps, split, List.filter_append,
    List.filter_replicate_of_neg (by decide), List.nil_append, List.filter_eq_self]
  exact fun s mem => by simpa using real s mem

theorem IsPlain.root_join (plain : IsPlain name) (parent : String) :
    root (join parent name) = root parent := by
  have again : root (root parent) = root parent := by
    rcases root_cases parent with is | is | is <;> rw [is] <;> rfl
  rw [plain.join_eq_ofSteps, ofSteps, if_neg (by simp)]
  cases before : steps parent with
  | nil => rw [List.nil_append, String.intercalate_singleton, plain.root_behind, again]
  | cons step rest =>
    have mem : step ∈ steps parent := before ▸ List.mem_cons_self
    have named : step ≠ "" := by
      have kept := (List.mem_filter.mp mem).2
      rw [Bool.and_eq_true, bne_iff_ne] at kept
      exact kept.1
    have more : rest ++ [name] ≠ [] := by simp
    obtain ⟨next, rest', behind⟩ := List.exists_cons_of_ne_nil more
    rw [List.cons_append, behind, String.intercalate_cons_cons, String.append_assoc,
      root_append_of_slashless named (slashless_of_mem_steps mem), again]

/-- A path below a directory is the first of its ways. -/
theorem IsPlain.exists_ways_join (plain : IsPlain name) (parent : String) :
    ∃ shorter, ways (join parent name) = join parent name :: shorter := by
  have long : (steps parent ++ [name]).length = (steps parent).length + 1 := by simp
  unfold ways
  rw [plain.steps_join, plain.root_join]
  dsimp only
  rw [long, List.range_succ_eq_map, List.map_cons, Nat.sub_zero, ← long, List.take_length,
    ← plain.join_eq_ofSteps]
  exact ⟨_, rfl⟩

/-- A text up to a slash begins a path exactly if it begins the front. -/
theorem prefix_front_iff (slashless : '/' ∉ name.toList) (front before : String) :
    (before ++ "/").toList <+: (front ++ name).toList ↔
      (before ++ "/").toList <+: front.toList := by
  have path : (front ++ name).toList = front.toList ++ name.toList := String.toList_append ..
  rw [path]
  refine ⟨fun begins => ?_, fun begins => begins.trans (List.prefix_append ..)⟩
  rcases List.prefix_or_prefix_of_prefix begins (List.prefix_append ..) with inside | ⟨rest, whole⟩
  · exact inside
  · cases List.eq_nil_or_concat' rest with
    | inl none =>
      rw [none, List.append_nil] at whole
      exact ⟨[], by rw [List.append_nil, whole]⟩
    | inr last =>
      -- the slash would stand in the name
      obtain ⟨rest', c, rfl⟩ := last
      rw [← whole, List.prefix_append_right_inj] at begins
      rw [String.toList_append, ← List.append_assoc] at whole
      have slash := (List.append_inj' whole rfl).2
      cases List.singleton_inj.mp slash
      exact absurd (begins.subset (List.mem_append_right _ List.mem_cons_self)) slashless

end Path

namespace Disk

open RuleBound.Path (IsPlain IsFront)

variable {d d' : Disk} {parent : String}

/-- The paths of siblings mean their names behind one front, but for one that is the current
directory. -/
theorem exists_front_of_relative (d : Disk) {front : String} (isFront : IsFront front) :
    ∃ front', IsFront front' ∧ ∀ name, IsPlain name → front ++ name ≠ d.here →
      d.relative (front ++ name) = front' ++ name := by
  by_cases begins : d.here ≠ "" ∧ (d.here ++ "/").toList <+: front.toList
  · obtain ⟨named, rest, whole⟩ := begins
    refine ⟨String.ofList rest, ?_, fun name plain other => ?_⟩
    · rcases isFront with rfl | ⟨before, rfl⟩
      · simp at whole
      · cases List.eq_nil_or_concat' rest with
        | inl none =>
          rw [none]
          exact .inl rfl
        | inr last =>
          obtain ⟨rest', c, rfl⟩ := last
          have slash : ("/" : String).toList = ['/'] := rfl
          rw [String.toList_append, String.toList_append, slash, ← List.append_assoc] at whole
          cases List.singleton_inj.mp (List.append_inj' whole rfl).2
          exact .inr ⟨String.ofList rest', by rw [← String.toList_inj]; simp⟩
    · have within : (d.here ++ "/").toList.isPrefixOf (front ++ name).toList = true :=
        List.isPrefixOf_iff_prefix.mpr
          ((Path.prefix_front_iff plain.slashless ..).mpr ⟨rest, whole⟩)
      rw [relative, if_pos ⟨named, .inr within⟩]
      rw [← String.toList_inj, String.toList_ofList, String.toList_append, String.toList_append,
        String.toList_ofList, ← whole, String.toList_append, ← String.length_toList]
      simp
  · refine ⟨front, isFront, fun name plain other => ?_⟩
    rw [relative, if_neg]
    rintro ⟨named, same | within⟩
    · exact other same
    · exact begins ⟨named, (Path.prefix_front_iff plain.slashless ..).mp
        (List.isPrefixOf_iff_prefix.mp within)⟩

theorem relative_here (named : d.here ≠ "") : d.relative d.here = "" := by
  rw [relative, if_pos ⟨named, .inl rfl⟩, ← String.length_toList,
    List.drop_of_length_le (Nat.le_succ _)]

/-! ## Following steps -/

theorem follow_append (d : Disk) (path : String) (place before behind : List String) :
    d.follow path place (before ++ behind) =
      (d.follow path place before).bind fun q => d.follow path q behind := by
  induction before generalizing place with
  | nil => rfl
  | cons step before ih =>
    rw [List.cons_append, follow, follow]
    split
    · rfl
    · rfl
    · split
      · exact ih _
      · split
        · exact ih _
        · split
          · rfl
          · exact ih _

/-! ## Open directories -/

/-- Whether a path with a plain name at its end is too long to be followed. -/
structure IsLong (path : String) : Prop where
  whole : path.toList.contains '\x00' = false
  long : pathLimit ≤ path.utf8ByteSize

theorem IsLong.locate_eq {path : String} (long : IsLong path) (d : Disk) :
    d.locate path = .error (.nameTooLong path) := by
  unfold locate
  rw [long.whole, if_neg Bool.false_ne_true, if_pos long.long]

/-- Whether a directory is open: it stands at a place, and below it one gets under every plain name,
unless the path is too long or means the current directory. -/
structure IsOpen (d : Disk) (parent : String) (site : List String) : Prop where
  stands : d.entry? site = some .directory
  leads : ∀ name, IsPlain name → d.locate (Path.join parent name) = .ok (site ++ [name]) ∨
    d.locate (Path.join parent name) = .ok [] ∨ IsLong (Path.join parent name)

theorem whole_of_locate {path : String} {place : List String} (located : d.locate path = .ok place) :
    path.toList.contains '\x00' = false ∧ ¬ pathLimit ≤ path.utf8ByteSize := by
  unfold locate at located
  split at located
  · cases located
  · next whole =>
    split at located
    · cases located
    · next short => exact ⟨Bool.eq_false_iff.mpr whole, short⟩

theorem locate_of_short {path : String} (whole : path.toList.contains '\x00' = false)
    (short : ¬ pathLimit ≤ path.utf8ByteSize) :
    d.locate path = d.follow path (if Path.root (d.relative path) = "" then [] else ["/"])
      (Path.split (d.relative path)) := by
  unfold locate
  rw [whole, if_neg Bool.false_ne_true, if_neg short]

/-- A directory below which one gets under one plain name is open. -/
theorem isOpen_of_locate {name : String} (plain : IsPlain name) {place : List String}
    (located : d.locate (Path.join parent name) = .ok place) (other : place ≠ []) :
    ∃ site, place = site ++ [name] ∧ d.IsOpen parent site := by
  obtain ⟨front, isFront, joined⟩ := Path.exists_front_of_join parent
  obtain ⟨front', isFront', relative⟩ := exists_front_of_relative d isFront
  obtain ⟨before, split⟩ := isFront'.exists_split
  obtain ⟨whole, short⟩ := whole_of_locate located
  have current : ∀ name, IsPlain name → front ++ name = d.here →
      (front ++ name).toList.contains '\x00' = false →
      ¬ pathLimit ≤ (front ++ name).utf8ByteSize → d.locate (front ++ name) = .ok [] := by
    intro name plain here whole short
    have named : d.here ≠ "" := by
      rintro none
      rw [none, String.append_eq_empty_iff] at here
      exact plain.real.1 here.2
    rw [locate_of_short whole short, here, relative_here named]
    rfl
  have way : ∀ name, IsPlain name → front ++ name ≠ d.here →
      (front ++ name).toList.contains '\x00' = false →
      ¬ pathLimit ≤ (front ++ name).utf8ByteSize →
      d.locate (front ++ name) = (d.follow (front ++ name)
        (if Path.root front' = "" then [] else ["/"]) before).bind fun site =>
          d.follow (front ++ name) site [name] := by
    intro name plain there whole short
    rw [locate_of_short whole short, relative name plain there, plain.root_behind,
      split name plain, follow_append]
  rw [joined name plain] at located whole short
  by_cases here : front ++ name = d.here
  · rw [current name plain here whole short] at located
    cases located
    exact absurd rfl other
  rw [way name plain here whole short] at located
  obtain ⟨site, led, last⟩ := bind_eq_ok_iff.mp located
  have stands : d.entry? site = some .directory := by
    rw [follow] at last
    split at last
    · cases last
    · cases last
    · assumption
  rw [follow_cons plain stands] at last
  cases last
  refine ⟨site, rfl, stands, fun name' plain' => ?_⟩
  have whole' : (front ++ name').toList.contains '\x00' = false := by
    rw [Bool.eq_false_iff] at whole ⊢
    rw [String.toList_append] at whole ⊢
    simp only [List.contains_append, ne_eq, Bool.or_eq_true, not_or] at whole ⊢
    exact ⟨whole.1, by simpa using plain'.whole⟩
  rw [joined name' plain']
  by_cases long : pathLimit ≤ (front ++ name').utf8ByteSize
  · exact .inr (.inr ⟨whole', long⟩)
  by_cases here' : front ++ name' = d.here
  · exact .inr (.inl (current name' plain' here' whole' long))
  refine .inl ?_
  rw [way name' plain' here' whole' long, follow_of_directories (fun _ stands => stands) led]
  exact follow_cons plain' stands

/-! ## What is spared -/

/-- Whether a tree has the directories that another has, around the same current directory, and the
same at a place. -/
structure Spares (place : List String) (d d' : Disk) : Prop where
  here : d'.here = d.here
  directories : ∀ site, d.entry? site = some .directory → d'.entry? site = some .directory
  same : d'.entry? place = d.entry? place

namespace Spares

variable {place : List String}

theorem refl (d : Disk) : Spares place d d := ⟨rfl, fun _ stands => stands, rfl⟩

theorem trans {d'' : Disk} (first : Spares place d d') (second : Spares place d' d'') :
    Spares place d d'' where
  here := second.here.trans first.here
  directories site stands := second.directories site (first.directories site stands)
  same := second.same.trans first.same

/-- What is put elsewhere, and not in the place of a directory, spares a place. -/
theorem put {place' : List String} {node : DiskNode} (elsewhere : place' ≠ place)
    (free : d.entry? place' ≠ some .directory) : Spares place d (d.put place' node) := by
  refine ⟨rfl, fun site stands => ?_, ?_⟩
  · rw [entry_put]
    split
    · rfl
    · rw [if_neg, stands]
      rintro rfl
      exact free stands
  · exact entry_put_of_ne (Ne.symm elsewhere) d node

theorem isOpen (spares : Spares place d d') {site : List String} (opened : d.IsOpen parent site) :
    d'.IsOpen parent site where
  stands := spares.directories site opened.stands
  leads name plain := by
    rcases opened.leads name plain with there | current | long
    · exact .inl (locate_of_directories spares.here spares.directories there)
    · exact .inr (.inl (locate_of_directories spares.here spares.directories current))
    · exact .inr (.inr long)

end Spares

/-- Making a directory below an open one makes that one or nothing. -/
theorem IsOpen.makeDirectory_cases {site : List String} (opened : d.IsOpen parent site)
    {name : String} (plain : IsPlain name) :
    (d.makeDirectory (Path.join parent name)).1 = d ∨
      d.entry? (site ++ [name]) = none ∧
        (d.makeDirectory (Path.join parent name)).1 = d.put (site ++ [name]) .directory := by
  obtain ⟨shorter, ways⟩ := plain.exists_ways_join parent
  have made : (∃ fault, d.makeOne (Path.join parent name) = .error fault ∧
      ∀ path, fault ≠ .absent path) ∨ d.entry? (site ++ [name]) = none ∧
      d.makeOne (Path.join parent name) = .ok (d.put (site ++ [name]) .directory) := by
    unfold makeOne
    rcases opened.leads name plain with there | current | long
    · rw [there, ok_bind]
      cases stands : d.entry? (site ++ [name]) with
      | none => exact .inr ⟨rfl, rfl⟩
      | some node => exact .inl ⟨_, rfl, fun path same => by cases same⟩
    · rw [current, ok_bind]
      exact .inl ⟨_, rfl, fun path same => by cases same⟩
    · rw [long.locate_eq]
      exact .inl ⟨_, rfl, fun path same => by cases same⟩
  unfold makeDirectory
  rw [ways, ensure]
  rcases made with ⟨fault, failed, other⟩ | ⟨free, made⟩
  · left
    rw [failed]
    cases fault with
    | absent path => exact absurd rfl (other path)
    | _ =>
      dsimp only
      unfold ensureOne
      rw [failed]
  · right
    refine ⟨free, ?_⟩
    rw [made]
    dsimp only
    unfold ensureOne
    rw [made]

end Disk

/-- A store in an open directory spares what stands there under another name. -/
theorem FileStore.spares_put {d : Disk} {parent name other : String} {site : List String}
    (opened : d.IsOpen parent site) (plain : Path.IsPlain name)
    (short : other.toList.length < 68) (elsewhere : name ≠ other) (content : Bytes) :
    Disk.Spares (site ++ [other]) d (put (Path.join parent name) d content).state := by
  have made : Disk.Spares (site ++ [other]) d (d.makeDirectory (Path.join parent name)).1 := by
    rcases opened.makeDirectory_cases plain with same | ⟨free, same⟩
    · rw [same]
      exact .refl d
    · rw [same]
      refine .put (fun same => ?_) (by rw [free]; exact nofun)
      exact elsewhere (List.singleton_inj.mp (List.append_inj' same rfl).2)
  unfold put
  dsimp only
  split
  · exact .refl d
  · exact .refl d
  · unfold write
    dsimp only
    generalize d.makeDirectory (Path.join parent name) = answer at made ⊢
    obtain ⟨d₁, result⟩ := answer
    cases result with
    | error fault => exact made
    | ok done =>
      dsimp only
      split
      · exact made
      · next d₂ written =>
        obtain ⟨place, located, free, rfl⟩ := Disk.exists_of_write written
        refine made.trans (.put ?_ free)
        rw [Disk.eq_placeOf_of_locate located] at free ⊢
        rcases placeOf_eq_concat (Path.join parent name) d₁ content with ⟨before, is⟩ | is
        · intro same
          have last := (List.append_inj' (is.symm.trans same) rfl).2
          exact nameOf_ne content short (List.singleton_inj.mp last)
        · have given : d₁.entry? (placeOf (Path.join parent name) d₁ content) =
              some .directory := by
            rw [is]
            rfl
          exact absurd given free

end RuleBound
