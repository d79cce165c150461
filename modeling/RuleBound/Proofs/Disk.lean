import RuleBound.Disk
import RuleBound.Proofs.Sequencing

/-!
Paths, places and growing trees. Where a path leads is told by its steps and the current directory
alone; the tree decides only whether one gets there. A tree grows if something comes to stand where
nothing stood, and then every path that led to something still leads there.
-/

namespace RuleBound

namespace Path

/-! ## Steps -/

theorem slashless_of_mem_splitOn {cs piece : List Char} (mem : piece ∈ cs.splitOn '/') :
    '/' ∉ piece := by
  induction cs generalizing piece with
  | nil =>
    rw [List.splitOn_nil, List.mem_singleton] at mem
    rw [mem]
    exact List.not_mem_nil
  | cons c cs ih =>
    rw [List.splitOn_cons_eq_if_modifyHead] at mem
    split at mem
    · rcases List.mem_cons.mp mem with rfl | mem
      · exact List.not_mem_nil
      · exact ih mem
    · next other =>
      cases pieces : cs.splitOn '/' with
      | nil => exact absurd pieces (List.splitOn_ne_nil '/' cs)
      | cons first rest =>
        rw [pieces] at mem ih
        rcases List.mem_cons.mp mem with rfl | mem
        · rw [List.mem_cons, not_or]
          exact ⟨fun same => other (beq_iff_eq.mpr same.symm), ih List.mem_cons_self⟩
        · exact ih (List.mem_cons_of_mem _ mem)

theorem slashless_of_mem_split {path step : String} (mem : step ∈ split path) :
    '/' ∉ step.toList := by
  obtain ⟨piece, within, rfl⟩ := List.mem_map.mp mem
  rw [String.toList_ofList]
  exact slashless_of_mem_splitOn within

theorem slashless_of_mem_steps {path step : String} (mem : step ∈ steps path) :
    '/' ∉ step.toList :=
  slashless_of_mem_split (List.mem_filter.mp mem).1

theorem split_append (front back : String) :
    split (front ++ "/" ++ back) = split front ++ split back := by
  have slash : ("/" : String).toList = ['/'] := rfl
  simp only [split, String.toList_append, slash, List.append_assoc, List.singleton_append,
    List.splitOn_append_cons_self, List.map_append]

theorem split_of_slashless {step : String} (slashless : '/' ∉ step.toList) : split step = [step] := by
  rw [split, List.splitOn_eq_singleton slashless, List.map_singleton, String.ofList_toList]

theorem split_ne_nil (path : String) : split path ≠ [] := by
  rw [split, ne_eq, List.map_eq_nil_iff]
  exact List.splitOn_ne_nil '/' path.toList

theorem split_intercalate {steps : List String} (some : steps ≠ [])
    (slashless : ∀ s ∈ steps, '/' ∉ s.toList) : split ("/".intercalate steps) = steps := by
  have slash : ("/" : String).toList = ['/'] := rfl
  rw [split, String.toList_intercalate, slash, List.splitOn_intercalate]
  · simp
  · simpa using slashless
  · simpa using some

/-- A path that is put together from steps is split into them, behind what is left of the root. -/
theorem split_ofSteps (path : String) {steps : List String} (some : steps ≠ [])
    (slashless : ∀ s ∈ steps, '/' ∉ s.toList) :
    ∃ count, split (ofSteps (root path) steps) = List.replicate count "" ++ steps := by
  have rooted : ofSteps (root path) steps = root path ++ "/".intercalate steps := by
    rw [ofSteps, if_neg]
    rintro ⟨-, none⟩
    exact some (List.isEmpty_iff.mp none)
  have one : ∀ rest : String, split ("/" ++ rest) = "" :: split rest := fun rest =>
    split_append "" rest
  have inner := split_intercalate some slashless
  rw [rooted]
  unfold root
  split
  · exact ⟨0, by rw [String.empty_append, inner]; rfl⟩
  · refine ⟨2, ?_⟩
    have two : ("//" : String) = "/" ++ "/" := rfl
    rw [two, String.append_assoc, one, one, inner]
    rfl
  · exact ⟨1, by rw [one, inner]; rfl⟩

/-- Where steps lead from a place, if one can go there. -/
def resolve : List String → List String → List String
  | place, [] => place
  | place, step :: rest =>
    if step = "" ∨ step = "." then resolve place rest
    else if step = ".." then resolve (Disk.above place) rest
    else resolve (place ++ [step]) rest

theorem resolve_append (place before behind : List String) :
    resolve place (before ++ behind) = resolve (resolve place before) behind := by
  induction before generalizing place with
  | nil => rfl
  | cons step before ih =>
    rw [List.cons_append, resolve, resolve]
    split
    · exact ih place
    · split
      · exact ih _
      · exact ih _

/-- A place is made of steps that were taken, and of steps up. -/
theorem mem_of_mem_resolve {place steps : List String} {step : String}
    (mem : step ∈ resolve place steps) : step ∈ place ∨ step = ".." ∨ step ∈ steps := by
  induction steps generalizing place with
  | nil => exact .inl mem
  | cons next steps ih =>
    rw [resolve] at mem
    split at mem
    · rcases ih mem with here | up | there
      · exact .inl here
      · exact .inr (.inl up)
      · exact .inr (.inr (List.mem_cons_of_mem _ there))
    · split at mem
      · rcases ih mem with here | up | there
        · unfold Disk.above at here
          split at here
          · exact .inl here
          · split at here
            · rcases List.mem_cons.mp here with up | here
              · exact .inr (.inl up)
              · exact .inl here
            · exact .inl (List.dropLast_subset _ here)
        · exact .inr (.inl up)
        · exact .inr (.inr (List.mem_cons_of_mem _ there))
      · rcases ih mem with here | up | there
        · rcases List.mem_append.mp here with here | last
          · exact .inl here
          · exact .inr (.inr (List.mem_cons.mpr (.inl (List.mem_singleton.mp last))))
        · exact .inr (.inl up)
        · exact .inr (.inr (List.mem_cons_of_mem _ there))

end Path

namespace Disk

variable {d d' : Disk}

/-! ## Places -/

/-- The place that a path leads to, if one can go there. -/
def placeOf (d : Disk) (path : String) : List String :=
  Path.resolve (if Path.root (d.relative path) = "" then [] else ["/"])
    (Path.split (d.relative path))

theorem eq_resolve_of_follow {path : String} {place steps target : List String}
    (led : d.follow path place steps = .ok target) : target = Path.resolve place steps := by
  induction steps generalizing place with
  | nil =>
    cases led
    rfl
  | cons step steps ih =>
    unfold follow at led
    rw [Path.resolve]
    split at led
    · cases led
    · cases led
    · split at led
      · next same => rw [if_pos same, ih led]
      · next other =>
        rw [if_neg other]
        split at led
        · next up => rw [if_pos up, ih led]
        · next down =>
          rw [if_neg down]
          split at led
          · cases led
          · exact ih led

theorem eq_placeOf_of_locate {path : String} {place : List String}
    (located : d.locate path = .ok place) : place = d.placeOf path := by
  unfold locate at located
  split at located
  · cases located
  · split at located
    · cases located
    · exact eq_resolve_of_follow located

/-- A path leads to what stands at the place to which one gets. -/
theorem look_eq_ok_iff {path : String} {node : DiskNode} :
    d.look path = .ok node ↔ ∃ place, d.locate path = .ok place ∧ d.entry? place = some node := by
  unfold look
  rw [bind_eq_ok_iff]
  refine exists_congr fun place => and_congr_right fun _ => ?_
  cases d.entry? place with
  | none => simp [throw, throwThe, MonadExceptOf.throw]
  | some n => simp [pure, Except.pure]

/-- What a path is after the name of the current directory was taken off: the path, nothing, or the
part behind. -/
theorem relative_cases (d : Disk) (path : String) :
    d.relative path = path ∨ path = d.here ∧ d.relative path = "" ∨
      ∃ rest, path = d.here ++ "/" ++ rest ∧ d.relative path = rest := by
  unfold relative
  split
  · next within =>
    rcases within.2 with same | before
    · refine .inr (.inl ⟨same, ?_⟩)
      rw [same, ← String.length_toList, List.drop_of_length_le (Nat.le_succ _)]
    · obtain ⟨rest, whole⟩ := List.isPrefixOf_iff_prefix.mp before
      refine .inr (.inr ⟨String.ofList rest, ?_, ?_⟩)
      · rw [← String.toList_inj, String.toList_append, String.toList_ofList, whole]
      · rw [← whole, String.toList_append, ← String.length_toList]
        have slash : ("/" : String).toList = ['/'] := rfl
        rw [slash, List.append_assoc, List.drop_append]
        simp
  · exact .inl rfl

/-- The place of a path ends in the last step of the path, unless the path is the current
directory. -/
theorem placeOf_eq_concat (d : Disk) {path name : String} {before : List String}
    (steps : Path.split path = before ++ [name]) (real : name ≠ "" ∧ name ≠ "." ∧ name ≠ "..") :
    (∃ place, d.placeOf path = place ++ [name]) ∨ d.placeOf path = [] := by
  have ends : ∀ place before, ∃ front, Path.resolve place (before ++ [name]) = front ++ [name] := by
    intro place before
    refine ⟨Path.resolve place before, ?_⟩
    rw [Path.resolve_append, Path.resolve, if_neg (not_or.mpr ⟨real.1, real.2.1⟩), if_neg real.2.2]
    rfl
  unfold placeOf
  rcases d.relative_cases path with same | ⟨-, none⟩ | ⟨rest, whole, same⟩
  · rw [same, steps]
    exact .inl (ends _ before)
  · rw [none]
    exact .inr rfl
  · rw [same]
    rw [whole, Path.split_append] at steps
    obtain ⟨first, last, parts⟩ := (List.eq_nil_or_concat' _).resolve_left (Path.split_ne_nil rest)
    rw [parts, ← List.append_assoc] at steps
    rw [parts, (List.append_inj' steps rfl).2]
    exact .inl (ends _ first)

/-- The place of a path is made of its steps, steps up and the root. -/
theorem mem_of_mem_placeOf {path step : String} (mem : step ∈ d.placeOf path) :
    step = "/" ∨ step = ".." ∨ step = "" ∨ step ∈ Path.split path := by
  have within : step ∈ Path.split (d.relative path) → step = "" ∨ step ∈ Path.split path := by
    intro mem
    rcases d.relative_cases path with same | ⟨-, none⟩ | ⟨rest, whole, same⟩
    · exact .inr (same ▸ mem)
    · rw [none] at mem
      exact .inl (List.mem_singleton.mp mem)
    · rw [same] at mem
      rw [whole, Path.split_append]
      exact .inr (List.mem_append_right _ mem)
  rcases Path.mem_of_mem_resolve mem with here | up | there
  · split at here
    · cases here
    · exact .inl (List.mem_singleton.mp here)
  · exact .inr (.inl up)
  · exact .inr (.inr (within there))

/-- Steps that were followed can be followed where the directories of then still stand, whichever
path is told when they cannot. -/
theorem follow_of_directories (stand : ∀ place, d.entry? place = some .directory →
    d'.entry? place = some .directory) {path path' : String} {place steps target : List String}
    (led : d.follow path place steps = .ok target) : d'.follow path' place steps = .ok target := by
  induction steps generalizing place with
  | nil => exact led
  | cons step steps ih =>
    rw [follow] at led ⊢
    split at led
    · cases led
    · cases led
    · next stands =>
      rw [stand place stands]
      dsimp only
      split at led
      · next same => rw [if_pos same, ih led]
      · next other =>
        rw [if_neg other]
        split at led
        · next up => rw [if_pos up, ih led]
        · next down =>
          rw [if_neg down]
          split at led
          · cases led
          · next fits => rw [if_neg fits, ih led]

/-- A path leads where it led as long as the directories of then still stand. -/
theorem locate_of_directories (here : d'.here = d.here) (stand : ∀ place,
    d.entry? place = some .directory → d'.entry? place = some .directory) {path : String}
    {place : List String} (located : d.locate path = .ok place) : d'.locate path = .ok place := by
  have same : d'.relative path = d.relative path := by
    unfold relative
    rw [here]
  unfold locate at located ⊢
  rw [same]
  split at located
  · cases located
  · next fine =>
    rw [if_neg fine]
    split at located
    · cases located
    · next fits =>
      rw [if_neg fits]
      exact follow_of_directories stand located

/-! ## Growing -/

theorem find?_putEntry (entries : List (List String × DiskNode)) (place key : List String)
    (node : DiskNode) :
    (putEntry entries place node).find? (fun e => e.1 == key) =
      if key = place then some (place, node) else entries.find? fun e => e.1 == key := by
  induction entries with
  | nil =>
    by_cases same : key = place
    · simp [putEntry, same]
    · simp [putEntry, same, Ne.symm same]
  | cons e entries ih =>
    rw [putEntry]
    by_cases here : e.1 = place
    · rw [if_pos here]
      by_cases same : key = place
      · simp [same, here]
      · simp [same, here, Ne.symm same]
    · rw [if_neg here, List.find?_cons, List.find?_cons, ih]
      by_cases same : key = place
      · simp [same, beq_false_of_ne here]
      · simp [same]

theorem entry_put (d : Disk) (place key : List String) (node : DiskNode) :
    Disk.entry? (d.put place node) key =
      if isGiven key then some .directory else if key = place then some node else d.entry? key := by
  unfold entry? put
  dsimp only
  rw [find?_putEntry]
  split
  · rfl
  · split
    · rfl
    · rfl

theorem entry_put_of_ne {place key : List String} (other : key ≠ place) (d : Disk) (node : DiskNode) :
    Disk.entry? (d.put place node) key = d.entry? key := by
  rw [entry_put, if_neg other]
  split
  · next given => rw [ entry?, if_pos given]
  · rfl

/-- Whether a tree has what another has, around the same current directory, and what it has besides
is new in a given sense. -/
structure Grows (isNew : List String → DiskNode → Prop) (d d' : Disk) : Prop where
  here : d'.here = d.here
  old : ∀ place node, d.entry? place = some node → d'.entry? place = some node
  fresh : ∀ place node, d'.entry? place = some node →
    d.entry? place = some node ∨ isNew place node

namespace Grows

variable {isNew : List String → DiskNode → Prop}

theorem refl (d : Disk) : Grows isNew d d :=
  ⟨rfl, fun _ _ there => there, fun _ _ there => .inl there⟩

theorem trans {d'' : Disk} (first : Grows isNew d d') (second : Grows isNew d' d'') :
    Grows isNew d d'' where
  here := second.here.trans first.here
  old place node there := second.old place node (first.old place node there)
  fresh place node there := by
    rcases second.fresh place node there with there | new
    · exact first.fresh place node there
    · exact .inr new

theorem mono {isNew' : List String → DiskNode → Prop} (grows : Grows isNew d d')
    (imp : ∀ place node, isNew place node → isNew' place node) : Grows isNew' d d' where
  here := grows.here
  old := grows.old
  fresh place node there := (grows.fresh place node there).imp_right (imp place node)

theorem put {place : List String} {node : DiskNode} (empty : d.entry? place = none)
    (new : isNew place node) : Grows isNew d (d.put place node) := by
  refine ⟨rfl, fun key old there => ?_, fun key old there => ?_⟩
  · rw [entry_put]
    by_cases given : isGiven key = true
    · rw [if_pos given, ← there, entry?, if_pos given]
    · rw [if_neg given, if_neg, there]
      rintro rfl
      rw [there] at empty
      cases empty
  · rw [entry_put] at there
    split at there
    · next given =>
      rw [ entry?, if_pos given]
      exact .inl there
    · split at there
      · next same =>
        cases there
        exact .inr (same ▸ new)
      · exact .inl there

theorem placeOf_eq (grows : Grows isNew d d') (path : String) : d'.placeOf path = d.placeOf path := by
  unfold placeOf relative
  rw [grows.here]

theorem locate (grows : Grows isNew d d') {path : String} {place : List String}
    (located : d.locate path = .ok place) : d'.locate path = .ok place :=
  locate_of_directories grows.here (fun place => grows.old place .directory) located

/-- What a path leads to stays there. -/
theorem look (grows : Grows isNew d d') {path : String} {node : DiskNode}
    (found : d.look path = .ok node) : d'.look path = .ok node := by
  obtain ⟨place, located, there⟩ := look_eq_ok_iff.mp found
  exact look_eq_ok_iff.mpr ⟨place, grows.locate located, grows.old place node there⟩

end Grows

/-- Whether what is new at a place is a directory to which one of some paths leads. -/
def IsWay (d : Disk) (paths : List String) (place : List String) (node : DiskNode) : Prop :=
  node = .directory ∧ ∃ path ∈ paths, place = d.placeOf path

theorem grows_makeOne {path : String} {paths : List String} (among : path ∈ paths)
    (made : d.makeOne path = .ok d') : Grows (d.IsWay paths) d d' := by
  obtain ⟨place, located, made⟩ := bind_eq_ok_iff.mp made
  cases there : d.entry? place with
  | some node =>
    rw [there] at made
    cases made
  | none =>
    rw [there] at made
    cases made
    exact .put there ⟨rfl, path, among, eq_placeOf_of_locate located⟩

theorem grows_ensureOne {path : String} {paths : List String} (among : path ∈ paths) (d : Disk) :
    Grows (d.IsWay paths) d (d.ensureOne path).1 := by
  unfold ensureOne
  split
  · next made => exact grows_makeOne among made
  · exact .refl d

/-- Making directories adds nothing but directories on the way. -/
theorem grows_ensure {paths all : List String} (among : ∀ path ∈ paths, path ∈ all) (d : Disk) :
    Grows (d.IsWay all) d (d.ensure paths).1 := by
  induction paths generalizing d with
  | nil => exact .refl d
  | cons path shorter ih =>
    rw [List.forall_mem_cons] at among
    have first := fun d => grows_ensureOne among.1 d
    unfold ensure
    split
    · split
      · exact .refl d
      · have rest := ih among.2 d
        split
        · next d₁ made =>
          rw [made] at rest
          refine rest.trans ((first d₁).mono ?_)
          rintro place node ⟨is, way, within, led⟩
          exact ⟨is, way, within, led.trans (rest.placeOf_eq way)⟩
        · exact rest
    · exact first d

theorem grows_makeDirectory (d : Disk) (path : String) :
    Grows (d.IsWay (Path.ways path)) d (d.makeDirectory path).1 :=
  grows_ensure (fun _ within => within) d

/-- A file that is written stands where the path leads, and nothing but a file stood there. -/
theorem exists_of_write {path : String} {content : Bytes} (written : d.write path content = .ok d') :
    ∃ place, d.locate path = .ok place ∧ d.entry? place ≠ some .directory ∧
      d' = d.put place (.file content) := by
  obtain ⟨place, located, written⟩ := bind_eq_ok_iff.mp written
  refine ⟨place, located, ?_⟩
  split at written
  · cases written
  · next other =>
    cases written
    exact ⟨other, rfl⟩

end Disk

end RuleBound
