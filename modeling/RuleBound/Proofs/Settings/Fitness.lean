import RuleBound.Journal.Line
import RuleBound.Proofs.Guard
import RuleBound.Proofs.Settings.Course

/-!
Settings that fit. A file may give a setting a value of a type that cannot even be asked whether it is
acceptable, or one that cannot be worked with later on. If files give no such values, reading them
fails for foreseen reasons only, and what holds for a setting can be worked with.
-/

namespace RuleBound

namespace Setting

/-- Whether a setting can be asked about a value, and worked with if it accepts it. -/
def Takes : Setting → Document → Prop
  | .stateDirectory, d | .snapshotFile, d => d.isTrue = true → ∃ s, d = .text s
  | .gateway, d | .origin, d => ∃ s, d = .text s
  | .timeout, d | .baseDelay, d => d.numeric?.isSome = true
  | .attempts, d => ∃ n, d = .integer n
  | .backend, _ | .token, _ | .image, _ | .level, _ | .lineFormat, _ => True

/-- Whether a value can be worked with where it holds for a setting. -/
def Suits : Setting → Document → Prop
  | .stateDirectory, d | .snapshotFile, d | .gateway, d | .origin, d => ∃ s, d = .text s
  | .attempts, d => ∃ n, d = .integer n
  | .level, d => ∃ word, d = .text word ∧ ∃ style, Level.ofWord word = .ok style
  | .backend, _ | .token, _ | .timeout, _ | .image, _ | .baseDelay, _ | .lineFormat, _ => True

variable {k : Setting} {d : Document}

theorem guarded_isBeside (accepts : Ordering → Bool) (n : Int) (number : d.numeric?.isSome = true) :
    Guarded (isBeside accepts n d) := by
  unfold isBeside
  rw [Option.isNone_eq_false_iff.mpr number, if_neg Bool.false_ne_true]
  exact failsBy_ok _

/-- A setting that takes a value can be asked about it. -/
theorem guarded_accepts (takes : k.Takes d) : Guarded (k.accepts d) := by
  cases k with
  | snapshotFile =>
    change Guarded (if d.isTrue then d.holdsSlash.map not else .ok false)
    split
    · next given =>
      obtain ⟨s, rfl⟩ := takes given
      exact failsBy_ok _
    · exact failsBy_ok _
  | gateway =>
    obtain ⟨s, rfl⟩ := takes
    exact failsBy_ok _
  | origin =>
    obtain ⟨s, rfl⟩ := takes
    exact failsBy_ok _
  | timeout => exact guarded_isBeside _ _ takes
  | baseDelay => exact guarded_isBeside _ _ takes
  | attempts =>
    obtain ⟨n, rfl⟩ := takes
    exact guarded_isBeside _ _ rfl
  | _ => exact failsBy_ok _

/-- A value that a setting takes and accepts can be worked with. -/
theorem suits_of_accepts (takes : k.Takes d) (accepted : k.accepts d = .ok true) : k.Suits d := by
  cases k with
  | stateDirectory => exact takes (Except.ok.inj accepted)
  | snapshotFile =>
    change (if d.isTrue then d.holdsSlash.map not else .ok false) = .ok true at accepted
    split at accepted
    · next given => exact takes given
    · cases accepted
  | gateway => exact takes
  | origin => exact takes
  | attempts => exact takes
  | level =>
    have word : (Level.all.map Level.name).any (fun w => d == .text w) = true :=
      Except.ok.inj accepted
    obtain ⟨w, mem, same⟩ := List.any_eq_true.mp word
    obtain ⟨l, -, rfl⟩ := List.mem_map.mp mem
    refine ⟨_, eq_of_beq same, ?_⟩
    cases l <;> exact ⟨_, rfl⟩
  | _ => trivial

theorem suits_default (k : Setting) : k.Suits k.default := by
  cases k with
  | level => exact ⟨_, rfl, _, rfl⟩
  | _ => first | exact ⟨_, rfl⟩ | trivial

theorem guarded_readAs (default : Document) (text : String) : Guarded (readAs default text) := by
  unfold readAs
  split
  · exact failsBy_ok _
  · refine FailsBy.map ?_ _
    unfold Document.toInteger
    dsimp only
    split
    · exact failsBy_ok _
    all_goals exact failsBy_error rfl
  · split
    · exact failsBy_ok _
    · exact failsBy_error rfl
  · exact failsBy_ok _

/-- What the text of a variable is read as can be worked with, if the level is a word for one. -/
theorem suits_of_readAs {text : String}
    (worded : k = .level → ∃ style, Level.ofWord text = .ok style)
    (read : readAs k.default text = .ok d) : k.Suits d := by
  cases k with
  | level =>
    cases read
    exact ⟨text, rfl, worded rfl⟩
  | attempts =>
    obtain ⟨n, -, rfl⟩ := map_eq_ok_iff.mp read
    exact ⟨n, rfl⟩
  | stateDirectory | snapshotFile | gateway | origin =>
    cases read
    exact ⟨text, rfl⟩
  | _ => trivial

end Setting

/-- What is known to be no YAML is so for its grammar or its characters; else a number is too long. -/
theorem Document.parseYaml_cases {s : String} {f : Fault} (failed : parseYaml s = .error f) :
    (∃ cause, f = .notYaml cause) ∨ ∃ digits, f = .numeralTooLong digits := by
  unfold parseYaml at failed
  extract_lets cs at failed
  split at failed
  · cases failed
    exact .inl ⟨_, rfl⟩
  · split at failed
    · cases failed
    · split at failed
      · cases failed
      · cases failed
        exact .inr ⟨_, rfl⟩
      · cases failed
        exact .inl ⟨_, rfl⟩

namespace Settings

/-- Whether what was set can be worked with, and so can the level that a variable names. -/
structure IsFit (s : Settings) : Prop where
  overrides : ∀ k d, s.override? k = some d → k.Suits d
  level : ∀ word, s.variableText? Setting.level.variableName = some word →
    ∃ style, Level.ofWord word = .ok style

variable {s : Settings} {k : Setting} {d : Document}

theorem guarded_get (s : Settings) (k : Setting) : Guarded (s.get k) := by
  unfold get Setting.resolve
  split
  · exact Setting.guarded_readAs _ _
  · exact failsBy_ok _

namespace IsFit

/-- What holds for a setting can be worked with. -/
theorem suits_of_get (fit : s.IsFit) (holds : s.get k = .ok d) : k.Suits d := by
  unfold get Setting.resolve at holds
  split at holds
  · next text there =>
    refine Setting.suits_of_readAs (fun level => ?_) holds
    subst level
    exact fit.level text there
  · cases holds
    cases set : s.override? k with
    | none => exact k.suits_default
    | some d => exact fit.overrides k d set

theorem put (fit : s.IsFit) (suits : k.Suits d) : (s.put k d).IsFit where
  overrides j e set := by
    rw [override?_put] at set
    split at set
    · next same =>
      subst same
      rw [held, Option.ite_none_left_eq_some, Option.some.injEq] at set
      exact set.2 ▸ suits
    · exact fit.overrides j e set
  level := fit.level

theorem set (fit : s.IsFit) (takes : k.Takes d) :
    Guarded (s.set k d) ∧ ∀ s', s.set k d = .ok s' → s'.IsFit := by
  refine ⟨(Setting.guarded_accepts takes).bind fun fine _ => ?_, fun s' done => ?_⟩
  · split
    · exact failsBy_ok _
    · exact failsBy_error rfl
  · obtain ⟨accepted, rfl⟩ := set_eq_ok_iff.mp done
    exact fit.put (Setting.suits_of_accepts takes accepted)

end IsFit

/-! ## Reading documents -/

theorem guarded_applyTaken (path : String) (own : List String) (name : String) (d : Document) :
    Guarded (applyTaken path own name d) := by
  have refuses : Guarded (applyTaken.refuse path own name) := by
    unfold applyTaken.refuse
    split <;> exact failsBy_error rfl
  unfold applyTaken
  split
  · split
    · unfold applyKind
      split
      · exact failsBy_ok _
      · split <;> exact failsBy_error rfl
    · exact refuses
  · exact refuses

/-- Values of a group that its settings take are set one after the other, or the first that is turned
down ends it. -/
theorem IsFit.applyGroup (fit : s.IsFit) {group : String} {fields : List (String × Document)}
    (takes : ∀ f ∈ fields, ∀ k, Setting.ofName? group f.1 = some k → k.Takes f.2) :
    (applyGroup group s fields).1.IsFit ∧ Guarded (applyGroup group s fields).2 := by
  induction fields generalizing s with
  | nil => exact ⟨fit, failsBy_ok ()⟩
  | cons f rest ih =>
    obtain ⟨name, d⟩ := f
    rw [List.forall_mem_cons] at takes
    have taken := guarded_applyTaken (group ++ ".") [] name d
    rw [Settings.applyGroup]
    cases named : Setting.ofName? group name with
    | none =>
      cases applied : applyTaken (group ++ ".") [] name d with
      | ok done => exact ih fit takes.2
      | error f => exact ⟨fit, failsBy_error (taken.reason f applied)⟩
    | some k =>
      obtain ⟨guarded, fit'⟩ := fit.set (takes.1 k named)
      dsimp only
      cases done : s.set k d with
      | ok s' => exact ih (fit' s' done) takes.2
      | error f => exact ⟨fit, failsBy_error (guarded.reason f done)⟩

theorem IsFit.apply (fit : s.IsFit) {fields : List (String × Document)}
    (takes : ∀ f ∈ fields, ∀ group, f.2 = .object group → ∀ g ∈ group, ∀ k,
      Setting.ofName? f.1 g.1 = some k → k.Takes g.2) :
    (s.apply fields).1.IsFit ∧ Guarded (s.apply fields).2 := by
  induction fields generalizing s with
  | nil => exact ⟨fit, failsBy_ok ()⟩
  | cons f rest ih =>
    obtain ⟨name, d⟩ := f
    rw [List.forall_mem_cons] at takes
    have taken := guarded_applyTaken "" wholeNames name d
    rw [Settings.apply.eq_def]
    dsimp only
    split
    · split
      · next group =>
        have first := fit.applyGroup (takes.1 group rfl)
        split
        · next s' done =>
          rw [done] at first
          exact ih first.1 takes.2
        · next s' f failed =>
          rw [failed] at first
          exact ⟨first.1, failsBy_error (first.2.reason f rfl)⟩
      · exact ⟨fit, failsBy_error rfl⟩
    · split
      · next f failed => exact ⟨fit, failsBy_error (taken.reason f failed)⟩
      · exact ih fit takes.2

/-! ## Files -/

theorem guarded_documentAt (disk : Disk) (path : String) : Guarded (documentAt disk path) := by
  unfold documentAt
  split
  · exact failsBy_error rfl
  · exact failsBy_error rfl
  · split
    · exact failsBy_error rfl
    · split
      · exact failsBy_error rfl
      · split
        · exact failsBy_ok _
        · exact failsBy_error rfl
        · next f other failed =>
          rcases Document.parseYaml_cases failed with ⟨cause, rfl⟩ | ⟨digits, rfl⟩
          · exact absurd rfl (other cause)
          · exact failsBy_error rfl

/-- A file that gives settings what they take is read, or not for foreseen reasons. -/
theorem IsFit.load (fit : s.IsFit) {disk : Disk} {path : String}
    (takes : ∀ k d, fileValue? disk path k = some d → k.Takes d) :
    (s.load disk path).1.IsFit ∧ Guarded (s.load disk path).2 := by
  have reads := guarded_documentAt disk (Path.normal path)
  unfold Settings.load
  dsimp only
  cases read : documentAt disk (Path.normal path) with
  | error f => exact ⟨fit, failsBy_error (reads.reason f read)⟩
  | ok d =>
    dsimp only
    split
    · exact ⟨fit, failsBy_ok _⟩
    · split
      · next fields _ =>
        have distinct := distinct_of_documentAt read
        have applied : (s.apply fields).1.IsFit ∧ Guarded (s.apply fields).2 := by
          refine fit.apply fun f mem group is g mem' k named => ?_
          obtain ⟨here, called⟩ := Setting.ofName?_eq_some_iff.mp named
          have found := Document.field?_eq_some_of_mem ((Document.Every.object_iff _).mp distinct).1 mem
          rw [is] at found
          have inner := ((Document.Every.object_iff _).mp
            (Document.distinct_of_field? distinct found)).1
          apply takes
          rw [fileValue?, read]
          change given? (.object fields) k = _
          rw [given?, here, called]
          change (Document.field? fields f.1).bind _ = _
          rw [found]
          exact Document.field?_eq_some_of_mem inner mem'
        exact ⟨applied.1, applied.2.map _⟩
      · exact ⟨fit, failsBy_error rfl⟩

theorem IsFit.loadPresent (fit : s.IsFit) {disk : Disk} {paths : List String}
    (takes : ∀ path ∈ paths, ∀ k d, fileValue? disk path k = some d → k.Takes d) :
    (loadPresent disk s paths).1.IsFit ∧ Guarded (loadPresent disk s paths).2 := by
  induction paths generalizing s with
  | nil => exact ⟨fit, failsBy_ok []⟩
  | cons path rest ih =>
    rw [List.forall_mem_cons] at takes
    have read := fit.load takes.1
    have first : (loadIfPresent disk s path).1.IsFit ∧ Guarded (loadIfPresent disk s path).2 := by
      unfold loadIfPresent
      generalize s.load disk path = loaded at read
      split
      · exact ⟨fit, failsBy_error rfl⟩
      · exact ⟨fit, failsBy_ok _⟩
      · exact ⟨read.1, read.2.map _⟩
    rw [Settings.loadPresent]
    cases done : loadIfPresent disk s path with
    | mk s' result =>
    rw [done] at first
    cases result with
    | error f => exact ⟨first.1, failsBy_error (first.2.reason f rfl)⟩
    | ok found =>
      obtain ⟨fit', guarded⟩ := ih first.1 takes.2
      exact ⟨fit', guarded.map _⟩

/-! ## Showing -/

theorem guarded_toDocument (s : Settings) (hide : Bool) : Guarded (s.toDocument hide) := by
  refine FailsBy.bind (failsBy_mapM fun name _ => FailsBy.bind (failsBy_mapM fun k _ => ?_)
    fun _ _ => failsBy_ok _) fun _ _ => failsBy_ok _
  exact ((s.guarded_get k).bind fun _ _ => failsBy_ok _).map _

end Settings

end RuleBound
