import RuleBound.Proofs.Document.Distinct
import RuleBound.Settings.Basic

/-!
What becomes of settings. A value that is set by hand takes the place of the one before, and so does
one that a file gives: a file that is read without fault sets, of every setting, the value that stands
under its group and its name, and leaves the settings of which it says nothing. Of several files in a
row the last that gives a value has its way.
-/

namespace RuleBound

open Document (HasDistinctNames Every field?)

/-! ## Names of settings -/

namespace Setting

theorem mem_all (k : Setting) : k ∈ all := by
  cases k <;> decide

theorem ofName?_eq_some_iff {group name : String} {k : Setting} :
    ofName? group name = some k ↔ k.group = group ∧ k.name = name := by
  constructor
  · intro found
    simpa using List.find?_some found
  · rintro ⟨rfl, rfl⟩
    cases k <;> decide

end Setting

namespace Settings

variable {s s' : Settings} {k j : Setting} {d : Document}

/-! ## One value -/

/-- What is held once a value has been set: null means that nothing is. -/
def held (d : Document) : Option Document := if d = .null then none else some d

theorem override?_put (s : Settings) (k j : Setting) (d : Document) :
    (s.put k d).override? j = if j = k then held d else s.override? j := by
  have others : ((s.overrides.filter fun o => o.1 != k).find? fun o => o.1 == j) =
      if j = k then none else s.overrides.find? fun o => o.1 == j := by
    rw [List.find?_filter]
    split
    · next same =>
      subst same
      simp
    · next other =>
      congr 1
      funext o
      by_cases here : o.1 = j
      · simp [here, other]
      · simp [here]
  unfold override? put held
  dsimp only
  by_cases null : d = .null
  · rw [if_pos null, if_pos null, others]
    split <;> rfl
  · rw [if_neg null, if_neg null, List.find?_cons]
    by_cases same : j = k
    · subst same
      simp
    · rw [if_neg same, beq_false_of_ne (Ne.symm same), others, if_neg same]

theorem set_eq_ok_iff : s.set k d = .ok s' ↔ k.accepts d = .ok true ∧ s' = s.put k d := by
  unfold set
  rw [bind_eq_ok_iff]
  constructor
  · rintro ⟨fit, asked, answer⟩
    cases fit with
    | true =>
      cases answer
      exact ⟨asked, rfl⟩
    | false => cases answer
  · rintro ⟨asked, rfl⟩
    exact ⟨true, asked, rfl⟩

/-- The value that a document gives to a setting: the one under the setting's group and name. -/
def given? (d : Document) (k : Setting) : Option Document :=
  (d.get? k.group).bind fun group => group.get? k.name

/-- Whether settings come of others by setting the values that are given, wherever one is. -/
structure ComesOf (s' s : Settings) (given : Setting → Option Document) : Prop where
  environment : s'.environment = s.environment
  overrides : ∀ k, s'.override? k = (given k).elim (s.override? k) held

theorem ComesOf.refl (s : Settings) : ComesOf s s fun _ => none :=
  ⟨rfl, fun _ => rfl⟩

theorem ComesOf.put (s : Settings) (k : Setting) (d : Document) :
    ComesOf (s.put k d) s fun j => if j = k then some d else none := by
  refine ⟨rfl, fun j => ?_⟩
  rw [override?_put]
  split <;> rfl

/-- What is given later has its way. -/
theorem ComesOf.trans {t : Settings} {first second : Setting → Option Document}
    (before : ComesOf s' s first) (after : ComesOf t s' second) :
    ComesOf t s fun k => (second k).or (first k) := by
  refine ⟨after.environment.trans before.environment, fun k => ?_⟩
  rw [after.overrides, before.overrides]
  cases second k <;> rfl

theorem ComesOf.congr {first second : Setting → Option Document} (comes : ComesOf s' s first)
    (same : ∀ k, second k = first k) : ComesOf s' s second := by
  rwa [funext same]

/-- The value that a file gives to a setting, if it is read and gives one. -/
def fileValue? (disk : Disk) (path : String) (k : Setting) : Option Document :=
  (documentAt disk (Path.normal path)).toOption.bind (given? · k)

/-- The value that a file gives to a setting, if it is there and gives one. -/
def presentValue? (disk : Disk) (path : String) (k : Setting) : Option Document :=
  if disk.exists? path = .ok true then fileValue? disk path k else none

theorem distinct_of_documentAt {disk : Disk} {path : String} (read : documentAt disk path = .ok d) :
    Every HasDistinctNames d := by
  unfold documentAt at read
  split at read
  · cases read
  · cases read
  · split at read
    · cases read
    · split at read
      · cases read
      · split at read
        · next parsed =>
          cases read
          exact Document.distinct_of_parseYaml parsed
        all_goals cases read

/-- The last value that some of several sources give. -/
def lastOf {α : Type} (sources : List α) (value? : α → Option Document) : Option Document :=
  (sources.filterMap value?).getLast?

/-- A call that sets something: one value, by hand; those of a file; or those of the default files
that are there. Files are found on a disk of the call's own. -/
inductive Call
  | set (path value : Document)
  | load (disk : Disk) (path : String)
  | loadDefaults (disk : Disk) (home : String)

/-- What a call leaves, and whether it succeeds. -/
def call (s : Settings) : Call → Settings × Except Fault Unit
  | .set path d =>
    match settingAt path >>= fun k => s.set k d with
    | .ok s' => (s', .ok ())
    | .error f => (s, .error f)
  | .load disk path =>
    let (s', result) := s.load disk path
    (s', result.map fun _ => ())
  | .loadDefaults disk home =>
    let (s', result) := s.loadDefaults disk home
    (s', result.map fun _ => ())

/-- What calls leave that are made one after the other, and whether each succeeds. -/
def run (s : Settings) : List Call → Settings × List (Except Fault Unit)
  | [] => (s, [])
  | c :: rest =>
    let (s', result) := s.call c
    let (s'', results) := s'.run rest
    (s'', result :: results)

namespace Call

/-- The value that a call sets by hand. -/
def setValue? (k : Setting) : Call → Option Document
  | .set path d => if path = .text k.path then some d else none
  | _ => none

/-- The value that a call takes from a file. Of the default files the one in the current directory
goes before the one in the directory for settings there, and that before the one at home. -/
def readValue? (k : Setting) : Call → Option Document
  | .set _ _ => none
  | .load disk path => fileValue? disk path k
  | .loadDefaults disk home =>
    (presentValue? disk "rdo.yaml" k).or ((presentValue? disk "config/rdo.yaml" k).or
      (presentValue? disk (Path.join home ".rdo/config.yaml") k))

/-- The value that a call gives to a setting. -/
def value? (k : Setting) (c : Call) : Option Document := (c.setValue? k).or (c.readValue? k)

end Call

end Settings

end RuleBound
