import Mathlib.Data.List.Forall2
import RuleBound.Proofs.Settings.Course

/-!
The access token stays secret. Two courses of settings that differ in nothing but what is said about
the token, be it in a file, by hand or in a variable, go alike: every call succeeds or fails in the
same way, and the settings agree on all but the token. If a token is there in both, what is shown of
them and what is wrong with them is the same.
-/

namespace RuleBound.Settings

variable {s s₁ s₂ s₃ : Settings}

/-- Whether settings agree on all but the token, both in what was set and in the variables. -/
structure Agree (s₁ s₂ : Settings) : Prop where
  overrides : ∀ k : Setting, k ≠ .token → s₁.override? k = s₂.override? k
  environment : ∀ k : Setting, k ≠ .token →
    s₁.variableText? k.variableName = s₂.variableText? k.variableName

theorem Agree.refl (s : Settings) : Agree s s :=
  ⟨fun _ _ => rfl, fun _ _ => rfl⟩

theorem Agree.symm (agree : Agree s₁ s₂) : Agree s₂ s₁ :=
  ⟨fun k other => (agree.overrides k other).symm, fun k other => (agree.environment k other).symm⟩

theorem Agree.trans (first : Agree s₁ s₂) (second : Agree s₂ s₃) : Agree s₁ s₃ :=
  ⟨fun k other => (first.overrides k other).trans (second.overrides k other),
    fun k other => (first.environment k other).trans (second.environment k other)⟩

theorem Agree.get_eq (agree : Agree s₁ s₂) {k : Setting} (other : k ≠ .token) :
    s₁.get k = s₂.get k := by
  unfold get
  rw [agree.overrides k other, agree.environment k other]

/-- Setting one value alike keeps the agreement. -/
theorem Agree.put (agree : Agree s₁ s₂) (k : Setting) (d : Document) :
    Agree (s₁.put k d) (s₂.put k d) := by
  refine ⟨fun j other => ?_, agree.environment⟩
  rw [override?_put, override?_put, agree.overrides j other]

/-- Whether two operations on settings come to the same result and leave settings that agree. -/
def Match {α : Type} (x y : Settings × Except Fault α) : Prop := x.2 = y.2 ∧ Agree x.1 y.1

section Match

variable {α : Type} {x y z : Settings × Except Fault α}

theorem Match.symm (same : Match x y) : Match y x :=
  ⟨same.1.symm, same.2.symm⟩

theorem Match.trans (first : Match x y) (second : Match y z) : Match x z :=
  ⟨first.1.trans second.1, first.2.trans second.2⟩

theorem Match.cases (same : Match x y) :
    ∃ r t₁ t₂, x = (t₁, r) ∧ y = (t₂, r) ∧ Agree t₁ t₂ :=
  ⟨y.2, x.1, y.1, Prod.ext rfl same.1, rfl, same.2⟩

end Match

/-! ## One value -/

/-- Fields of a group but the token. -/
def untold (group : String) (fields : List (String × Document)) : List (String × Document) :=
  fields.filter fun f => Setting.ofName? group f.1 != some .token

/-- What is said of a group but of the token. -/
def untoldGroup (group : String) : Document → Document
  | .object fields => .object (untold group fields)
  | d => d

/-- A document of settings without what it says about the token. -/
def withoutToken : Document → Document
  | .object groups => .object (groups.map fun g => (g.1, untoldGroup g.1 g.2))
  | d => d

/-- Whether a path leads on two disks to files that say the same but about the token, or fails to lead
anywhere in the same way. -/
structure SameFile (disk₁ disk₂ : Disk) (path : String) : Prop where
  there : disk₁.exists? path = disk₂.exists? path
  read : (documentAt disk₁ (Path.normal path)).map withoutToken =
    (documentAt disk₂ (Path.normal path)).map withoutToken

/-- Whether two calls are the same but for what they say about the token. -/
inductive Call.Alike : Call → Call → Prop
  | set (path d : Document) : Alike (.set path d) (.set path d)
  | token (d₁ d₂ : Document) :
    Alike (.set (.text Setting.token.path) d₁) (.set (.text Setting.token.path) d₂)
  | load {disk₁ disk₂ : Disk} {path : String} (same : SameFile disk₁ disk₂ path) :
    Alike (.load disk₁ path) (.load disk₂ path)
  | loadDefaults {disk₁ disk₂ : Disk} {home : String}
    (same : ∀ path ∈ defaultPaths home, SameFile disk₁ disk₂ path) :
    Alike (.loadDefaults disk₁ home) (.loadDefaults disk₂ home)

/-- Whether a token is there: a text that is not empty. -/
def HasToken (s : Settings) : Prop := ∃ token, token ≠ "" ∧ s.get .token = .ok (.text token)

theorem shownValue_token (has : s.HasToken) : s.shownValue true .token = .ok hidden := by
  obtain ⟨token, some, held⟩ := has
  have counts : (Document.text token).isTrue = true := by
    simpa [Document.isTrue] using some
  unfold shownValue
  rw [held, ok_bind, counts]
  rfl

section Shown

variable (agree : Agree s₁ s₂) (has₁ : s₁.HasToken) (has₂ : s₂.HasToken)

include agree has₁ has₂

theorem Agree.shownValue_eq : s₁.shownValue true = s₂.shownValue true := by
  funext k
  by_cases token : k = .token
  · rw [token, shownValue_token has₁, shownValue_token has₂]
  · unfold shownValue
    rw [agree.get_eq token]

theorem Agree.toDocument_eq : s₁.toDocument true = s₂.toDocument true := by
  unfold toDocument
  rw [agree.shownValue_eq has₁ has₂]

end Shown

end RuleBound.Settings
