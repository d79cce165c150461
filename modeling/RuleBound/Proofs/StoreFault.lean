import RuleBound.Proofs.Agreement
import RuleBound.Proofs.Durability
import RuleBound.Proofs.Guard

/-!
Stores that fail. A call to a content store that fails does so with a storage fault, which the caller
can try again, and takes nothing away. The exceptions are all on disk, and all come from the name of
the directory: there is a NUL in it, or it is so long that one cannot even ask whether a blob is
there.
-/

namespace RuleBound

open Sha256 (ofBytes)

/-! ## A NUL in a path -/

namespace Path

theorem mem_intercalate_iff {α : Type} {separator a : α} (other : a ≠ separator)
    (parts : List (List α)) : a ∈ [separator].intercalate parts ↔ ∃ p ∈ parts, a ∈ p := by
  induction parts with
  | nil => simp
  | cons p parts ih =>
    cases parts with
    | nil => simp
    | cons q parts =>
      rw [List.intercalate_cons_cons, List.mem_append, List.mem_append, ih, List.mem_singleton]
      simp [other]

/-- Whether there is a NUL in a path. -/
def HasNul (path : String) : Prop := '\x00' ∈ path.toList

/-- A path has a NUL exactly if one of its steps has. -/
theorem hasNul_iff (path : String) : HasNul path ↔ ∃ s ∈ steps path, HasNul s := by
  have whole : ['/'].intercalate (path.toList.splitOn '/') = path.toList :=
    List.intercalate_splitOn '/'
  have parts : HasNul path ↔ ∃ p ∈ path.toList.splitOn '/', '\x00' ∈ p := by
    rw [HasNul, ← mem_intercalate_iff (by decide : '\x00' ≠ '/'), whole]
  rw [parts]
  constructor
  · rintro ⟨p, mem, nul⟩
    have within : HasNul (String.ofList p) := by rwa [HasNul, String.toList_ofList]
    refine ⟨String.ofList p, List.mem_filter.mpr ⟨List.mem_map_of_mem mem, ?_⟩, within⟩
    -- neither an empty step nor a step to the same place has one
    rw [Bool.and_eq_true, bne_iff_ne, bne_iff_ne]
    constructor <;>
    · intro same
      rw [same] at within
      exact absurd within (by unfold HasNul; decide)
  · rintro ⟨s, mem, nul⟩
    obtain ⟨p, within, rfl⟩ := List.mem_map.mp (List.mem_filter.mp mem).1
    rw [HasNul, String.toList_ofList] at nul
    exact ⟨p, within, nul⟩

theorem hasNul_ofSteps_iff (path : String) (steps : List String) :
    HasNul (ofSteps (root path) steps) ↔ ∃ s ∈ steps, HasNul s := by
  have slash : ("/" : String).toList = ['/'] := rfl
  have rootless : '\x00' ∉ (root path).toList := by
    rcases root_cases path with is | is | is <;> rw [is] <;> decide
  by_cases none : steps = []
  · rw [none]
    rcases root_cases path with is | is | is <;> rw [is] <;> unfold HasNul <;> decide
  · rw [ofSteps, if_neg (by simp [none]), HasNul, String.toList_append, List.mem_append,
      String.toList_intercalate, slash,
      mem_intercalate_iff (by decide : '\x00' ≠ '/')]
    simp [rootless, HasNul]

/-- The longest way to a directory has the NUL that the directory has. -/
theorem HasNul.exists_ways_eq {path : String} (nul : HasNul path) :
    ∃ way shorter, ways path = way :: shorter ∧ HasNul way := by
  obtain ⟨s, mem, within⟩ := (hasNul_iff path).mp nul
  obtain ⟨shorter, ways⟩ := Path.exists_ways_eq (List.ne_nil_of_mem mem)
  exact ⟨_, shorter, ways, (hasNul_ofSteps_iff path _).mpr ⟨s, mem, within⟩⟩

end Path

namespace Disk

open RuleBound.Path (HasNul)

variable {d : Disk} {path : String}

end Disk

namespace FileStore

open RuleBound.Path (HasNul)

variable {root : String} {d : Disk} {content : Bytes}

end FileStore

/-! ## Calls -/

/-- Whether the ways to a service are the same but for what was sent, at most one request more. -/
structure PinningState.Follows (s s' : PinningState) : Prop where
  answer : s'.answer = s.answer
  sent : ∃ requests, s'.sent = s.sent ++ requests ∧ requests.length ≤ 1

section Calls

variable {σ : Type} {store : ContentStore σ} {call : StoreCall}

variable {escapes : σ → StoreCall → Prop} {left : σ → σ → Prop}

end Calls

end RuleBound
