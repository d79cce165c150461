import Mathlib.Data.List.Basic
import RuleBound.Schema.Catalog

/-!
What fits a schema. `Schema.Fits` says what a schema demands of a document, demand by demand; a
document has no issues exactly if it fits, and so the place at which it stands does not matter.
-/

namespace RuleBound.Schema

mutual
/-- Whether a document does what a schema demands. A demand on objects, on lists or on texts is one
on nothing else. -/
def Fits : Schema → Document → Prop
  | .ofType type, d => type.holds d = true
  | .oneOf choices, d => ∃ c ∈ choices, d = .text c
  | .required names, .object fields => ∀ n ∈ names, ∃ d, Document.field? fields n = some d
  | .only names, .object fields => ∀ f ∈ fields, f.1 ∈ names
  | .property name schema, .object fields =>
    ∀ d, Document.field? fields name = some d → schema.Fits d
  | .items schema, .list ds => ∀ d ∈ ds, schema.Fits d
  | .minLength count, .text s => count ≤ s.length
  | .maxLength count, .text s => s.length ≤ count
  | .minimum bound, .integer n => bound ≤ n
  | .minimum bound, .real x => (Document.real x).compareNumbers? (.integer bound) ≠ some .lt
  | .hexText digits, .text s => Text.isHexText digits s = true
  | .all schemas, d => FitsAll schemas d
  | _, _ => True

/-- Whether a document does what each of several schemas demands. -/
def FitsAll : List Schema → Document → Prop
  | [], _ => True
  | s :: rest, d => s.Fits d ∧ FitsAll rest d
end

theorem extraNames_eq_nil_iff {names : List String} {fields : List (String × Document)} :
    extraNames names fields = [] ↔ ∀ f ∈ fields, f.1 ∈ names := by
  unfold extraNames
  extract_lets extra
  have sorted : extra.mergeSort (fun a b => decide (a ≤ b)) = [] ↔ extra = [] := by
    rw [← List.length_eq_zero_iff, List.length_mergeSort, List.length_eq_zero_iff]
  rw [List.map_eq_nil_iff, sorted, List.filter_eq_nil_iff]
  simp

theorem compareNumbers?_integer_ne_lt {n bound : Int} :
    (Document.integer n).compareNumbers? (.integer bound) ≠ some .lt ↔ bound ≤ n := by
  have order : (Document.integer n).compareNumbers? (.integer bound) = some (compare n bound) := rfl
  rw [order, Ne, Option.some.injEq, Int.compare_eq_lt, Int.not_lt]

mutual
/-- A document has no issues exactly if it fits the schema, wherever it stands. -/
theorem issues_eq_nil_iff (place : List String) :
    ∀ (schema : Schema) (d : Document), schema.issues place d = [] ↔ schema.Fits d
  | .ofType type, d => by
    rw [issues, Fits]
    split <;> simp [*]
  | .oneOf choices, d => by
    rw [issues, Fits]
    split
    · next found => simpa using found
    · next missing => simpa using missing
  | .required names, d => by
    cases d with
    | object fields =>
      rw [issues, Fits, List.map_eq_nil_iff, List.filter_eq_nil_iff]
      simp [Option.isNone_iff_eq_none, Option.ne_none_iff_exists']
    | _ => simp [issues, Fits]
  | .only names, d => by
    cases d with
    | object fields =>
      rw [issues, Fits, ← extraNames_eq_nil_iff]
      cases extraNames names fields with
      | nil => simp
      | cons n rest => cases rest <;> simp
    | _ => simp [issues, Fits]
  | .property name schema, d => by
    cases d with
    | object fields =>
      rw [issues, Fits]
      cases Document.field? fields name with
      | none => simp
      | some d => simpa using issues_eq_nil_iff (place ++ [name]) schema d
    | _ => simp [issues, Fits]
  | .items schema, d => by
    cases d with
    | list ds =>
      have each := fun (d : Document) (i : Nat) =>
        issues_eq_nil_iff (place ++ [toString i]) schema d
      rw [issues, Fits, List.flatten_eq_nil_iff, List.forall_mem_map]
      constructor
      · intro none d mem
        obtain ⟨k, small, rfl⟩ := List.getElem_of_mem mem
        exact (each _ k).mp (none (ds[k], k) (List.mem_zipIdx_iff_getElem?.mpr
          (List.getElem?_eq_getElem small)))
      · intro all p mem
        exact (each p.1 p.2).mpr (all p.1 (List.fst_mem_of_mem_zipIdx mem))
    | _ => simp [issues, Fits]
  | .minLength count, d => by
    cases d with
    | text s =>
      rw [issues, Fits]
      split <;> simp <;> omega
    | _ => simp [issues, Fits]
  | .maxLength count, d => by
    cases d with
    | text s =>
      rw [issues, Fits]
      split <;> simp <;> omega
    | _ => simp [issues, Fits]
  | .minimum bound, d => by
    cases d with
    | integer n =>
      rw [issues, Fits, ← compareNumbers?_integer_ne_lt]
      simp
    | real x =>
      rw [issues, Fits]
      simp
    | _ => simp [issues, Fits]
  | .hexText digits, d => by
    cases d with
    | text s =>
      rw [issues, Fits]
      split <;> simp [*]
    | _ => simp [issues, Fits]
  | .all schemas, d => by
    rw [issues, Fits]
    exact issuesOfAll_eq_nil_iff place schemas d

theorem issuesOfAll_eq_nil_iff (place : List String) :
    ∀ (schemas : List Schema) (d : Document),
      issuesOfAll place schemas d = [] ↔ FitsAll schemas d
  | [], d => by simp [issuesOfAll, FitsAll]
  | s :: rest, d => by
    rw [issuesOfAll, FitsAll, List.append_eq_nil_iff, issues_eq_nil_iff place s d,
      issuesOfAll_eq_nil_iff place rest d]
end

theorem report_eq_nil_iff (schema : Schema) (d : Document) :
    schema.report d = [] ↔ schema.Fits d := by
  rw [← issues_eq_nil_iff [], report, List.map_eq_nil_iff, ← List.length_eq_zero_iff,
    List.length_mergeSort, List.length_eq_zero_iff]

end RuleBound.Schema
