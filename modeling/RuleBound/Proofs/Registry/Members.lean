import Mathlib.Algebra.Order.BigOperators.Group.List
import Mathlib.Data.List.Basic
import Mathlib.Data.List.Perm.Subperm
import Mathlib.Data.String.Basic
import RuleBound.Registry.Record
import RuleBound.Proofs.Sequencing

/-!
Whitelists of texts as sets. A set of texts is a list without repetition, made by `distinct` and
put in order by `sorted`; the two functions on documents that records use for it agree with these
and are no faults.
-/

namespace RuleBound

namespace Members

/-- Texts that are known, and then those of others that are new. -/
def distinctAfter (known texts : List String) : List String :=
  texts.foldl (fun known s => if s ∈ known then known else known ++ [s]) known

/-- Texts, each once, in the order in which they first occur. -/
def distinct (texts : List String) : List String := distinctAfter [] texts

/-- Texts in order. -/
def sorted (texts : List String) : List String := texts.mergeSort fun s t => decide (s ≤ t)

/-- Texts as documents. -/
def documents (texts : List String) : List Document := texts.map .text

/-- The texts among documents. -/
def texts (ds : List Document) : List String := ds.filterMap Document.asText?

@[simp] theorem texts_documents (ts : List String) : texts (documents ts) = ts := by
  simp [texts, documents, List.filterMap_map, Function.comp_def, Document.asText?]

theorem mem_documents {s : String} {texts : List String} :
    .text s ∈ documents texts ↔ s ∈ texts := by
  simp [documents]

theorem contains_documents (s : String) (texts : List String) :
    (documents texts).contains (.text s) = decide (s ∈ texts) := by
  rw [Bool.eq_iff_iff]
  simp [mem_documents]

theorem mapM_spelled_documents (texts : List String) :
    (documents texts).mapM Document.spelled = .ok texts := by
  have each : ∀ d ∈ documents texts, d.spelled = .ok d.shown := by
    intro d mem
    obtain ⟨s, -, rfl⟩ := List.mem_map.mp mem
    rfl
  rw [mapM_eq_ok_map each]
  simp [documents, Function.comp_def, Document.shown]

/-- Items are all shown as texts, or one has a long number in it. -/
theorem mapM_spelled_cases (items : List Document) :
    (∃ texts, items.mapM Document.spelled = .ok texts ∧ ∀ d ∈ items, d.hasLongNumeral = false) ∨
      items.mapM Document.spelled = .error (.numeralTooLong none) ∧
        ∃ d ∈ items, d.hasLongNumeral = true := by
  induction items with
  | nil => exact .inl ⟨[], rfl, List.forall_mem_nil _⟩
  | cons d items ih =>
    rw [List.mapM_cons]
    cases long : d.hasLongNumeral with
    | true =>
      have failed : d.spelled = .error (.numeralTooLong none) := by
        rw [Document.spelled, if_pos long]
      rw [failed]
      exact .inr ⟨rfl, d, List.mem_cons_self, long⟩
    | false =>
      have shown : d.spelled = .ok d.shown := by
        rw [Document.spelled, long, if_neg Bool.false_ne_true]
      rw [shown, ok_bind]
      rcases ih with ⟨texts, are, short⟩ | ⟨failed, e, mem, here⟩
      · rw [are]
        exact .inl ⟨_, rfl, List.forall_mem_cons.mpr ⟨long, short⟩⟩
      · rw [failed]
        exact .inr ⟨rfl, e, List.mem_cons_of_mem d mem, here⟩

/-! ## Each once -/

theorem mem_distinctAfter {s : String} {known texts : List String} :
    s ∈ distinctAfter known texts ↔ s ∈ known ∨ s ∈ texts := by
  induction texts generalizing known with
  | nil => simp [distinctAfter]
  | cons t texts ih =>
    change s ∈ distinctAfter (if t ∈ known then known else known ++ [t]) texts ↔ _
    rw [ih]
    by_cases old : t ∈ known
    · rw [if_pos old, List.mem_cons]
      exact ⟨Or.imp_right .inr, by rintro (before | rfl | later) <;> simp [*]⟩
    · rw [if_neg old, List.mem_append, List.mem_singleton, List.mem_cons, or_assoc]

theorem nodup_distinctAfter {known : List String} (nodup : known.Nodup) (texts : List String) :
    (distinctAfter known texts).Nodup := by
  induction texts generalizing known with
  | nil => exact nodup
  | cons t texts ih =>
    change (distinctAfter (if t ∈ known then known else known ++ [t]) texts).Nodup
    by_cases old : t ∈ known
    · rw [if_pos old]
      exact ih nodup
    · rw [if_neg old]
      have apart : ∀ s ∈ known, ∀ u ∈ [t], s ≠ u := by
        rintro s mem u mem' rfl
        rw [List.mem_singleton.mp mem'] at mem
        exact old mem
      exact ih (List.nodup_append.mpr ⟨nodup, by simp, apart⟩)

theorem distinctAfter_of_nodup {known texts : List String} (nodup : (known ++ texts).Nodup) :
    distinctAfter known texts = known ++ texts := by
  induction texts generalizing known with
  | nil => exact (List.append_nil known).symm
  | cons t texts ih =>
    change distinctAfter (if t ∈ known then known else known ++ [t]) texts = _
    have fresh : t ∉ known := fun old => (List.nodup_append.mp nodup).2.2 t old t (by simp) rfl
    rw [if_neg fresh, ih (by simpa using nodup)]
    simp

theorem mem_distinct {s : String} {texts : List String} : s ∈ distinct texts ↔ s ∈ texts :=
  mem_distinctAfter.trans (by simp)

theorem nodup_distinct (texts : List String) : (distinct texts).Nodup :=
  nodup_distinctAfter .nil texts

theorem distinct_of_nodup {texts : List String} (nodup : texts.Nodup) : distinct texts = texts :=
  distinctAfter_of_nodup ((List.nil_append texts).symm ▸ nodup)

/-- The set of texts that are given as documents. -/
theorem distinctMembers_documents (texts : List String) :
    distinctMembers (documents texts) = .ok (documents (distinct texts)) := by
  have scalars : (documents texts).all Document.isScalar = true := by
    simp [documents, Document.isScalar]
  have agrees : ∀ s known, (documents known).any (Document.text s).agrees = decide (s ∈ known) := by
    intro s known
    have same : ∀ t, (Document.text s).agrees (.text t) = (s == t) := fun _ => rfl
    rw [documents, List.any_map, Bool.eq_iff_iff]
    simp [Function.comp_def, same]
  have folds : ∀ known, (documents texts).foldl
      (fun known d => if known.any d.agrees then known else known ++ [d]) (documents known) =
        documents (distinctAfter known texts) := by
    induction texts with
    | nil => exact fun _ => rfl
    | cons t texts ih =>
      intro known
      replace ih := ih (by simp [documents, Document.isScalar])
      change List.foldl _ (if (documents known).any (Document.text t).agrees then documents known
        else documents known ++ [.text t]) (documents texts) =
          documents (distinctAfter (if t ∈ known then known else known ++ [t]) texts)
      rw [agrees]
      by_cases old : t ∈ known
      · rw [if_pos (decide_eq_true old), if_pos old]
        exact ih known
      · have grown : documents known ++ [.text t] = documents (known ++ [t]) := by
          simp [documents]
        rw [if_neg (by simpa using old), if_neg old, grown]
        exact ih (known ++ [t])
  unfold distinctMembers
  rw [if_pos scalars]
  exact congrArg Except.ok (folds [])

/-! ## In order -/

theorem sorted_perm (texts : List String) : (sorted texts).Perm texts :=
  List.mergeSort_perm texts _

theorem pairwise_sorted (texts : List String) : (sorted texts).Pairwise (· ≤ ·) := by
  have total : (sorted texts).Pairwise fun s t => decide (s ≤ t) = true :=
    List.pairwise_mergeSort (by simpa using fun a b c => le_trans) (by simpa using le_total) texts
  exact total.imp of_decide_eq_true

theorem sorted_eq_of_perm {texts others : List String} (perm : texts.Perm others) :
    sorted texts = sorted others := by
  have both : (sorted texts).Perm (sorted others) :=
    (sorted_perm texts).trans (perm.trans (sorted_perm others).symm)
  exact both.eq_of_pairwise (fun a b _ _ => le_antisymm) (pairwise_sorted texts)
    (pairwise_sorted others)

theorem sorted_sorted (texts : List String) : sorted (sorted texts) = sorted texts :=
  sorted_eq_of_perm (sorted_perm texts)

theorem mergeSort_documents (texts : List String) :
    (documents texts).mergeSort (fun a b => (memberBefore? a b).getD true) =
      documents (sorted texts) := by
  unfold documents sorted
  rw [List.map_mergeSort]
  intro s _ t _
  rfl

/-- Texts that are given as documents have an order. -/
theorem sortedMembers_documents (texts : List String) :
    sortedMembers (documents texts) = .ok (documents (sorted texts)) := by
  have comparable : ((documents texts).length < 2 || (documents texts).all fun d =>
      (memberBefore? ((documents texts).headD .null) d).isSome) = true := by
    cases texts with
    | nil => rfl
    | cons t texts => simp [documents, memberBefore?]
  unfold sortedMembers
  rw [if_pos comparable, mergeSort_documents]

/-! ## Sets that are carried along -/

theorem distinct_perm_of_length {texts : List String}
    (all : (distinct texts).length = texts.length) : (distinct texts).Perm texts :=
  (List.subperm_of_subset (nodup_distinct texts) fun _ mem => mem_distinct.mp mem).perm_of_length_le
    all.ge

/-- A function that makes shorter every text that it changes changes none, if it carries a set of
texts to itself. -/
theorem fixed_of_perm_map {f : String → String}
    (shortens : ∀ s, f s = s ∨ (f s).length < s.length) {texts : List String}
    (perm : (texts.map f).Perm texts) : ∀ s ∈ texts, f s = s := by
  intro s mem
  by_contra changed
  have fewer : ((texts.map f).map String.length).sum < (texts.map String.length).sum := by
    rw [List.map_map]
    refine List.sum_lt_sum _ _ (fun t _ => ?_) ⟨s, mem, (shortens s).resolve_left changed⟩
    rcases shortens t with same | shorter
    · exact (congrArg String.length same).le
    · exact shorter.le
  exact absurd (perm.map String.length).sum_eq (Nat.ne_of_lt fewer)

end Members

end RuleBound
