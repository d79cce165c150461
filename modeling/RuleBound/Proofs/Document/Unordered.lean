import Mathlib.Algebra.Group.Int.Defs
import RuleBound.Proofs.Document.Sameness
import RuleBound.Proofs.Text.Utf8

/-!
Documents that are equal but for the order of fields. What a reader would make of a canonical text
decides it: sorting the fields of two such documents at every level gives one document, and a
document that is sorted is equal to the one that it was made from.

So the canonical text is a form of the document: it is read back as an equal document, and only
equal documents share it.
-/

namespace RuleBound.Document

/-- Whether two documents are equal but for the order of fields, at every level. What has no parts
is equal to itself only, so a truth value is equal to no number. -/
inductive EqualUnordered : Document → Document → Prop
  | scalar {d : Document} (alone : d.isScalar = true) : EqualUnordered d d
  | list {items items' : List Document} (each : List.Forall₂ EqualUnordered items items') :
    EqualUnordered (.list items) (.list items')
  | object {fs gs : List (String × Document)} (names : (fs.map Prod.fst).Perm (gs.map Prod.fst))
    (values : ∀ f ∈ fs, ∀ g ∈ gs, f.1 = g.1 → EqualUnordered f.2 g.2) :
    EqualUnordered (.object fs) (.object gs)

/-! ## Fields in order -/

section Fields

variable {α : Type} {fs gs : List (String × α)}

/-- Sorted fields are in one order exactly if they are the same fields. -/
theorem JsonStyle.order_eq_order_iff {style : JsonStyle} (sorted : style.sorted = true)
    (distinct : (gs.map Prod.fst).Nodup) : style.order fs = style.order gs ↔ fs.Perm gs := by
  constructor
  · intro same
    exact (style.order_perm fs).symm.trans (same ▸ style.order_perm gs)
  · exact order_eq_of_perm sorted distinct

/-- Fields with distinct names are the same exactly if they have the same names and under each name
the same value. -/
theorem perm_iff_of_nodup (distinct : (fs.map Prod.fst).Nodup) (distinct' : (gs.map Prod.fst).Nodup) :
    fs.Perm gs ↔ (fs.map Prod.fst).Perm (gs.map Prod.fst) ∧
      ∀ f ∈ fs, ∀ g ∈ gs, f.1 = g.1 → f.2 = g.2 := by
  constructor
  · intro perm
    refine ⟨perm.map Prod.fst, fun f mem g mem' named => ?_⟩
    rw [List.inj_on_of_nodup_map distinct' (perm.mem_iff.mp mem) mem' named]
  · rintro ⟨names, values⟩
    refine (List.perm_ext_iff_of_nodup distinct.of_map distinct'.of_map).mpr fun f => ⟨?_, ?_⟩
    · intro mem
      obtain ⟨g, mem', named⟩ := List.mem_map.mp (names.mem_iff.mp (List.mem_map_of_mem mem))
      rwa [Prod.ext named.symm (values f mem g mem' named.symm)]
    · intro mem
      obtain ⟨g, mem', named⟩ := List.mem_map.mp (names.mem_iff.mpr (List.mem_map_of_mem mem))
      rwa [Prod.ext named.symm (values g mem' f mem named).symm]

end Fields

theorem forall₂_iff_map_eq {α β γ : Type} {R : α → β → Prop} {f : α → γ} {g : β → γ} {as : List α}
    {bs : List β} (each : ∀ a ∈ as, ∀ b ∈ bs, R a b ↔ f a = g b) :
    List.Forall₂ R as bs ↔ as.map f = bs.map g := by
  induction as generalizing bs with
  | nil => cases bs <;> simp
  | cons a as ih =>
    cases bs with
    | nil => simp
    | cons b bs =>
      have here := each a List.mem_cons_self b List.mem_cons_self
      have rest := ih fun a mem b mem' =>
        each a (List.mem_cons_of_mem _ mem) b (List.mem_cons_of_mem _ mem')
      rw [List.forall₂_cons, List.map_cons, List.map_cons, List.cons.injEq, here, rest]

/-! ## Equality and sameness -/

theorem EqualUnordered.typeName_eq {d e : Document} (equal : EqualUnordered d e) :
    d.typeName = e.typeName := by
  cases equal <;> rfl

section Known

variable {fs gs : List (String × Document)} (known : IsKnown (.object fs))
  (known' : IsKnown (.object gs))

include known known'

/-- Objects are the same exactly if they have the same names and under each name the same. -/
theorem sameFields_object_iff : SameFields (.object fs) (.object gs) ↔
    (fs.map Prod.fst).Perm (gs.map Prod.fst) ∧
      ∀ f ∈ fs, ∀ g ∈ gs, f.1 = g.1 → SameFields f.2 g.2 := by
  let back (f : String × Document) : String × Document := (f.1, f.2.reread .canonical)
  have names : ∀ fields : List (String × Document),
      (fields.map back).map Prod.fst = fields.map Prod.fst := fun fields => by
    rw [List.map_map]
    rfl
  have ordered : ∀ fields : List (String × Document), (JsonStyle.canonical.order fields).map back =
      JsonStyle.canonical.order (fields.map back) := fun fields =>
    (JsonStyle.order_map .canonical (fun f : String × Document => f.2.reread .canonical) fields).symm
  rw [SameFields, reread_canonical_object known.2, reread_canonical_object known'.2, object.injEq]
  change (JsonStyle.canonical.order fs).map back = (JsonStyle.canonical.order gs).map back ↔ _
  rw [ordered, ordered, JsonStyle.order_eq_order_iff rfl (names gs ▸ known'.1),
    perm_iff_of_nodup (names fs ▸ known.1) (names gs ▸ known'.1), names, names]
  simp only [List.forall_mem_map]
  rfl

end Known

/-- Documents are equal but for the order of fields exactly if they are read back as one. -/
theorem equalUnordered_iff_sameFields {d e : Document} (known : Every IsKnown d)
    (known' : Every IsKnown e) : EqualUnordered d e ↔ SameFields d e := by
  induction d using induction_children generalizing e with
  | step d ih =>
    cases d with
    | list items =>
      cases e with
      | list items' =>
        have each : ∀ a ∈ items, ∀ b ∈ items', EqualUnordered a b ↔
            a.reread .canonical = b.reread .canonical := fun a mem b mem' =>
          ih a mem (known.within a mem) (known'.within b mem')
        rw [SameFields, reread, reread, rereadItems_eq_map, rereadItems_eq_map, list.injEq,
          ← forall₂_iff_map_eq each]
        refine ⟨fun equal => ?_, .list⟩
        cases equal with
        | scalar alone => cases alone
        | list each => exact each
      | _ =>
        exact ⟨fun equal => by simpa [typeName] using equal.typeName_eq,
          fun same => by simpa [typeName] using same.typeName_eq⟩
    | object fs =>
      cases e with
      | object gs =>
        have each : ∀ f ∈ fs, ∀ g ∈ gs, EqualUnordered f.2 g.2 ↔ SameFields f.2 g.2 := by
          intro f mem g mem'
          have child : f.2 ∈ (object fs).children := List.mem_map_of_mem mem
          have child' : g.2 ∈ (object gs).children := List.mem_map_of_mem mem'
          exact ih f.2 child (known.within _ child) (known'.within _ child')
        rw [sameFields_object_iff known.here known'.here]
        constructor
        · intro equal
          cases equal with
          | scalar alone => cases alone
          | object names values =>
            exact ⟨names, fun f mem g mem' named =>
              (each f mem g mem').mp (values f mem g mem' named)⟩
        · rintro ⟨names, values⟩
          exact .object names fun f mem g mem' named =>
            (each f mem g mem').mpr (values f mem g mem' named)
      | _ =>
        exact ⟨fun equal => by simpa [typeName] using equal.typeName_eq,
          fun same => by simpa [typeName] using same.typeName_eq⟩
    | _ =>
      refine ⟨fun equal => ?_, fun same => ?_⟩
      · cases equal
        rfl
      · rw [← same.eq_of_isScalar known.here known'.here rfl]
        exact .scalar rfl

/-! ## The canonical text as a form -/

theorem isValueFault_of_canonical {d : Document} {fault : Fault} (failed : d.canonical = .error fault) :
    fault.isValueFault = true := by
  unfold canonical at failed
  split at failed
  · cases failed
    rfl
  · split_ifs at failed
    · cases failed
      rfl
    · dsimp only at failed
      split at failed
      · cases failed
        rfl
      · cases failed

theorem canonical_of_long {n : Int} (long : 10 ^ numeralLimit ≤ n.natAbs) :
    (integer n).canonical = .error (.numeralTooLong none) := by
  have exact : Every IsExact (.integer n) := (Every.integer_iff _).mpr trivial
  have found : (integer n).hasLongNumeral = true := by rwa [hasLongNumeral, decide_eq_true_eq]
  simp only [canonical, (realPath?_eq_none_iff "" _).mpr exact, found, if_true]

/-- The first check is for doubles, so no other fault hides one. -/
theorem exists_realInCanonical_iff (d : Document) :
    (∃ path, d.canonical = .error (.realInCanonical path)) ↔ ¬ Every IsExact d := by
  rw [← realPath?_eq_none_iff "" d]
  constructor
  · rintro ⟨path, failed⟩ none
    unfold canonical at failed
    rw [none] at failed
    dsimp only at failed
    split_ifs at failed
    · cases failed
    · split at failed <;> cases failed
  · intro double
    obtain ⟨path, found⟩ := Option.ne_none_iff_exists'.mp double
    exact ⟨path, by rw [canonical, found]⟩

section Written

variable {d : Document} {text : String} (written : d.canonical = .ok text)
  (distinct : Every HasDistinctNames d)

include written distinct

theorem parse_canonical : parse text = .ok (d.reread .canonical) := by
  obtain ⟨⟨exact, short, whole⟩, rfl⟩ := (canonical_eq_ok_iff ..).mp written
  exact parse_toJson JsonStyle.isSeparating_canonical
    (readable_of_orderly (orderly_of_whole exact whole distinct) short)

/-- What is read back from a canonical text is equal to what was written. -/
theorem equalUnordered_reread : EqualUnordered (d.reread .canonical) d := by
  obtain ⟨⟨-, -, whole⟩, -⟩ := (canonical_eq_ok_iff ..).mp written
  have again := canonical_reread written
  have distinct' := distinct_reread whole distinct
  exact (equalUnordered_iff_sameFields (known_of_canonical again distinct')
    (known_of_canonical written distinct)).mpr
      (sameFields_of_canonical again written distinct' distinct)

end Written

/-- The canonical text is a form of a document. Exactly what holds no double, no number that is too
long to be written and no half of a pair has one; any other document is a bad value, and one with a
double is turned down for that. The bytes of the text are read back as an equal document with the
same text, and two documents have the same bytes exactly if they are equal but for the order of
fields. -/
theorem canonical_faithful {d : Document} (distinct : Every HasDistinctNames d) :
    ((∃ text, d.canonical = .ok text) ↔ Every IsExact d ∧ Every IsShort d ∧ Whole d) ∧
      (∀ fault, d.canonical = .error fault → fault.isValueFault = true) ∧
      ((∃ path, d.canonical = .error (.realInCanonical path)) ↔ ¬ Every IsExact d) ∧
      ∀ text, d.canonical = .ok text →
        (∃ e, Text.fromUtf8 (Text.utf8 text) = .ok text ∧ parse text = .ok e ∧ EqualUnordered e d ∧
          e.canonical = .ok text) ∧
        ∀ d' text', Every HasDistinctNames d' → d'.canonical = .ok text' →
          (Text.utf8 text = Text.utf8 text' ↔ EqualUnordered d d') := by
  refine ⟨?_, fun fault => isValueFault_of_canonical, exists_realInCanonical_iff d,
    fun text written => ⟨?_, fun d' text' distinct' written' => ?_⟩⟩
  · simp only [canonical_eq_ok_iff, exists_and_left, exists_eq, and_true]
  · exact ⟨_, Text.fromUtf8_utf8 text, parse_canonical written distinct,
      equalUnordered_reread written distinct, canonical_reread written⟩
  · rw [equalUnordered_iff_sameFields (known_of_canonical written distinct)
      (known_of_canonical written' distinct'),
      ← canonical_eq_iff_sameFields written written' distinct distinct']
    exact ⟨Text.utf8_injective, congrArg Text.utf8⟩

/-- Two objects with the same fields in two orders, one of them within a list. -/
theorem canonical_faithful_swapped :
    let d := list [object [("b", .text "\"é\n"), ("a", .list [.bool true, .integer 1])], .null]
    let d' := list [object [("a", .list [.bool true, .integer 1]), ("b", .text "\"é\n")], .null]
    Every HasDistinctNames d ∧ Every HasDistinctNames d' ∧ EqualUnordered d d' ∧
      ∃ text e, d.canonical = .ok text ∧ d'.canonical = .ok text ∧ parse text = .ok e ∧
        EqualUnordered e d := by
  intro d d'
  have distinct : Every HasDistinctNames d := by simp [d, HasDistinctNames]
  have distinct' : Every HasDistinctNames d' := by simp [d', HasDistinctNames]
  have whole : Text.IsWhole "a" ∧ Text.IsWhole "b" ∧ Text.IsWhole "\"é\n" := by decide
  obtain ⟨has, -, -, form⟩ := canonical_faithful distinct
  obtain ⟨has', -⟩ := canonical_faithful distinct'
  obtain ⟨text, written⟩ := has.mpr (by simp [d, IsExact, HasWholeTexts, whole])
  obtain ⟨text', written'⟩ := has'.mpr (by simp [d', IsExact, HasWholeTexts, whole])
  obtain ⟨⟨e, -, parsed, equal, -⟩, decides⟩ := form text written
  have swapped : EqualUnordered d d' := by
    refine .list (.cons (.object (List.Perm.swap ..) ?_) (.cons (.scalar rfl) .nil))
    have items : EqualUnordered (.list [.bool true, .integer 1]) (.list [.bool true, .integer 1]) :=
      .list (.cons (.scalar rfl) (.cons (.scalar rfl) .nil))
    have text : EqualUnordered (.text "\"é\n") (.text "\"é\n") := .scalar rfl
    simp [items, text]
  have same := Text.utf8_injective ((decides d' text' distinct' written').mpr swapped)
  exact ⟨distinct, distinct', swapped, text, e, written, same ▸ written', parsed, equal⟩

/-- A number of one digit more than can be written, and half of a pair on its own, are free of
doubles and yet have no canonical text. -/
theorem canonical_error_of_exact :
    (Every IsExact (.integer (10 ^ numeralLimit)) ∧
      (integer (10 ^ numeralLimit)).canonical = .error (.numeralTooLong none) ∧
      (Fault.numeralTooLong none).isValueFault = true) ∧
    Every IsExact (.text (String.singleton (Text.standIn 0xd800))) ∧
      (text (String.singleton (Text.standIn 0xd800))).canonical =
        .error (.notEncodable ⟨1, 1, 0xd800⟩) := by
  have exact : Every IsExact (.integer (10 ^ numeralLimit)) := (Every.integer_iff _).mpr trivial
  refine ⟨⟨exact, canonical_of_long ?_, rfl⟩, (Every.text_iff _).mpr trivial, by decide⟩
  simp [Int.natAbs_pow]

end RuleBound.Document
