import RuleBound.Proofs.Document.RoundTrip

/-!
Which documents have a canonical text: those in which nothing is a double, no number is too long
and no text has half of a pair. The three checks that `canonical` makes one after the other look
at the document, at the document and at the finished text; here each is read as a property of every
document within it.

A document with a canonical text whose names are distinct is therefore one that a reader takes
back unchanged.
-/

namespace RuleBound

namespace Text

/-! ## Texts without halves -/

instance (s : String) : Decidable (IsWhole s) :=
  List.decidableBAll (fun c => isStandIn c = false) s.toList

theorem isWhole_append (s t : String) : IsWhole (s ++ t) ↔ IsWhole s ∧ IsWhole t := by
  simp only [IsWhole, String.toList_append, List.forall_mem_append]

theorem isWhole_intercalate {sep : String} (whole : IsWhole sep) (parts : List String) :
    IsWhole (sep.intercalate parts) ↔ ∀ p ∈ parts, IsWhole p := by
  induction parts with
  | nil =>
    rw [String.intercalate_nil]
    simp [IsWhole]
  | cons p parts ih =>
    cases parts with
    | nil =>
      rw [String.intercalate_singleton]
      simp
    | cons q parts =>
      rw [String.intercalate_cons_cons, isWhole_append, isWhole_append, ih]
      simp [whole]

theorem surrogateDefect?_eq_none_iff (s : String) : surrogateDefect? s = none ↔ IsWhole s := by
  unfold surrogateDefect? IsWhole
  extract_lets cs rest
  cases head : rest.head? with
  | none =>
    have done : ∀ c ∈ cs, (!isStandIn c) = true :=
      List.dropWhile_eq_nil_iff.mp (List.head?_eq_none_iff.mp head)
    simpa [cs] using done
  | some c =>
    have standing : isStandIn c = true := by
      have stop := List.head?_dropWhile_not (fun c => !isStandIn c) cs
      rw [show List.dropWhile (fun c => !isStandIn c) cs = rest from rfl, head] at stop
      simpa using stop
    obtain ⟨u, half⟩ := Option.isSome_iff_exists.mp standing
    have mem : c ∈ cs := (List.dropWhile_sublist _).mem (List.mem_of_head? head)
    simp only [Option.bind_some, half, reduceCtorEq, false_iff, not_forall]
    exact ⟨c, mem, by simp [standing]⟩

end Text

namespace Document

theorem isStandIn_eq_false_of_isDigit {c : Char} (digit : c.isDigit = true) :
    Text.isStandIn c = false := by
  refine isStandIn_eq_false_of_lt ?_
  have top : c.toNat ≤ '9'.toNat := (Char.isDigit_iff_toNat.mp digit).2
  exact Nat.lt_of_le_of_lt top (by decide)

theorem isWhole_toString (n : Int) : Text.IsWhole (toString n) := by
  have digits : ∀ m, ∀ c ∈ Nat.toDigits 10 m, Text.isStandIn c = false :=
    fun m c mem => isStandIn_eq_false_of_isDigit (isDigit_of_mem_toDigits mem)
  cases n with
  | ofNat n => exact fun c mem => digits n c (toList_toString_ofNat n ▸ mem)
  | negSucc n =>
    unfold Text.IsWhole
    rw [toList_toString_negSucc, List.forall_mem_cons]
    exact ⟨by decide, digits (n + 1)⟩

theorem isStandIn_of_shortEscape? {c e : Char} (named : shortEscape? e = some c) :
    Text.isStandIn e = false := by
  by_contra standing
  rw [Bool.not_eq_false] at standing
  have apart : ∀ d : Char, Text.isStandIn d = false → e ≠ d := by
    rintro d whole rfl
    rw [whole] at standing
    cases standing
  unfold shortEscape? at named
  simp [apart '"' (by decide), apart '\\' (by decide), apart '/' (by decide),
    apart 'b' (by decide), apart 'f' (by decide), apart 'n' (by decide), apart 'r' (by decide),
    apart 't' (by decide)] at named

theorem isStandIn_of_mem_unitEscape {n : Nat} : ∀ c ∈ unitEscape n, Text.isStandIn c = false := by
  have digit : ∀ k < 16, Text.isStandIn (Text.hexDigit k) = false := by decide
  simp only [unitEscape, Text.hexDigits, List.nil_append, List.cons_append, List.forall_mem_cons,
    digit _ (Nat.mod_lt _ (by decide : 0 < 16)), List.not_mem_nil, false_implies, implies_true,
    and_true]
  decide

/-- Only a half is written with a half, if all characters are kept. -/
theorem forall_mem_jsonChar_iff (c : Char) :
    (∀ x ∈ jsonChar false c, Text.isStandIn x = false) ↔ Text.isStandIn c = false := by
  have form := jsonChar_form false c
  generalize jsonChar false c = written at form
  cases form with
  | short e number named whole =>
    have slash : Text.isStandIn '\\' = false := by decide
    simp [whole, slash, isStandIn_of_shortEscape? named]
  | unit small whole =>
    simp only [whole, iff_true]
    exact isStandIn_of_mem_unitEscape
  | half u ascii => cases ascii
  | pair ascii => cases ascii
  | plain => simp

theorem isWhole_jsonText (s : String) : Text.IsWhole (jsonText false s) ↔ Text.IsWhole s := by
  have quote : Text.isStandIn '"' = false := by decide
  simp only [Text.IsWhole, jsonText, String.toList_ofList, List.forall_mem_append,
    List.forall_mem_cons, List.forall_mem_flatMap, forall_mem_jsonChar_iff, quote, true_and]
  simp

theorem isWhole_bracketed (level : Nat) {opening closing : String}
    (whole : Text.IsWhole opening) (whole' : Text.IsWhole closing) (parts : List String) :
    Text.IsWhole (bracketed .canonical level opening closing parts) ↔
      ∀ p ∈ parts, Text.IsWhole p := by
  unfold bracketed
  by_cases none : parts.isEmpty = true
  · rw [if_pos none, Text.isWhole_append, List.isEmpty_iff.mp none]
    simp [whole, whole']
  · rw [if_neg none, if_neg (by decide), Text.isWhole_append, Text.isWhole_append,
      Text.isWhole_intercalate (by decide)]
    simp [whole, whole']

/-! ## The checks of a canonical text -/

/-- Whether a document is no double. -/
def IsExact : Document → Prop
  | .real _ => False
  | _ => True

/-- Whether a document is no number that is too long to be written. -/
def IsShort : Document → Prop
  | .integer n => n.natAbs < 10 ^ numeralLimit
  | _ => True

@[simp] theorem isShort_null : IsShort .null := trivial

@[simp] theorem isShort_bool (b : Bool) : IsShort (.bool b) := trivial

@[simp] theorem isShort_text (s : String) : IsShort (.text s) := trivial

@[simp] theorem isShort_list (items : List Document) : IsShort (.list items) := trivial

@[simp] theorem isShort_object (fields : List (String × Document)) : IsShort (.object fields) :=
  trivial

/-- Numbers of one digit are not too long. -/
theorem isShort_of_natAbs_lt {n : Int} (small : n.natAbs < 10) : IsShort (.integer n) :=
  Nat.lt_of_lt_of_le small (Nat.le_self_pow (by decide) 10)

@[simp] theorem isShort_zero : IsShort (.integer 0) := isShort_of_natAbs_lt (by decide)

@[simp] theorem isShort_one : IsShort (.integer 1) := isShort_of_natAbs_lt (by decide)

theorem realPathItems?_eq_none_iff {p : Document → Prop} {items : List Document}
    (each : ∀ c ∈ items, ∀ path, realPath? path c = none ↔ p c) (path : String) (index : Nat) :
    realPathItems? path index items = none ↔ ∀ c ∈ items, p c := by
  induction items generalizing index with
  | nil => simp [realPathItems?]
  | cons d items ih =>
    rw [List.forall_mem_cons] at each
    rw [realPathItems?, List.forall_mem_cons, ← ih each.2 (index + 1),
      ← each.1 (path ++ "[" ++ toString index ++ "]")]
    cases realPath? (path ++ "[" ++ toString index ++ "]") d <;> simp

theorem realPathFields?_eq_none_iff {p : Document → Prop} {fields : List (String × Document)}
    (each : ∀ f ∈ fields, ∀ path, realPath? path f.2 = none ↔ p f.2) (path : String) :
    realPathFields? path fields = none ↔ ∀ f ∈ fields, p f.2 := by
  induction fields with
  | nil => simp [realPathFields?]
  | cons f fields ih =>
    rw [List.forall_mem_cons] at each
    rw [realPathFields?, List.forall_mem_cons, ← ih each.2, ← each.1 (path ++ "." ++ f.1)]
    cases realPath? (path ++ "." ++ f.1) f.2 <;> simp

/-- There is no path to a double exactly if there is no double. -/
theorem realPath?_eq_none_iff (path : String) (d : Document) :
    realPath? path d = none ↔ Every IsExact d := by
  induction d using induction_children generalizing path with
  | step d ih =>
    rw [Every.iff_here_within]
    cases d with
    | real x => simp [realPath?, IsExact]
    | list items =>
      have each : ∀ c ∈ items, ∀ path, realPath? path c = none ↔ Every IsExact c :=
        fun c mem path => ih c mem path
      rw [realPath?, realPathItems?_eq_none_iff each]
      simp [IsExact, children]
    | object fields =>
      have each : ∀ f ∈ fields, ∀ path, realPath? path f.2 = none ↔ Every IsExact f.2 :=
        fun f mem path => ih f.2 (List.mem_map_of_mem mem) path
      rw [realPath?, realPathFields?_eq_none_iff each, children, List.forall_mem_map]
      simp only [IsExact, true_and]
    | _ => simp [realPath?, IsExact, children]

theorem hasLongNumeralItems_eq_any (items : List Document) :
    hasLongNumeralItems items = items.any hasLongNumeral := by
  induction items with
  | nil => rfl
  | cons d items ih => rw [hasLongNumeralItems, ih, List.any_cons]

theorem hasLongNumeralFields_eq_any (fields : List (String × Document)) :
    hasLongNumeralFields fields = fields.any fun f => hasLongNumeral f.2 := by
  induction fields with
  | nil => rfl
  | cons f fields ih => rw [hasLongNumeralFields, ih, List.any_cons]

/-- No number is found to be too long exactly if all are short. -/
theorem hasLongNumeral_eq_false_iff (d : Document) :
    d.hasLongNumeral = false ↔ Every IsShort d := by
  induction d using induction_children with
  | step d ih =>
    rw [Every.iff_here_within]
    cases d with
    | integer n => simp [hasLongNumeral, IsShort, children]
    | list items =>
      rw [hasLongNumeral, hasLongNumeralItems_eq_any, List.any_eq_false]
      simp only [Bool.not_eq_true, IsShort, true_and]
      exact forall₂_congr ih
    | object fields =>
      have each : ∀ f ∈ fields, f.2.hasLongNumeral = false ↔ Every IsShort f.2 :=
        fun f mem => ih f.2 (List.mem_map_of_mem mem)
      rw [hasLongNumeral, hasLongNumeralFields_eq_any, List.any_eq_false, children,
        List.forall_mem_map]
      simp only [Bool.not_eq_true, IsShort, true_and]
      exact forall₂_congr each
    | _ => simp [hasLongNumeral, IsShort, children]

/-- What holds of a fault, and of numbers that are too long, holds of the fault that shows a
document. -/
theorem faultShowing_of (P : Fault → Prop) {f : Fault} (shown : P f) (d : Document)
    (long : P (.numeralTooLong none)) : P (d.faultShowing f) := by
  unfold faultShowing
  split
  · exact long
  · exact shown

/-- The canonical layout of a document has half of a pair only where a text within it has. -/
theorem isWhole_write_iff (level : Nat) {d : Document} (exact : Every IsExact d) :
    Text.IsWhole (write .canonical level d) ↔ Whole d := by
  induction d using induction_children generalizing level with
  | step d ih =>
    have within := exact.within
    rw [Whole, Every.iff_here_within]
    cases d with
    | null => simp [write, HasWholeTexts, children, show Text.IsWhole "null" by decide]
    | bool b =>
      have word : Text.IsWhole (if b then "true" else "false") := by
        cases b <;> decide
      simp [write, HasWholeTexts, children, word]
    | integer n =>
      rw [write]
      simp only [isWhole_toString n, HasWholeTexts, children, List.not_mem_nil, false_implies,
        implies_true, and_true]
    | real x => exact exact.here.elim
    | text s =>
      rw [write, show JsonStyle.canonical.asciiOnly = false by rfl, isWhole_jsonText]
      simp [HasWholeTexts, children]
    | list items =>
      rw [write, writeItems_eq_map, isWhole_bracketed level (by decide) (by decide),
        List.forall_mem_map]
      simp only [HasWholeTexts, true_and]
      exact forall₂_congr fun c mem => ih c mem (level + 1) (within c mem)
    | object fields =>
      have each : ∀ f ∈ fields, Text.IsWhole (write .canonical (level + 1) f.2) ↔ Whole f.2 :=
        fun f mem => ih f.2 (List.mem_map_of_mem mem) (level + 1)
          (within f.2 (List.mem_map_of_mem mem))
      have colon : Text.IsWhole JsonStyle.canonical.colon := by decide
      have text : ∀ f ∈ fields, Text.IsWhole (fieldText .canonical level f) ↔
          Text.IsWhole f.1 ∧ Whole f.2 := by
        intro f mem
        rw [fieldText, Text.isWhole_append, Text.isWhole_append, each f mem,
          show JsonStyle.canonical.asciiOnly = false by rfl, isWhole_jsonText]
        simp only [colon, and_true]
      rw [write_object, isWhole_bracketed level (by decide) (by decide), List.forall_mem_map,
        children, List.forall_mem_map, HasWholeTexts, ← forall₂_and]
      simp only [(JsonStyle.canonical.order_perm fields).mem_iff]
      exact forall₂_congr text

/-- Exactly the documents without doubles, overlong numbers and halves of pairs have a canonical
text, which is what the canonical style writes. -/
theorem canonical_eq_ok_iff (d : Document) (text : String) :
    d.canonical = .ok text ↔
      (Every IsExact d ∧ Every IsShort d ∧ Whole d) ∧ text = d.toJson .canonical := by
  unfold canonical
  cases double : realPath? "" d with
  | some path =>
    have unmet : ¬ Every IsExact d := by
      rw [← realPath?_eq_none_iff "", double]
      simp
    simp [unmet]
  | none =>
    have exact := (realPath?_eq_none_iff "" d).mp double
    rw [← hasLongNumeral_eq_false_iff]
    cases long : d.hasLongNumeral with
    | true => simp
    | false =>
      rw [← isWhole_write_iff 0 exact, ← Text.surrogateDefect?_eq_none_iff]
      unfold toJson
      cases defect : Text.surrogateDefect? (write .canonical 0 d) with
      | some half => simp [defect]
      | none => simp [defect, exact, eq_comm]

/-- Whether a document can be written, apart from the documents within it. -/
def IsWritable (d : Document) : Prop := IsExact d ∧ IsShort d ∧ HasWholeTexts d

theorem isWritable_text (s : String) : IsWritable (.text s) ↔ Text.IsWhole s := by
  simp [IsWritable, IsExact, HasWholeTexts]

theorem isWritable_integer (n : Int) : IsWritable (.integer n) ↔ IsShort (.integer n) := by
  simp [IsWritable, IsExact, HasWholeTexts]

theorem isWritable_bool (b : Bool) : IsWritable (.bool b) := ⟨trivial, trivial, trivial⟩

theorem isWritable_list (items : List Document) : IsWritable (.list items) :=
  ⟨trivial, trivial, trivial⟩

theorem isWritable_object (fields : List (String × Document)) :
    IsWritable (.object fields) ↔ ∀ f ∈ fields, Text.IsWhole f.1 := by
  simp [IsWritable, IsExact, HasWholeTexts]

theorem every_isWritable_iff {d : Document} :
    Every IsWritable d ↔ Every IsExact d ∧ Every IsShort d ∧ Whole d :=
  ⟨fun writable => ⟨writable.mono fun _ here => here.1, writable.mono fun _ here => here.2.1,
    writable.mono fun _ here => here.2.2⟩,
    fun ⟨exact, short, whole⟩ => exact.and (short.and whole)⟩

/-- What can be written throughout has a canonical text. -/
theorem canonical_of_writable {d : Document} (writable : Every IsWritable d) :
    d.canonical = .ok (d.toJson .canonical) :=
  (canonical_eq_ok_iff ..).mpr ⟨every_isWritable_iff.mp writable, rfl⟩

/-- Whether names are distinct, in an object apart from the documents within it. -/
def HasDistinctNames : Document → Prop
  | .object fields => (fields.map Prod.fst).Nodup
  | _ => True

/-- Whether a document is no double and its names are whole and distinct, apart from the documents
within it. -/
def IsOrderly : Document → Prop
  | .real _ => False
  | .object fields => (fields.map Prod.fst).Nodup ∧ ∀ f ∈ fields, Text.IsWhole f.1
  | _ => True

/-- What is orderly and has no number that is too long is readable. -/
theorem readable_of_orderly {d : Document} (orderly : Every IsOrderly d) (short : Every IsShort d) :
    Readable d := by
  refine (orderly.and short).mono fun c ⟨orderly, short⟩ => ?_
  cases c with
  | integer n => exact short
  | real x => exact orderly
  | object fields => exact orderly
  | _ => trivial

/-- What is exact and whole and has distinct names is orderly. -/
theorem orderly_of_whole {d : Document} (exact : Every IsExact d) (whole : Whole d)
    (distinct : Every HasDistinctNames d) : Every IsOrderly d := by
  refine ((exact.and whole).and distinct).mono fun c ⟨⟨exact, whole⟩, names⟩ => ?_
  cases c with
  | real x => exact exact
  | object fields => exact ⟨names, whole⟩
  | _ => trivial

end Document

end RuleBound
