import RuleBound.Proofs.Document.Distinct
import RuleBound.Proofs.Document.Number

/-!
Documents that are the same up to the order of fields. The canonical text of a document says no
more than that and no less: a reader that took the text would give each of the two as `reread`
describes, so documents with one text are the same, and those that are the same agree in the sense
in which values are compared.

Reading a canonical text gives a document of the same text, and a document that is read once more is
the same again. So two documents have one canonical text exactly if they are the same up to the order
of fields.
-/

namespace RuleBound.Document

/-- Whether two documents are the same but for the order of fields, at every level. -/
def SameFields (d e : Document) : Prop := d.reread .canonical = e.reread .canonical

theorem JsonStyle.isSeparating_canonical : JsonStyle.canonical.IsSeparating where
  comma := ⟨[], rfl, .nil⟩
  colon := ⟨[], rfl, .nil⟩

/-- Whether a document is exact and whole, and its names are distinct: such a document is known by
its canonical text. -/
def IsKnown : Document → Prop
  | .real _ => False
  | .text s => Text.IsWhole s
  | .object fields => (fields.map Prod.fst).Nodup ∧ ∀ f ∈ fields, Text.IsWhole f.1
  | _ => True

/-- A document with a canonical text is known by it if its names are distinct. -/
theorem known_of_canonical {d : Document} {text : String} (written : d.canonical = .ok text)
    (distinct : Every HasDistinctNames d) : Every IsKnown d := by
  obtain ⟨⟨exact, -, whole⟩, -⟩ := (canonical_eq_ok_iff ..).mp written
  refine ((exact.and whole).and distinct).mono fun c ⟨⟨exact, whole⟩, names⟩ => ?_
  cases c with
  | real x => exact exact
  | text s => exact whole
  | object fields => exact ⟨names, whole⟩
  | _ => trivial

/-- Documents with one canonical text are the same. -/
theorem sameFields_of_canonical {d e : Document} {text : String}
    (written : d.canonical = .ok text) (written' : e.canonical = .ok text)
    (distinct : Every HasDistinctNames d) (distinct' : Every HasDistinctNames e) :
    SameFields d e := by
  obtain ⟨⟨exact, short, whole⟩, rfl⟩ := (canonical_eq_ok_iff ..).mp written
  obtain ⟨⟨exact', short', whole'⟩, same⟩ := (canonical_eq_ok_iff ..).mp written'
  have read := parse_toJson JsonStyle.isSeparating_canonical
    (readable_of_orderly (orderly_of_whole exact whole distinct) short)
  have read' := parse_toJson JsonStyle.isSeparating_canonical
    (readable_of_orderly (orderly_of_whole exact' whole' distinct') short')
  rw [same, read'] at read
  exact (Except.ok.inj read).symm

/-! ## Fields -/

/-- An object whose names are whole is read back as its fields in order, each value as it is read
back. -/
theorem reread_canonical_object {fields : List (String × Document)}
    (whole : ∀ f ∈ fields, Text.IsWhole f.1) :
    reread .canonical (.object fields) = .object ((JsonStyle.canonical.order fields).map
      fun f => (f.1, reread .canonical f.2)) := by
  rw [reread_object]
  congr 1
  refine List.map_congr_left fun f mem => ?_
  rw [(whole f ((JsonStyle.canonical.order_perm fields).mem_iff.mp mem)).reread_eq]

/-- What stands in a field of a readable document is read back in that field. -/
theorem get?_reread (style : JsonStyle) {d : Document} (readable : Readable d) (name : String)
    {value : Document} (found : d.get? name = some value) :
    (d.reread style).get? name = some (value.reread style) := by
  cases d with
  | object fields =>
    obtain ⟨distinct, whole⟩ := readable.here
    have mem := mem_of_field? found
    have perm := style.order_perm fields
    have names : (style.order fields).map (fun f => Text.reread style.asciiOnly f.1) =
        (style.order fields).map Prod.fst :=
      List.map_congr_left fun f mem => (whole f (perm.mem_iff.mp mem)).reread_eq style.asciiOnly
    have within := List.mem_map_of_mem
      (f := fun f => (Text.reread style.asciiOnly f.1, reread style f.2)) (perm.mem_iff.mpr mem)
    rw [(whole _ mem).reread_eq] at within
    rw [reread_object]
    refine field?_eq_some_of_mem ?_ within
    rw [List.map_map]
    exact names ▸ (perm.map Prod.fst).nodup_iff.mpr distinct
  | _ => cases found

section Objects

variable {fs gs : List (String × Document)} (same : SameFields (.object fs) (.object gs))
  (known : IsKnown (.object fs)) (known' : IsKnown (.object gs))

include same known known'

/-- Objects that are the same have the same fields. -/
theorem SameFields.exists_mem {f : String × Document} (mem : f ∈ fs) :
    ∃ g ∈ gs, g.1 = f.1 ∧ SameFields f.2 g.2 := by
  rw [SameFields, reread_canonical_object known.2, reread_canonical_object known'.2] at same
  have within := List.mem_map_of_mem (f := fun f => (f.1, reread .canonical f.2))
    ((JsonStyle.canonical.order_perm fs).mem_iff.mpr mem)
  rw [object.inj same] at within
  obtain ⟨g, within, equal⟩ := List.mem_map.mp within
  refine ⟨g, (JsonStyle.canonical.order_perm gs).mem_iff.mp within, (Prod.mk.inj equal).1, ?_⟩
  exact (Prod.mk.inj equal).2.symm

theorem SameFields.length_eq : fs.length = gs.length := by
  rw [SameFields, reread_canonical_object known.2, reread_canonical_object known'.2] at same
  have equal := congrArg List.length (object.inj same)
  rwa [List.length_map, List.length_map, (JsonStyle.canonical.order_perm fs).length_eq,
    (JsonStyle.canonical.order_perm gs).length_eq] at equal

end Objects

/-- What stands in a field of a document stands in that field of one that is the same. -/
theorem SameFields.get? {d e part : Document} (same : SameFields d e) (known : Every IsKnown d)
    (known' : Every IsKnown e) {name : String} (found : d.get? name = some part) :
    ∃ part', e.get? name = some part' ∧ SameFields part part' ∧ Every IsKnown part ∧
      Every IsKnown part' := by
  cases d with
  | object fs =>
    cases e with
    | object gs =>
      have mem := mem_of_field? found
      obtain ⟨g, mem', rfl, alike⟩ := same.exists_mem known.here known'.here mem
      exact ⟨g.2, field?_eq_some_of_mem known'.here.1 mem', alike,
        known.within _ (List.mem_map_of_mem (f := Prod.snd) mem),
        known'.within _ (List.mem_map_of_mem (f := Prod.snd) mem')⟩
    | _ => simp [SameFields, reread] at same
  | _ => cases found

/-- What has no parts is the same as itself only. -/
theorem SameFields.eq_of_isScalar {d e : Document} (same : SameFields d e) (known : IsKnown d)
    (known' : IsKnown e) (alone : d.isScalar = true) : d = e := by
  have fixed : ∀ d : Document, IsKnown d → d.isScalar = true → d.reread .canonical = d := by
    intro d known alone
    cases d with
    | text s => rw [reread, Text.IsWhole.reread_eq known]
    | list | object => cases alone
    | _ => rw [reread]; all_goals simp
  have alone' : e.isScalar = true := by
    cases e with
    | list items =>
      rw [SameFields, fixed d known alone, reread] at same
      cases same
      cases alone
    | object fields =>
      rw [SameFields, fixed d known alone, reread_object] at same
      cases same
      cases alone
    | _ => rfl
  rw [← fixed d known alone, same, fixed e known' alone']

theorem isScalar_of_isNumber {d : Document} {n : Int} (number : d.isNumber n = true) :
    d.isScalar = true := by
  cases d with
  | list | object => simp [isNumber, Document.agrees] at number
  | _ => rfl

/-- A digit has no long number in it, in whatever numeric type. -/
theorem hasLongNumeral_of_isNumber {d : Document} {n : Int} (number : d.isNumber n = true)
    (digit : n.natAbs < 10) : d.hasLongNumeral = false := by
  cases d with
  | integer k =>
    rw [isNumber_integer] at number
    rw [eq_of_beq number, hasLongNumeral_eq_false_iff, Every.integer_iff]
    exact isShort_of_natAbs_lt digit
  | list | object => cases isScalar_of_isNumber number
  | _ => rfl

/-! ## Agreement -/

theorem agreesItems_of_forall {items items' : List Document} (length : items.length = items'.length)
    (each : ∀ p ∈ items.zip items', agrees p.1 p.2 = true) : agreesItems items items' = true := by
  induction items generalizing items' with
  | nil =>
    rw [List.length_eq_zero_iff.mp length.symm]
    rfl
  | cons d items ih =>
    cases items' with
    | nil => cases length
    | cons e items' =>
      rw [List.zip_cons_cons, List.forall_mem_cons] at each
      rw [agreesItems, each.1, ih (Nat.succ.inj length) each.2]
      rfl

theorem agreesFields_of_forall {fs gs : List (String × Document)}
    (each : ∀ f ∈ fs, ∃ v, field? gs f.1 = some v ∧ agrees f.2 v = true) :
    agreesFields fs gs = true := by
  induction fs with
  | nil => rfl
  | cons f fs ih =>
    rw [List.forall_mem_cons] at each
    obtain ⟨⟨v, found, agree⟩, rest⟩ := each
    rw [agreesFields, ih rest, found]
    simpa using agree

theorem typeName_reread (style : JsonStyle) (d : Document) :
    (d.reread style).typeName = d.typeName := by
  cases d <;> simp only [reread, typeName]

theorem SameFields.typeName_eq {d e : Document} (same : SameFields d e) :
    d.typeName = e.typeName := by
  rw [← typeName_reread .canonical d, same, typeName_reread]

/-- Documents that are the same agree, if they are known by their texts. -/
theorem SameFields.agrees {d e : Document} (same : SameFields d e) (known : Every IsKnown d)
    (known' : Every IsKnown e) : d.agrees e = true := by
  induction d using induction_children generalizing e with
  | step d ih =>
    have kind := same.typeName_eq
    cases d with
    | null =>
      cases e with
      | null => rfl
      | _ => simp [typeName] at kind
    | bool b =>
      cases e with
      | bool c =>
        cases same
        cases b <;> rfl
      | _ => simp [typeName] at kind
    | integer n =>
      cases e with
      | integer m =>
        cases same
        simp [Document.agrees, compareNumbers?, numeric?, Numeric.compare?]
      | _ => simp [typeName] at kind
    | real x => exact known.here.elim
    | text s =>
      cases e with
      | text t =>
        rw [SameFields, reread, reread, Text.IsWhole.reread_eq known.here,
          Text.IsWhole.reread_eq known'.here] at same
        rw [Document.agrees, text.inj same, beq_self_eq_true]
      | _ => simp [typeName] at kind
    | list items =>
      cases e with
      | list items' =>
        rw [SameFields, reread, reread, rereadItems_eq_map, rereadItems_eq_map] at same
        replace same := list.inj same
        have length : items.length = items'.length := by
          simpa using congrArg List.length same
        rw [Document.agrees]
        refine agreesItems_of_forall length fun p mem => ?_
        obtain ⟨i, here, rfl⟩ := List.mem_iff_getElem.mp mem
        rw [List.length_zip] at here
        rw [List.getElem_zip]
        have left : i < items.length := by omega
        have right : i < items'.length := by omega
        have both := congrArg (fun l => l[i]?) same
        have alike : SameFields items[i] items'[i] := by
          rw [SameFields]
          simpa [left, right] using both
        exact ih _ (List.getElem_mem left) alike (known.within _ (List.getElem_mem left))
          (known'.within _ (List.getElem_mem right))
      | _ => simp [typeName] at kind
    | object fs =>
      cases e with
      | object gs =>
        rw [Document.agrees, Bool.and_eq_true, beq_iff_eq]
        refine ⟨same.length_eq known.here known'.here, agreesFields_of_forall fun f mem => ?_⟩
        have child : f.2 ∈ (object fs).children := List.mem_map_of_mem mem
        obtain ⟨g, within, named, alike⟩ := same.exists_mem known.here known'.here mem
        have child' : g.2 ∈ (object gs).children := List.mem_map_of_mem within
        refine ⟨g.2, named ▸ field?_eq_some_of_mem known'.here.1 within, ?_⟩
        exact ih f.2 child alike (known.within _ child) (known'.within _ child')
      | _ => simp [typeName] at kind

/-! ## The canonical text as a form -/

/-- Fields that are in order stay so. -/
theorem JsonStyle.order_order {α : Type} (style : JsonStyle) (fields : List (String × α)) :
    style.order (style.order fields) = style.order fields := by
  unfold order
  by_cases sorted : style.sorted = true
  · rw [if_pos sorted, if_pos sorted]
    refine List.mergeSort_of_pairwise (List.pairwise_mergeSort (fun a b c => ?_) (fun a b => ?_) _)
    · simpa using fun ab bc => le_trans ab bc
    · simpa using le_total a.1 b.1
  · rw [if_neg sorted, if_neg sorted]

/-- What holds of all documents within one holds of all within what is read back, if it passes from
each of them to what is read back of it. -/
theorem Every.reread {p : Document → Prop} {d : Document}
    (every : Every p d) (whole : Whole d)
    (passes : ∀ c, HasWholeTexts c → p c → p (c.reread .canonical)) :
    Every p (d.reread .canonical) := by
  induction d using induction_children with
  | step d ih =>
    have within : ∀ c ∈ d.children, Every p (c.reread .canonical) := fun c mem =>
      ih c mem (every.within c mem) (whole.within c mem)
    refine .intro (passes d whole.here every.here) fun c mem => ?_
    cases d with
    | list items =>
      rw [Document.reread, rereadItems_eq_map, children] at mem
      obtain ⟨item, there, rfl⟩ := List.mem_map.mp mem
      exact within item there
    | object fields =>
      rw [reread_canonical_object whole.here, children, List.map_map] at mem
      obtain ⟨f, there, rfl⟩ := List.mem_map.mp mem
      exact within f.2 (List.mem_map_of_mem
        ((JsonStyle.canonical.order_perm fields).mem_iff.mp there))
    | _ => simp [Document.reread, children] at mem

section Whole

variable {d : Document} (whole : Whole d)

include whole

theorem exact_reread (exact : Every IsExact d) : Every IsExact (d.reread .canonical) := by
  refine exact.reread whole fun c _ here => ?_
  cases c with
  | real x => exact here
  | _ => trivial

theorem short_reread (short : Every IsShort d) : Every IsShort (d.reread .canonical) := by
  refine short.reread whole fun c _ here => ?_
  cases c with
  | integer n => exact here
  | _ => trivial

theorem whole_reread : Whole (d.reread .canonical) := by
  refine whole.reread whole fun c here _ => ?_
  cases c with
  | text s =>
    rw [reread, Text.IsWhole.reread_eq here]
    exact here
  | object fields =>
    rw [reread_canonical_object here, HasWholeTexts, List.forall_mem_map]
    exact fun f mem => here f ((JsonStyle.canonical.order_perm fields).mem_iff.mp mem)
  | _ => trivial

theorem distinct_reread (distinct : Every HasDistinctNames d) :
    Every HasDistinctNames (d.reread .canonical) := by
  refine distinct.reread whole fun c here names => ?_
  cases c with
  | object fields =>
    rw [reread_canonical_object here, HasDistinctNames, List.map_map]
    exact ((JsonStyle.canonical.order_perm fields).map Prod.fst).nodup_iff.mpr names
  | _ => trivial

/-- What is read back is written as before. -/
theorem write_reread (level : Nat) :
    write .canonical level (d.reread .canonical) = write .canonical level d := by
  induction d using induction_children generalizing level with
  | step d ih =>
    have here := whole.here
    cases d with
    | text s => rw [reread, Text.IsWhole.reread_eq here]
    | list items =>
      rw [reread, rereadItems_eq_map, write, write, writeItems_eq_map, writeItems_eq_map,
        List.map_map]
      congr 1
      exact List.map_congr_left fun c mem => ih c mem (whole.within c mem) (level + 1)
    | object fields =>
      rw [reread_canonical_object here, write_object, write_object,
        JsonStyle.order_map .canonical fun f : String × Document => reread .canonical f.2,
        JsonStyle.order_order, List.map_map]
      congr 1
      refine List.map_congr_left fun f mem => ?_
      have child : f.2 ∈ (object fields).children :=
        List.mem_map_of_mem ((JsonStyle.canonical.order_perm fields).mem_iff.mp mem)
      rw [Function.comp_apply, fieldText, fieldText, ih f.2 child (whole.within _ child)]
    | _ => rfl

end Whole

/-- What is read back from a canonical text has that text. -/
theorem canonical_reread {d : Document} {text : String} (written : d.canonical = .ok text) :
    (d.reread .canonical).canonical = .ok text := by
  obtain ⟨⟨exact, short, whole⟩, rfl⟩ := (canonical_eq_ok_iff ..).mp written
  refine (canonical_eq_ok_iff ..).mpr
    ⟨⟨exact_reread whole exact, short_reread whole short, whole_reread whole⟩, ?_⟩
  rw [toJson, toJson, write_reread whole]

/-- Documents with canonical texts have one text exactly if they are the same. -/
theorem canonical_eq_iff_sameFields {d e : Document} {text text' : String}
    (written : d.canonical = .ok text) (written' : e.canonical = .ok text')
    (distinct : Every HasDistinctNames d) (distinct' : Every HasDistinctNames e) :
    text = text' ↔ SameFields d e := by
  constructor
  · rintro rfl
    exact sameFields_of_canonical written written' distinct distinct'
  · intro same
    have read := canonical_reread written
    rw [same, canonical_reread written'] at read
    exact (Except.ok.inj read).symm

end RuleBound.Document
