import Mathlib.Data.List.Nodup
import RuleBound.Document.Coercion
import RuleBound.Proofs.Document.Canonical
import RuleBound.Proofs.Sequencing

/-!
Objects that are read have distinct names: the reader puts each field among those that it knows
already, so a name that comes again takes the place of the one before.
-/

namespace RuleBound.Document

/-- The names of fields are those known before, and perhaps the one that is put. -/
theorem names_putField (fields : List (String × Document)) (name : String) (value : Document) :
    (putField fields name value).map Prod.fst = fields.map Prod.fst ∨
      name ∉ fields.map Prod.fst ∧
        (putField fields name value).map Prod.fst = fields.map Prod.fst ++ [name] := by
  induction fields with
  | nil => exact .inr ⟨by simp, rfl⟩
  | cons f fields ih =>
    obtain ⟨known, v⟩ := f
    rw [putField]
    by_cases same : known = name
    · rw [if_pos same]
      exact .inl rfl
    · rw [if_neg same]
      rcases ih with kept | ⟨fresh, added⟩
      · exact .inl (by rw [List.map_cons, List.map_cons, kept])
      · refine .inr ⟨?_, by rw [List.map_cons, List.map_cons, added, List.cons_append]⟩
        rw [List.map_cons, List.mem_cons, not_or]
        exact ⟨Ne.symm same, fresh⟩

theorem mem_putField {fields : List (String × Document)} {name : String} {value : Document}
    {f : String × Document} (mem : f ∈ putField fields name value) :
    f ∈ fields ∨ f.2 = value := by
  induction fields with
  | nil => exact .inr (by rw [List.mem_singleton.mp mem])
  | cons g fields ih =>
    obtain ⟨known, v⟩ := g
    rw [putField] at mem
    split_ifs at mem with same
    · rcases List.mem_cons.mp mem with rfl | later
      · exact .inr rfl
      · exact .inl (List.mem_cons_of_mem _ later)
    · rcases List.mem_cons.mp mem with rfl | later
      · exact .inl List.mem_cons_self
      · exact (ih later).imp_left (List.mem_cons_of_mem _)

/-- Whether the names of fields are distinct, and those within their values are. -/
def AreDistinct (fields : List (String × Document)) : Prop :=
  (fields.map Prod.fst).Nodup ∧ ∀ f ∈ fields, Every HasDistinctNames f.2

theorem AreDistinct.nil : AreDistinct [] :=
  ⟨List.nodup_nil, by simp⟩

theorem AreDistinct.object {fields : List (String × Document)} (distinct : AreDistinct fields) :
    Every HasDistinctNames (.object fields) :=
  (Every.object_iff fields).mpr distinct

theorem AreDistinct.putField {fields : List (String × Document)} (distinct : AreDistinct fields)
    (name : String) {value : Document} (fine : Every HasDistinctNames value) :
    AreDistinct (putField fields name value) := by
  refine ⟨?_, fun f mem => ?_⟩
  · rcases names_putField fields name value with kept | ⟨fresh, added⟩
    · rw [kept]
      exact distinct.1
    · rw [added]
      refine List.nodup_append.mpr ⟨distinct.1, List.pairwise_singleton .., ?_⟩
      intro known mem other last same
      rw [List.mem_singleton.mp last] at same
      exact fresh (same ▸ mem)
  · rcases mem_putField mem with known | same
    · exact distinct.2 f known
    · exact same ▸ fine

theorem AreDistinct.putFields {known fields : List (String × Document)} (distinct : AreDistinct known)
    (fine : ∀ f ∈ fields, Every HasDistinctNames f.2) : AreDistinct (putFields known fields) := by
  induction fields generalizing known with
  | nil => exact distinct
  | cons f fields ih =>
    rw [List.forall_mem_cons] at fine
    exact ih (distinct.putField f.1 fine.1) fine.2

theorem every_of_alone {p : Document → Prop} {d : Document} (here : p d)
    (alone : d.children = []) : Every p d :=
  .intro here (by simp [alone])

theorem children_readNumeral {dialect : Dialect} {negative : Bool} {cs : List Char} {d : Document}
    {rest : List Char} (read : readNumeral dialect negative cs = .ok (d, rest)) :
    d.children = [] := by
  unfold readNumeral at read
  extract_lets whole rest at read
  by_cases empty : whole.isEmpty
  · rw [if_pos empty] at read
    cases read
  · rw [if_neg empty] at read
    rcases fractional : readFraction rest with ⟨fraction, behind⟩
    rcases scaled : readExponent behind with ⟨exponent, tail⟩
    simp only [fractional, scaled] at read
    split_ifs at read <;> cases read <;> rfl

theorem children_readScalar {dialect : Dialect} {cs : List Char} {d : Document} {rest : List Char}
    (read : readScalar dialect cs = .ok (d, rest)) : d.children = [] := by
  have alone : ∀ w ∈ words dialect, w.2.children = [] := by
    cases dialect <;> simp [words, realWords, children]
  unfold readScalar at read
  split at read
  · next r found =>
    obtain ⟨w, mem, prefixed⟩ := List.exists_of_findSome?_eq_some found
    obtain ⟨tail, -, rfl⟩ := Option.map_eq_some_iff.mp prefixed
    cases read
    exact alone w mem
  · split at read
    · exact children_readNumeral read
    · exact children_readNumeral read

/-- What the reader makes of a text is distinct in its names, at each of its three levels: a value,
the items of a list, and the fields of an object behind those that are known. -/
theorem distinct_readValue (dialect : Dialect) (fuel : Nat) :
    (∀ cs d rest, readValue dialect fuel cs = .ok (d, rest) → Every HasDistinctNames d) ∧
    (∀ cs ds rest, readItems dialect fuel cs = .ok (ds, rest) →
      ∀ d ∈ ds, Every HasDistinctNames d) ∧
    (∀ known cs fields rest, AreDistinct known →
      readFields dialect fuel known cs = .ok (fields, rest) → AreDistinct fields) := by
  induction fuel with
  | zero => simp [readValue, readItems, readFields]
  | succ fuel ih =>
    obtain ⟨value, items, fields⟩ := ih
    refine ⟨fun cs d rest read => ?_, fun cs ds rest read => ?_,
      fun known cs fs rest distinct read => ?_⟩
    · rw [readValue.eq_def] at read
      simp only at read
      split at read
      · split at read <;> cases read
        exact every_of_alone trivial rfl
      · split at read
        · cases read
          simp [HasDistinctNames]
        · obtain ⟨⟨ds, rest⟩, within, same⟩ := map_eq_ok_iff.mp read
          cases same
          exact (Every.list_iff ds).mpr ⟨trivial, items _ _ _ within⟩
      · split at read
        · cases read
          simp [HasDistinctNames]
        · obtain ⟨⟨fs, rest⟩, within, same⟩ := map_eq_ok_iff.mp read
          cases same
          exact (fields _ _ _ _ .nil within).object
      · have alone := children_readScalar read
        refine every_of_alone ?_ alone
        cases d with
        | object fs =>
          rw [children, List.map_eq_nil_iff] at alone
          rw [alone]
          exact List.nodup_nil
        | _ => trivial
    · rw [readItems.eq_def] at read
      simp only at read
      split at read
      · cases read
      · next first more here =>
        have fine := value _ _ _ here
        split at read
        · cases read
          simpa using fine
        · obtain ⟨⟨ds, rest⟩, within, same⟩ := map_eq_ok_iff.mp read
          cases same
          rw [List.forall_mem_cons]
          exact ⟨fine, items _ _ _ within⟩
        · cases read
    · rw [readFields.eq_def] at read
      simp only at read
      split at read
      · split at read
        · cases read
        · next name _ _ =>
          split at read
          · split at read
            · cases read
            · next here =>
              have fine := distinct.putField (String.ofList name) (value _ _ _ here)
              split at read
              · cases read
                exact fine
              · exact fields _ _ _ _ fine read
              · cases read
          · cases read
      · cases read

theorem distinct_of_readAs {dialect : Dialect} {text : String} {d : Document}
    (read : readAs dialect text = .ok d) : Every HasDistinctNames d := by
  unfold readAs at read
  extract_lets cs at read
  cases value : readValue dialect (2 * cs.length + 2) (skipBlanks dialect cs) with
  | error fault =>
    rw [value] at read
    cases read
  | ok first =>
    obtain ⟨v, rest⟩ := first
    simp only [value] at read
    split_ifs at read with done
    cases read
    exact (distinct_readValue dialect _).1 _ _ _ value

/-- The names in a document that was read from JSON text are distinct. -/
theorem distinct_of_parse {text : String} {d : Document} (parsed : parse text = .ok d) :
    Every HasDistinctNames d := by
  unfold parse at parsed
  split at parsed
  · next given =>
    cases parsed
    exact distinct_of_readAs given
  all_goals cases parsed

/-- So are those in a document that was read from YAML text. -/
theorem distinct_of_parseYaml {text : String} {d : Document} (parsed : parseYaml text = .ok d) :
    Every HasDistinctNames d := by
  unfold parseYaml at parsed
  extract_lets cs at parsed
  split_ifs at parsed with control empty
  · cases parsed
    exact every_of_alone trivial rfl
  · split at parsed
    · next given =>
      cases parsed
      exact distinct_of_readAs given
    all_goals cases parsed

/-! ## Parts of documents -/

theorem field?_eq_some_of_mem {fields : List (String × Document)}
    (distinct : (fields.map Prod.fst).Nodup) {f : String × Document} (mem : f ∈ fields) :
    field? fields f.1 = some f.2 := by
  unfold field?
  cases found : fields.find? fun g => g.1 == f.1 with
  | none =>
    have missing := List.find?_eq_none.mp found f mem
    simp at missing
  | some g =>
    have same : g.1 = f.1 := by simpa using List.find?_some found
    rw [List.inj_on_of_nodup_map distinct (List.mem_of_find?_eq_some found) mem same]
    rfl

theorem mem_of_field? {fields : List (String × Document)} {name : String} {value : Document}
    (found : field? fields name = some value) : (name, value) ∈ fields := by
  obtain ⟨f, within, rfl⟩ := Option.map_eq_some_iff.mp found
  have same : f.1 = name := by simpa using List.find?_some within
  exact same ▸ List.mem_of_find?_eq_some within

section Parts

variable {d part : Document}

theorem distinct_of_field? {fields : List (String × Document)} {name : String}
    (distinct : Every HasDistinctNames (.object fields)) (found : field? fields name = some part) :
    Every HasDistinctNames part :=
  distinct.within part (List.mem_map_of_mem (f := Prod.snd) (mem_of_field? found))

theorem distinct_require {name : String} (distinct : Every HasDistinctNames d)
    (required : d.require name = .ok part) : Every HasDistinctNames part := by
  cases d with
  | object fields =>
    unfold require at required
    cases found : field? fields name with
    | none =>
      simp only [found] at required
      cases required
    | some v =>
      simp only [found] at required
      cases required
      exact distinct_of_field? distinct found
  | _ => cases required

theorem distinct_getD {fields : List (String × Document)} {default : Document}
    (distinct : Every HasDistinctNames (.object fields)) (fine : Every HasDistinctNames default)
    (name : String) : Every HasDistinctNames ((field? fields name).getD default) := by
  cases found : field? fields name with
  | none => exact fine
  | some v => exact distinct_of_field? distinct found

theorem distinct_lookup {name : String} {default : Document} (distinct : Every HasDistinctNames d)
    (fine : Every HasDistinctNames default) (found : d.lookup name default = .ok part) :
    Every HasDistinctNames part := by
  cases d with
  | object fields =>
    cases found
    exact distinct_getD distinct fine name
  | _ => cases found

/-- What has no items has the wrong type. -/
theorem toItems_cases (d : Document) :
    (∃ items, d.toItems = .ok items) ∨ d.toItems = .error .wrongType := by
  unfold toItems
  split
  case h_4 => exact .inr rfl
  all_goals exact .inl ⟨_, rfl⟩

theorem distinct_toItems {items : List Document} (distinct : Every HasDistinctNames d)
    (parts : d.toItems = .ok items) : ∀ item ∈ items, Every HasDistinctNames item := by
  cases d with
  | list given =>
    cases parts
    exact distinct.within
  | text s =>
    cases parts
    rw [List.forall_mem_map]
    exact fun c _ => (Every.text_iff _).mpr trivial
  | object fields =>
    cases parts
    rw [List.forall_mem_map]
    exact fun f _ => (Every.text_iff _).mpr trivial
  | _ => cases parts

end Parts

end RuleBound.Document
