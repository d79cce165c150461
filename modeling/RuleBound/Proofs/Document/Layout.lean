import RuleBound.Proofs.Document.Numeral
import RuleBound.Proofs.Document.Escape

/-!
Layouts that are read as a document. `ReadsAs` relates characters to the document that the reader
takes them for, whatever comes behind them, and is closed under the ways of putting lists and
objects together: any blanks may stand after a bracket, a comma or a colon and before a closing
bracket.

Fuel is counted in characters: two for each are enough, since every step of the reader but the one
into an item consumes at least one.
-/

namespace RuleBound.Document

/-! ## Blanks -/

/-- Whether characters are nothing but blanks. -/
def AreBlank (cs : List Char) : Prop := ∀ c ∈ cs, Dialect.json.isBlank c = true

theorem AreBlank.nil : AreBlank [] := by
  intro c mem
  cases mem

theorem skipBlanks_append {blanks : List Char} (blank : AreBlank blanks) (cs : List Char) :
    skipBlanks .json (blanks ++ cs) = skipBlanks .json cs := by
  unfold skipBlanks
  exact List.dropWhile_append_of_pos blank

theorem EndsNumeral.blank_append {blanks rest : List Char} (blank : AreBlank blanks)
    (ends : EndsNumeral rest) : EndsNumeral (blanks ++ rest) := by
  cases blanks with
  | nil => exact ends
  | cons c blanks =>
    have here := blank c (by simp)
    simp only [Dialect.isBlank, Bool.or_eq_true, beq_iff_eq, Bool.and_eq_true,
      decide_eq_true_eq] at here
    rcases here with ((rfl | ⟨rfl, -⟩) | rfl) | rfl <;>
      exact .cons (by decide) (by decide) (by decide) (by decide)

theorem skipBlanks_cons {c : Char} (visible : Dialect.json.isBlank c = false) (cs : List Char) :
    skipBlanks .json (c :: cs) = c :: cs := by
  unfold skipBlanks
  exact List.dropWhile_cons_of_neg (by simp [visible])

/-- Whether characters start with one that is neither a blank nor the end of a list. -/
def StartsValue (cs : List Char) : Prop :=
  ∃ c tail, cs = c :: tail ∧ Dialect.json.isBlank c = false ∧ c ≠ ']'

theorem StartsValue.skipBlanks_append {cs : List Char} (starts : StartsValue cs)
    (rest : List Char) : skipBlanks .json (cs ++ rest) = cs ++ rest := by
  obtain ⟨c, tail, rfl, visible, -⟩ := starts
  exact skipBlanks_cons visible (tail ++ rest)

/-! ## Characters and the documents that they are read as -/

/-- Whether characters are read as a document, up to anything that cannot extend a numeral. -/
structure ReadsAs (cs : List Char) (d : Document) : Prop where
  starts : StartsValue cs
  read : ∀ (fuel : Nat) (rest : List Char), 2 * cs.length ≤ fuel → EndsNumeral rest →
    readValue .json fuel (cs ++ rest) = .ok (d, rest)

namespace ReadsAs

/-- A scalar that starts no text, list or object is read by its own reader. -/
theorem of_scalar {c : Char} {tail : List Char} {d : Document}
    (visible : Dialect.json.isBlank c = false) (quote : c ≠ '"') (list : c ≠ '[')
    (object : c ≠ '{') (close : c ≠ ']')
    (read : ∀ {rest}, EndsNumeral rest → readScalar .json (c :: tail ++ rest) = .ok (d, rest)) :
    ReadsAs (c :: tail) d where
  starts := ⟨c, tail, rfl, visible, close⟩
  read := by
    intro fuel rest enough ends
    obtain ⟨fuel, rfl⟩ := Nat.exists_eq_add_one_of_ne_zero (n := fuel) (by
      rw [List.length_cons] at enough
      omega)
    rw [readValue.eq_def]
    simp only [List.cons_append]
    split
    · next same => exact absurd (List.cons.inj same).1 quote
    · next same => exact absurd (List.cons.inj same).1 list
    · next same => exact absurd (List.cons.inj same).1 object
    · exact read ends

theorem null : ReadsAs "null".toList .null :=
  of_scalar (by decide) (by decide) (by decide) (by decide) (by decide) fun _ => rfl

theorem bool (b : Bool) : ReadsAs (if b then "true" else "false").toList (.bool b) := by
  cases b with
  | false => exact of_scalar (by decide) (by decide) (by decide) (by decide) (by decide) fun _ => rfl
  | true => exact of_scalar (by decide) (by decide) (by decide) (by decide) (by decide) fun _ => rfl

theorem digits {n : Nat} (short : n < 10 ^ numeralLimit) :
    ReadsAs (Nat.toDigits 10 n) (.integer n) := by
  obtain ⟨c, cs, split⟩ := List.exists_cons_of_ne_nil (Nat.toDigits_ne_nil (n := n) (b := 10))
  have digit : c.isDigit = true := isDigit_of_mem_toDigits (n := n) (by rw [split]; simp)
  have apart : ∀ d : Char, d.isDigit = false → d ≠ c := by
    rintro d other rfl
    rw [digit] at other
    cases other
  have visible : Dialect.json.isBlank c = false := by
    simp [Dialect.isBlank, (apart ' ' rfl).symm, (apart '\t' rfl).symm, (apart '\n' rfl).symm,
      (apart '\r' rfl).symm]
  rw [split]
  refine of_scalar visible (apart _ rfl).symm (apart _ rfl).symm (apart _ rfl).symm
    (apart _ rfl).symm fun ends => ?_
  have number := readNumeral_toDigits_append false short ends
  rw [split] at number
  unfold readScalar
  simpa [words, realWords, dropPrefix?, apart 'n' rfl, apart 't' rfl, apart 'f' rfl, apart 'N' rfl,
    apart 'I' rfl, apart '-' rfl, (apart '-' rfl).symm] using number

theorem negative {n : Nat} (short : n < 10 ^ numeralLimit) :
    ReadsAs ('-' :: Nat.toDigits 10 n) (.integer (-(n : Int))) := by
  refine of_scalar (by decide) (by decide) (by decide) (by decide) (by decide)
    fun ends => ?_
  obtain ⟨c, cs, split⟩ := List.exists_cons_of_ne_nil (Nat.toDigits_ne_nil (n := n) (b := 10))
  have digit : c.isDigit = true := isDigit_of_mem_toDigits (n := n) (by rw [split]; simp)
  have word : 'I' ≠ c := by
    rintro rfl
    cases digit
  have number := readNumeral_toDigits_append true short ends
  rw [split] at number ⊢
  unfold readScalar
  simpa [words, realWords, dropPrefix?, word] using number

theorem integer {n : Int} (short : n.natAbs < 10 ^ numeralLimit) :
    ReadsAs (toString n).toList (.integer n) := by
  cases n with
  | ofNat n =>
    rw [toList_toString_ofNat]
    exact digits short
  | negSucc n =>
    rw [toList_toString_negSucc]
    exact negative short

/-- A text is read back from its escapes. -/
theorem text (asciiOnly : Bool) (s : String) :
    ReadsAs (jsonText asciiOnly s).toList (.text (Text.reread asciiOnly s)) where
  starts := ⟨'"', _, String.toList_ofList, by decide, by decide⟩
  read := by
    intro fuel rest enough ends
    obtain ⟨fuel, rfl⟩ := Nat.exists_eq_add_one_of_ne_zero (n := fuel) (by
      rw [jsonText, String.toList_ofList, List.length_append] at enough
      simp only [List.length_cons, List.length_nil] at enough
      omega)
    have short : s.toList.length < (s.toList.flatMap (jsonChar asciiOnly) ++
        '"' :: rest).length + 1 := by
      have least := length_le_flatMap_jsonChar asciiOnly s.toList
      rw [List.length_append]
      omega
    have written := readText_written asciiOnly s.toList rest short
    rw [jsonText, String.toList_ofList, List.append_assoc, List.cons_append, readValue]
    simp only [List.singleton_append, written]
    rfl

end ReadsAs

/-! ## Lists -/

theorem starts_intercalate (sep : List Char) {first : List Char × Document}
    (items : List (List Char × Document)) (starts : StartsValue first.1) :
    StartsValue (sep.intercalate ((first :: items).map Prod.fst)) := by
  obtain ⟨c, tail, head, visible, close⟩ := starts
  rw [List.map_cons, head, List.intercalate_cons_cons_left]
  exact ⟨c, _, rfl, visible, close⟩

/-- Items between commas are read up to the bracket that closes the list. -/
theorem readItems_intercalate {sep gap : List Char} (separate : AreBlank sep) (blank : AreBlank gap)
    (rest : List Char) (first : List Char × Document) (items : List (List Char × Document))
    (each : ∀ i ∈ first :: items, ReadsAs i.1 i.2) (fuel : Nat)
    (enough : 2 * ((',' :: sep).intercalate ((first :: items).map Prod.fst)).length < fuel) :
    readItems .json fuel
        ((',' :: sep).intercalate ((first :: items).map Prod.fst) ++ (gap ++ ']' :: rest)) =
      .ok ((first :: items).map Prod.snd, rest) := by
  have reads := each first (by simp)
  obtain ⟨fuel, rfl⟩ := Nat.exists_eq_add_one_of_ne_zero (Nat.ne_zero_of_lt enough)
  induction items generalizing first fuel with
  | nil =>
    have ends : EndsNumeral (gap ++ ']' :: rest) :=
      .blank_append blank (.cons (by decide) (by decide) (by decide) (by decide))
    simp only [List.map_cons, List.map_nil, List.intercalate_singleton] at enough ⊢
    rw [readItems.eq_def]
    simp only [reads.read fuel _ (Nat.le_of_lt_succ enough) ends,
      skipBlanks_append blank, skipBlanks_cons (show Dialect.json.isBlank ']' = false by decide)]
  | cons second items ih =>
    have reads' := each second (by simp)
    have starts := starts_intercalate (',' :: sep) items reads'.starts
    generalize joined : (',' :: sep).intercalate ((second :: items).map Prod.fst) = more at starts
    have split : (',' :: sep).intercalate ((first :: second :: items).map Prod.fst) =
        first.1 ++ ',' :: (sep ++ more) := by
      rw [← joined]
      simp only [List.map_cons, List.intercalate_cons_cons, List.append_assoc, List.cons_append]
    rw [split] at enough ⊢
    simp only [List.length_append, List.length_cons] at enough
    obtain ⟨fuel, rfl⟩ := Nat.exists_eq_add_one_of_ne_zero (n := fuel) (by omega)
    have here := reads.read (fuel + 1) (',' :: (sep ++ (more ++ (gap ++ ']' :: rest)))) (by omega)
      (.cons (by decide) (by decide) (by decide) (by decide))
    have later := ih second (fun i mem => each i (List.mem_cons_of_mem _ mem)) reads' fuel
      (by rw [joined]; omega)
    rw [joined] at later
    rw [readItems.eq_def]
    simp only [List.append_assoc, List.cons_append, here,
      skipBlanks_cons (show Dialect.json.isBlank ',' = false by decide),
      skipBlanks_append separate, starts.skipBlanks_append, later]
    rfl

/-- A list is read from its items, however many blanks stand beside its brackets and behind its
commas. -/
theorem ReadsAs.list {sep before behind : List Char} (separate : AreBlank sep)
    (blank : AreBlank before) (blank' : AreBlank behind) (items : List (List Char × Document))
    (each : ∀ i ∈ items, ReadsAs i.1 i.2) (some : items ≠ []) :
    ReadsAs ('[' :: (before ++ (',' :: sep).intercalate (items.map Prod.fst) ++ behind ++ [']']))
      (.list (items.map Prod.snd)) where
  starts := ⟨'[', _, rfl, by decide, by decide⟩
  read := by
    intro fuel rest enough _
    obtain ⟨first, items, rfl⟩ := List.exists_cons_of_ne_nil some
    have starts : StartsValue _ :=
      starts_intercalate (',' :: sep) items (each first (by simp)).starts
    generalize joined : (',' :: sep).intercalate ((first :: items).map Prod.fst) = more at *
    simp only [List.length_cons, List.length_append, List.length_nil] at enough
    obtain ⟨fuel, rfl⟩ := Nat.exists_eq_add_one_of_ne_zero (n := fuel) (by omega)
    have inner := readItems_intercalate separate blank' rest first items each fuel
      (by rw [joined]; omega)
    rw [joined] at inner
    obtain ⟨c, tail, rfl, visible, close⟩ := starts
    rw [readValue.eq_def]
    simp only [List.cons_append, List.append_assoc, List.nil_append,
      skipBlanks_append blank, skipBlanks_cons visible] at inner ⊢
    split
    · next same => exact absurd (List.cons.inj same).1 close
    · rw [inner]
      rfl

theorem ReadsAs.empty_list : ReadsAs "[]".toList (.list []) where
  starts := ⟨'[', [']'], rfl, by decide, by decide⟩
  read := by
    intro fuel rest enough _
    obtain ⟨fuel, rfl⟩ := Nat.exists_eq_add_one_of_ne_zero (n := fuel) (by
      rintro rfl
      cases enough)
    rfl

/-! ## Objects -/

/-- A field that is being written: its name, the characters of its value, and the document that
these are read as. -/
structure WrittenField where
  name : String
  value : List Char
  document : Document

namespace WrittenField

/-- The characters of a field: its name as a text, a colon with blanks behind it, and its value. -/
def text (asciiOnly : Bool) (blanks : List Char) (f : WrittenField) : List Char :=
  (jsonText asciiOnly f.name).toList ++ ':' :: (blanks ++ f.value)

/-- The field that is read back. -/
def back (asciiOnly : Bool) (f : WrittenField) : String × Document :=
  (Text.reread asciiOnly f.name, f.document)

theorem starts_text (asciiOnly : Bool) (blanks : List Char) (f : WrittenField) :
    ∃ tail, f.text asciiOnly blanks = '"' :: tail := by
  rw [text, jsonText, String.toList_ofList, List.append_assoc, List.cons_append]
  exact ⟨_, rfl⟩

theorem length_value_le_text (asciiOnly : Bool) (blanks : List Char) (f : WrittenField) :
    f.value.length ≤ (f.text asciiOnly blanks).length := by
  simp only [text, List.length_append, List.length_cons]
  omega

end WrittenField

theorem putField_of_not_mem {fields : List (String × Document)} {name : String} {value : Document}
    (fresh : name ∉ fields.map Prod.fst) :
    putField fields name value = fields ++ [(name, value)] := by
  induction fields with
  | nil => rfl
  | cons f fields ih =>
    rw [List.map_cons, List.mem_cons, not_or] at fresh
    rw [putField, if_neg (Ne.symm fresh.1), ih fresh.2]
    rfl

/-- Fields that are put one after the other among those that are known. -/
def putFields (known fields : List (String × Document)) : List (String × Document) :=
  fields.foldl (fun known f => putField known f.1 f.2) known

theorem putFields_of_nodup {known fields : List (String × Document)}
    (distinct : ((known ++ fields).map Prod.fst).Nodup) :
    putFields known fields = known ++ fields := by
  induction fields generalizing known with
  | nil => rw [List.append_nil]; rfl
  | cons f fields ih =>
    have fresh : f.1 ∉ known.map Prod.fst := by
      rw [List.map_append, List.map_cons] at distinct
      intro mem
      exact (List.nodup_append.mp distinct).2.2 f.1 mem f.1 List.mem_cons_self rfl
    change putFields (putField known f.1 f.2) fields = _
    rw [putField_of_not_mem fresh, ih (by rwa [List.append_assoc]), List.append_assoc]
    rfl

/-- Fields with whole and distinct names are all known in the end. -/
theorem WrittenField.putFields_back (asciiOnly : Bool) {fields : List WrittenField}
    (whole : ∀ f ∈ fields, Text.IsWhole f.name)
    (distinct : (fields.map WrittenField.name).Nodup) :
    putFields [] (fields.map (WrittenField.back asciiOnly)) =
      fields.map (WrittenField.back asciiOnly) := by
  have names : fields.map (Prod.fst ∘ WrittenField.back asciiOnly) =
      fields.map WrittenField.name :=
    List.map_congr_left fun f mem => (whole f mem).reread_eq asciiOnly
  refine putFields_of_nodup ?_
  rwa [List.nil_append, List.map_map, names]

theorem ReadsAs.empty_object : ReadsAs "\x7b\x7d".toList (.object []) where
  starts := ⟨'{', ['}'], rfl, by decide, by decide⟩
  read := by
    intro fuel rest enough _
    obtain ⟨fuel, rfl⟩ := Nat.exists_eq_add_one_of_ne_zero (n := fuel) (by
      rintro rfl
      cases enough)
    rfl

section Fields

variable {asciiOnly : Bool} {colon : List Char} (gap : AreBlank colon)

include gap

/-- A field is read up to its end, and known from there on. -/
theorem readFields_text {f : WrittenField} (reads : ReadsAs f.value f.document) {fuel : Nat}
    (enough : 2 * f.value.length ≤ fuel) (known : List (String × Document)) {tail : List Char}
    (ends : EndsNumeral tail) :
    readFields .json (fuel + 1) known (f.text asciiOnly colon ++ tail) =
      match skipBlanks .json tail with
      | '}' :: rest => .ok (putField known (f.back asciiOnly).1 f.document, rest)
      | ',' :: rest =>
        readFields .json fuel (putField known (f.back asciiOnly).1 f.document)
          (skipBlanks .json rest)
      | _ => .error .malformed := by
  have short : f.name.toList.length < (f.name.toList.flatMap (jsonChar asciiOnly) ++
      '"' :: ':' :: (colon ++ (f.value ++ tail))).length + 1 := by
    have least := length_le_flatMap_jsonChar asciiOnly f.name.toList
    rw [List.length_append]
    omega
  have name := readText_written asciiOnly f.name.toList (':' :: (colon ++ (f.value ++ tail))) short
  rw [readFields.eq_def]
  simp only [WrittenField.text, jsonText, String.toList_ofList, List.cons_append, List.append_assoc,
    List.nil_append, name, skipBlanks_cons (show Dialect.json.isBlank ':' = false by decide),
    skipBlanks_append gap, reads.starts.skipBlanks_append, reads.read fuel tail enough ends]
  rfl

variable (asciiOnly) in
/-- Fields between commas are read up to the brace that closes the object; of two with one name the
later one counts. -/
theorem readFields_intercalate {sep behind : List Char} (separate : AreBlank sep)
    (blank : AreBlank behind) (rest : List Char) (first : WrittenField)
    (fields : List WrittenField) (each : ∀ f ∈ first :: fields, ReadsAs f.value f.document)
    (known : List (String × Document)) (fuel : Nat) (enough : 2 * ((',' :: sep).intercalate
      ((first :: fields).map (WrittenField.text asciiOnly colon))).length < fuel) :
    readFields .json fuel known
        ((',' :: sep).intercalate ((first :: fields).map (WrittenField.text asciiOnly colon)) ++
          (behind ++ '}' :: rest)) =
      .ok (putFields known ((first :: fields).map (WrittenField.back asciiOnly)), rest) := by
  induction fields generalizing first known fuel with
  | nil =>
    have least := first.length_value_le_text asciiOnly colon
    have ends : EndsNumeral (behind ++ '}' :: rest) :=
      .blank_append blank (.cons (by decide) (by decide) (by decide) (by decide))
    simp only [List.map_cons, List.map_nil, List.intercalate_singleton] at enough ⊢
    obtain ⟨fuel, rfl⟩ := Nat.exists_eq_add_one_of_ne_zero (Nat.ne_zero_of_lt enough)
    rw [readFields_text gap (each first (by simp)) (by omega) known ends, skipBlanks_append blank,
      skipBlanks_cons (show Dialect.json.isBlank '}' = false by decide)]
    rfl
  | cons second fields ih =>
    have least := first.length_value_le_text asciiOnly colon
    have starts : ∃ tail, (',' :: sep).intercalate
        ((second :: fields).map (WrittenField.text asciiOnly colon)) = '"' :: tail := by
      obtain ⟨tail, head⟩ := second.starts_text asciiOnly colon
      rw [List.map_cons, head, List.intercalate_cons_cons_left]
      exact ⟨_, rfl⟩
    have later := ih second (fun f mem => each f (List.mem_cons_of_mem _ mem))
      (putField known (first.back asciiOnly).1 first.document)
    have split : (',' :: sep).intercalate
        ((first :: second :: fields).map (WrittenField.text asciiOnly colon)) =
        first.text asciiOnly colon ++ ',' :: (sep ++ (',' :: sep).intercalate
          ((second :: fields).map (WrittenField.text asciiOnly colon))) := by
      simp only [List.map_cons, List.intercalate_cons_cons, List.append_assoc, List.cons_append]
    rw [split] at enough ⊢
    generalize (',' :: sep).intercalate
      ((second :: fields).map (WrittenField.text asciiOnly colon)) = more at *
    obtain ⟨tail, rfl⟩ := starts
    simp only [List.length_append, List.length_cons] at enough later
    obtain ⟨fuel, rfl⟩ := Nat.exists_eq_add_one_of_ne_zero (Nat.ne_zero_of_lt enough)
    rw [List.append_assoc, List.cons_append, readFields_text gap (each first (by simp)) (by omega)
      known (.cons (by decide) (by decide) (by decide) (by decide)),
      skipBlanks_cons (show Dialect.json.isBlank ',' = false by decide)]
    simp only [List.append_assoc, List.cons_append, skipBlanks_append separate,
      skipBlanks_cons (show Dialect.json.isBlank '"' = false by decide)] at later ⊢
    exact later fuel (by omega)

variable (asciiOnly) in
/-- An object is read from its fields, however many blanks stand beside its braces, behind its
commas and behind its colons. -/
theorem ReadsAs.object {sep before behind : List Char} (separate : AreBlank sep)
    (blank : AreBlank before) (blank' : AreBlank behind) (fields : List WrittenField)
    (each : ∀ f ∈ fields, ReadsAs f.value f.document) (some : fields ≠ []) :
    ReadsAs ('{' :: (before ++
        (',' :: sep).intercalate (fields.map (WrittenField.text asciiOnly colon)) ++ behind ++ ['}']))
      (.object (putFields [] (fields.map (WrittenField.back asciiOnly)))) where
  starts := ⟨'{', _, rfl, by decide, by decide⟩
  read := by
    intro fuel rest enough _
    obtain ⟨first, fields, rfl⟩ := List.exists_cons_of_ne_nil some
    have inner := readFields_intercalate asciiOnly gap separate blank' rest first fields each []
    have starts : ∃ tail, (',' :: sep).intercalate
        ((first :: fields).map (WrittenField.text asciiOnly colon)) = '"' :: tail := by
      obtain ⟨tail, head⟩ := first.starts_text asciiOnly colon
      rw [List.map_cons, head, List.intercalate_cons_cons_left]
      exact ⟨_, rfl⟩
    generalize (',' :: sep).intercalate
      ((first :: fields).map (WrittenField.text asciiOnly colon)) = more at *
    obtain ⟨tail, rfl⟩ := starts
    simp only [List.length_cons, List.length_append, List.length_nil] at enough inner
    obtain ⟨fuel, rfl⟩ := Nat.exists_eq_add_one_of_ne_zero (n := fuel) (by omega)
    rw [readValue.eq_def]
    simp only [List.cons_append, List.append_assoc, List.nil_append, skipBlanks_append blank,
      skipBlanks_cons (show Dialect.json.isBlank '"' = false by decide)] at inner ⊢
    exact congrArg (Except.map fun r => (Document.object r.1, r.2))
      (inner fuel (by omega))

end Fields

end RuleBound.Document
