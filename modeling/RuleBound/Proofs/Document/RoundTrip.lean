import Mathlib.Data.String.Basic
import RuleBound.Document.Coercion
import RuleBound.Proofs.Document.Layout

/-!
The writer and the reader of JSON text. Their grammars meet in `Readable`: a document without
doubles and overlong numerals, whose names are distinct in each object and have no half of a pair.
Its text is read as the document that `reread` describes: fields stand in the order of the style,
and halves of pairs that were escaped side by side have become one character.

A document whose texts are all whole comes back from one line as it was.
-/

namespace RuleBound.Document

/-! ## Documents within documents -/

/-- The documents that a document is made of. -/
def children : Document → List Document
  | .list items => items
  | .object fields => fields.map Prod.snd
  | _ => []

/-- Induction on documents: what passes from its children to a document holds of all. -/
theorem induction_children {motive : Document → Prop}
    (step : ∀ d, (∀ c ∈ d.children, motive c) → motive d) (d : Document) : motive d :=
  step d fun c _mem => induction_children step c
termination_by sizeOf d
decreasing_by
  cases d with
  | list items =>
    have smaller : sizeOf c < sizeOf items := List.sizeOf_lt_of_mem _mem
    simp only [list.sizeOf_spec]
    omega
  | object fields =>
    obtain ⟨f, within, rfl⟩ := List.mem_map.mp _mem
    have smaller := List.sizeOf_lt_of_mem within
    have part : sizeOf f = 1 + sizeOf f.1 + sizeOf f.2 := rfl
    simp only [object.sizeOf_spec]
    omega
  | _ => cases _mem

/-- Whether something holds of a document and of all documents within it. -/
inductive Every (p : Document → Prop) : Document → Prop
  | intro {d : Document} (here : p d) (within : ∀ c ∈ d.children, Every p c) : Every p d

namespace Every

variable {p q : Document → Prop} {d : Document}

theorem here (every : Every p d) : p d := by
  cases every with
  | intro here _ => exact here

theorem within (every : Every p d) : ∀ c ∈ d.children, Every p c := by
  cases every with
  | intro _ within => exact within

theorem iff_here_within : Every p d ↔ p d ∧ ∀ c ∈ d.children, Every p c :=
  ⟨fun every => ⟨every.here, every.within⟩, fun ⟨here, within⟩ => ⟨here, within⟩⟩

@[simp] theorem null_iff : Every p .null ↔ p .null := by
  rw [iff_here_within]
  simp [children]

@[simp] theorem bool_iff (b : Bool) : Every p (.bool b) ↔ p (.bool b) := by
  rw [iff_here_within]
  simp [children]

@[simp] theorem integer_iff (n : Int) : Every p (.integer n) ↔ p (.integer n) := by
  rw [iff_here_within]
  simp [children]

@[simp] theorem real_iff (x : Binary64) : Every p (.real x) ↔ p (.real x) := by
  rw [iff_here_within]
  simp [children]

@[simp] theorem text_iff (s : String) : Every p (.text s) ↔ p (.text s) := by
  rw [iff_here_within]
  simp [children]

@[simp] theorem list_iff (items : List Document) :
    Every p (.list items) ↔ p (.list items) ∧ ∀ c ∈ items, Every p c := iff_here_within

@[simp] theorem object_iff (fields : List (String × Document)) :
    Every p (.object fields) ↔ p (.object fields) ∧ ∀ f ∈ fields, Every p f.2 := by
  rw [iff_here_within, children, List.forall_mem_map]

theorem and (left : Every p d) (right : Every q d) : Every (fun c => p c ∧ q c) d := by
  induction d using induction_children with
  | step d ih =>
    exact ⟨⟨left.here, right.here⟩, fun c mem => ih c mem (left.within c mem) (right.within c mem)⟩

theorem mono (imp : ∀ c, p c → q c) (every : Every p d) : Every q d := by
  induction every with
  | intro here _ ih => exact ⟨imp _ here, ih⟩

end Every

/-! ## Writing as a map -/

theorem writeItems_eq_map (style : JsonStyle) (level : Nat) (items : List Document) :
    writeItems style level items = items.map (write style (level + 1)) := by
  induction items with
  | nil => rfl
  | cons d items ih => rw [writeItems, ih, List.map_cons]

/-- The text of a field. -/
def fieldText (style : JsonStyle) (level : Nat) (f : String × Document) : String :=
  jsonText style.asciiOnly f.1 ++ style.colon ++ write style (level + 1) f.2

theorem writeFields_eq_map (style : JsonStyle) (level : Nat) (fields : List (String × Document)) :
    writeFields style level fields = fields.map fun f => (f.1, fieldText style level f) := by
  induction fields with
  | nil => rfl
  | cons f fields ih => rw [writeFields, ih, List.map_cons, fieldText]

theorem sortFields_map {α β : Type} (g : String × α → β) (fields : List (String × α)) :
    sortFields (fields.map fun f => (f.1, g f)) = (sortFields fields).map fun f => (f.1, g f) := by
  unfold sortFields
  rw [List.map_mergeSort]
  exact fun _ _ _ _ => rfl

/-- Fields in the order in which a style writes them. -/
def JsonStyle.order {α : Type} (style : JsonStyle) (fields : List (String × α)) :
    List (String × α) :=
  if style.sorted then sortFields fields else fields

theorem JsonStyle.order_map {α β : Type} (style : JsonStyle) (g : String × α → β)
    (fields : List (String × α)) :
    style.order (fields.map fun f => (f.1, g f)) = (style.order fields).map fun f => (f.1, g f) := by
  unfold order
  split
  · exact sortFields_map g fields
  · rfl

theorem JsonStyle.order_perm {α : Type} (style : JsonStyle) (fields : List (String × α)) :
    (style.order fields).Perm fields := by
  unfold order
  split
  · exact List.mergeSort_perm fields _
  · exact .refl fields

/-- A style that sorts writes fields with distinct names in the order in which these rise. -/
theorem JsonStyle.rising_order {α : Type} {style : JsonStyle} (sorted : style.sorted = true)
    {fields : List (String × α)} (distinct : (fields.map Prod.fst).Nodup) :
    ((style.order fields).map Prod.fst).Pairwise (· < ·) := by
  have rises : ((style.order fields).map Prod.fst).Pairwise (· ≤ ·) := by
    unfold order
    rw [if_pos sorted, List.pairwise_map]
    refine (List.pairwise_mergeSort (fun a b c => ?_) (fun a b => ?_) fields).imp of_decide_eq_true
    · simpa using fun ab bc => le_trans ab bc
    · simpa using le_total a.1 b.1
  have apart : ((style.order fields).map Prod.fst).Nodup :=
    ((style.order_perm fields).map Prod.fst).nodup_iff.mpr distinct
  exact (rises.and apart).imp fun h => lt_of_le_of_ne h.1 h.2

/-- Fields that are sorted are written in the order in which their names rise. -/
theorem JsonStyle.order_eq {α : Type} {style : JsonStyle} (sorted : style.sorted = true)
    {fields ordered : List (String × α)} (perm : fields.Perm ordered)
    (rising : (ordered.map Prod.fst).Pairwise (· < ·)) : style.order fields = ordered := by
  have same : (style.order fields).Perm ordered := (style.order_perm fields).trans perm
  have distinct : (fields.map Prod.fst).Nodup :=
    (perm.map Prod.fst).nodup_iff.mpr (rising.imp ne_of_lt)
  exact same.eq_of_pairwise (fun a b _ _ ab ba => absurd ba (lt_asymm ab))
    (List.pairwise_map.mp (rising_order sorted distinct)) (List.pairwise_map.mp rising)

/-- A style that sorts puts the same fields in one order. -/
theorem JsonStyle.order_eq_of_perm {α : Type} {style : JsonStyle} (sorted : style.sorted = true)
    {fs gs : List (String × α)} (distinct : (gs.map Prod.fst).Nodup) (perm : fs.Perm gs) :
    style.order fs = style.order gs :=
  order_eq sorted (perm.trans (style.order_perm gs).symm) (rising_order sorted distinct)

theorem write_object (style : JsonStyle) (level : Nat) (fields : List (String × Document)) :
    write style level (.object fields) =
      bracketed style level "\x7b" "\x7d" ((style.order fields).map (fieldText style level)) := by
  have parts := style.order_map (fieldText style level) fields
  rw [write, writeFields_eq_map]
  unfold JsonStyle.order at parts ⊢
  rw [parts, List.map_map]
  rfl

/-! ## What comes back -/

mutual
/-- A document as it is read back from the text that a style gives it. -/
def reread (style : JsonStyle) : Document → Document
  | .text s => .text (Text.reread style.asciiOnly s)
  | .list items => .list (rereadItems style items)
  | .object fields =>
    .object ((style.order (rereadFields style fields)).map fun f =>
      (Text.reread style.asciiOnly f.1, f.2))
  | d => d

/-- Each item as it is read back. -/
def rereadItems (style : JsonStyle) : List Document → List Document
  | [] => []
  | d :: rest => reread style d :: rereadItems style rest

/-- Each value as it is read back, beside the name that it had. -/
def rereadFields (style : JsonStyle) : List (String × Document) → List (String × Document)
  | [] => []
  | (name, d) :: rest => (name, reread style d) :: rereadFields style rest
end

theorem rereadItems_eq_map (style : JsonStyle) (items : List Document) :
    rereadItems style items = items.map (reread style) := by
  induction items with
  | nil => rfl
  | cons d items ih => rw [rereadItems, ih, List.map_cons]

theorem rereadFields_eq_map (style : JsonStyle) (fields : List (String × Document)) :
    rereadFields style fields = fields.map fun f => (f.1, reread style f.2) := by
  induction fields with
  | nil => rfl
  | cons f fields ih => rw [rereadFields, ih, List.map_cons]

theorem reread_object (style : JsonStyle) (fields : List (String × Document)) :
    reread style (.object fields) = .object ((style.order fields).map fun f =>
      (Text.reread style.asciiOnly f.1, reread style f.2)) := by
  have parts := style.order_map (fun f => reread style f.2) fields
  rw [reread, rereadFields_eq_map, parts, List.map_map]
  rfl

/-- A style that keeps the order of fields keeps an object whose names have no halves, but for its
values. -/
theorem reread_object_of_whole {style : JsonStyle} (keeps : style.sorted = false)
    {fields : List (String × Document)} (names : ∀ f ∈ fields, Text.IsWhole f.1) :
    reread style (.object fields) = .object (fields.map fun f => (f.1, reread style f.2)) := by
  rw [reread_object, JsonStyle.order, keeps, if_neg Bool.false_ne_true]
  congr 1
  exact List.map_congr_left fun f mem => by rw [(names f mem).reread_eq]

/-! ## Reading what was written -/

/-- Whether a reader can take back a document, apart from the documents within it. -/
def IsReadable : Document → Prop
  | .integer n => n.natAbs < 10 ^ numeralLimit
  | .real _ => False
  | .object fields => (fields.map Prod.fst).Nodup ∧ ∀ f ∈ fields, Text.IsWhole f.1
  | _ => True

/-- Whether a reader can take back a document. -/
abbrev Readable (d : Document) : Prop := Every IsReadable d

/-- Whether the separators of a style are a comma and a colon with blanks behind them. -/
structure JsonStyle.IsSeparating (style : JsonStyle) : Prop where
  comma : ∃ blanks, style.separator.toList = ',' :: blanks ∧ AreBlank blanks
  colon : ∃ blanks, style.colon.toList = ':' :: blanks ∧ AreBlank blanks

theorem areBlank_newLine (level : Nat) : AreBlank (newLine level).toList := by
  intro c mem
  rw [newLine, String.toList_ofList, List.mem_cons] at mem
  rcases mem with rfl | mem
  · decide
  · rw [List.eq_of_mem_replicate mem]
    decide

/-- Parts between brackets are laid out with blanks only. -/
theorem exists_blanks_of_bracketed {style : JsonStyle} (separating : style.IsSeparating)
    (level : Nat) (opening closing : String) (parts : List String) (some : parts ≠ []) :
    ∃ before sep behind, AreBlank before ∧ AreBlank sep ∧ AreBlank behind ∧
      (bracketed style level opening closing parts).toList =
        opening.toList ++ (before ++ (',' :: sep).intercalate (parts.map String.toList) ++ behind ++
          closing.toList) := by
  obtain ⟨blanks, comma, blank⟩ := separating.comma
  unfold bracketed
  rw [if_neg (by simpa using some)]
  by_cases indented : style.indented = true
  · refine ⟨_, blanks ++ (newLine (level + 1)).toList, _, areBlank_newLine (level + 1), ?_,
      areBlank_newLine level, ?_⟩
    · intro c mem
      rcases List.mem_append.mp mem with within | within
      · exact blank c within
      · exact areBlank_newLine (level + 1) c within
    · rw [if_pos indented]
      simp only [String.toList_append, String.toList_intercalate, comma, List.append_assoc,
        List.cons_append]
  · refine ⟨[], blanks, [], .nil, blank, .nil, ?_⟩
    rw [if_neg indented]
    simp only [String.toList_append, String.toList_intercalate, comma, List.append_assoc,
      List.nil_append]

theorem readsAs_list {style : JsonStyle} (separating : style.IsSeparating) (level : Nat)
    {items : List Document}
    (each : ∀ d ∈ items, ReadsAs (write style (level + 1) d).toList (reread style d)) :
    ReadsAs (write style level (.list items)).toList (reread style (.list items)) := by
  rw [write, writeItems_eq_map, reread, rereadItems_eq_map]
  by_cases none : items = []
  · subst none
    exact .empty_list
  · obtain ⟨before, sep, behind, blank, separate, blank', written⟩ :=
      exists_blanks_of_bracketed separating level "[" "]"
        (items.map (write style (level + 1))) (by simpa using none)
    have reads := ReadsAs.list separate blank blank'
      (items.map fun d => ((write style (level + 1) d).toList, reread style d))
      (by simpa using each) (by simpa using none)
    rw [written]
    simpa [List.map_map, Function.comp_def] using reads

theorem readsAs_object {style : JsonStyle} (separating : style.IsSeparating) (level : Nat)
    {fields : List (String × Document)}
    (each : ∀ f ∈ fields, ReadsAs (write style (level + 1) f.2).toList (reread style f.2))
    (distinct : (fields.map Prod.fst).Nodup) (whole : ∀ f ∈ fields, Text.IsWhole f.1) :
    ReadsAs (write style level (.object fields)).toList (reread style (.object fields)) := by
  rw [write_object, reread_object]
  have perm := style.order_perm fields
  generalize style.order fields = ordered at perm
  replace each := fun f mem => each f (perm.mem_iff.mp mem)
  replace whole := fun f mem => whole f (perm.mem_iff.mp mem)
  replace distinct := (perm.map Prod.fst).nodup_iff.mpr distinct
  by_cases none : ordered = []
  · subst none
    exact .empty_object
  · obtain ⟨before, sep, behind, blank, separate, blank', written⟩ :=
      exists_blanks_of_bracketed separating level "\x7b" "\x7d"
        (ordered.map (fieldText style level)) (by simpa using none)
    obtain ⟨blanks, colon, gap⟩ := separating.colon
    let toWritten (f : String × Document) : WrittenField :=
      ⟨f.1, (write style (level + 1) f.2).toList, reread style f.2⟩
    have text : ∀ f, (fieldText style level f).toList =
        (toWritten f).text style.asciiOnly blanks := by
      intro f
      simp only [fieldText, WrittenField.text, String.toList_append, colon, List.append_assoc,
        List.cons_append, toWritten]
    have each' : ∀ w ∈ ordered.map toWritten, ReadsAs w.value w.document := by
      intro w mem
      obtain ⟨f, within, rfl⟩ := List.mem_map.mp mem
      exact each f within
    have reads := ReadsAs.object style.asciiOnly gap separate blank blank' (ordered.map toWritten)
      each' (by simpa using none)
    rw [WrittenField.putFields_back _ (List.forall_mem_map.mpr whole) (by rwa [List.map_map])]
      at reads
    rw [written]
    simp only [List.map_map, Function.comp_def, text] at reads ⊢
    exact reads

/-- What a style writes is read as the document that comes back, whatever stands behind it. -/
theorem readsAs_write {style : JsonStyle} (separating : style.IsSeparating) (level : Nat)
    {d : Document} (readable : Readable d) :
    ReadsAs (write style level d).toList (reread style d) := by
  induction d using induction_children generalizing level with
  | step d ih =>
    have here := readable.here
    have within := readable.within
    cases d with
    | null => exact .null
    | bool b => exact .bool b
    | integer n => exact .integer here
    | real x => exact here.elim
    | text s => exact .text style.asciiOnly s
    | list items =>
      exact readsAs_list separating level fun d mem => ih d mem (level + 1) (within d mem)
    | object fields =>
      refine readsAs_object separating level (fun f mem => ?_) here.1 here.2
      have child : f.2 ∈ (object fields).children := List.mem_map_of_mem mem
      exact ih f.2 child (level + 1) (within f.2 child)

/-- A text is parsed as what its characters are read as. -/
theorem ReadsAs.parse {s : String} {d : Document} (reads : ReadsAs s.toList d) :
    Document.parse s = .ok d := by
  have start := reads.starts.skipBlanks_append []
  have whole := reads.read (2 * s.toList.length + 2) [] (by omega) .nil
  rw [List.append_nil] at start whole
  rw [Document.parse, Document.read, readAs]
  simp only [start, whole]
  rfl

/-- Reading the text of a document gives back the document, as far as the style has kept it. -/
theorem parse_toJson {style : JsonStyle} (separating : style.IsSeparating) {d : Document}
    (readable : Readable d) : parse (d.toJson style) = .ok (d.reread style) :=
  (readsAs_write separating 0 readable).parse

/-- A text that is parsed is read. -/
theorem read_of_parse {s : String} {d : Document} (parsed : parse s = .ok d) : read s = .ok d := by
  unfold parse at parsed
  split at parsed
  · next given =>
    cases parsed
    exact given
  all_goals cases parsed

theorem JsonStyle.isSeparating_line : JsonStyle.line.IsSeparating where
  comma := ⟨[' '], rfl, List.forall_mem_singleton.mpr rfl⟩
  colon := ⟨[' '], rfl, List.forall_mem_singleton.mpr rfl⟩

theorem JsonStyle.isSeparating_compact : JsonStyle.compact.IsSeparating where
  comma := ⟨[], rfl, .nil⟩
  colon := ⟨[], rfl, .nil⟩

/-! ## Documents that come back as they were -/

/-- Whether a text has no half of a pair, and neither have names; for a document apart from the
documents within it. -/
def HasWholeTexts : Document → Prop
  | .text s => Text.IsWhole s
  | .object fields => ∀ f ∈ fields, Text.IsWhole f.1
  | _ => True

/-- Whether no text in a document has half of a pair. -/
abbrev Whole (d : Document) : Prop := Every HasWholeTexts d

/-- A style that keeps the order of fields keeps a document without halves. -/
theorem reread_of_whole {style : JsonStyle} (keeps : style.sorted = false) {d : Document}
    (whole : Whole d) : d.reread style = d := by
  induction d using induction_children with
  | step d ih =>
    have here := whole.here
    have within := whole.within
    cases d with
    | text s =>
      have same : Text.reread style.asciiOnly s = s := Text.IsWhole.reread_eq here style.asciiOnly
      rw [reread, same]
    | list items =>
      rw [reread, rereadItems_eq_map]
      have same : items.map (reread style) = items.map id :=
        List.map_congr_left fun d mem => ih d mem (within d mem)
      rw [same, List.map_id]
    | object fields =>
      rw [reread_object, JsonStyle.order, keeps, if_neg (by decide)]
      have same : (fields.map fun f => (Text.reread style.asciiOnly f.1, reread style f.2)) =
          fields.map id := by
        refine List.map_congr_left fun f mem => ?_
        have child : f.2 ∈ (object fields).children := List.mem_map_of_mem mem
        rw [(here f mem).reread_eq, ih f.2 child (within f.2 child)]
        rfl
      rw [same, List.map_id]
    | _ => rfl

/-- A readable document without halves comes back from one line as it was. -/
theorem parse_toJson_line {d : Document} (readable : Readable d) (whole : Whole d) :
    parse (d.toJson .line) = .ok d := by
  rw [parse_toJson JsonStyle.isSeparating_line readable, reread_of_whole rfl whole]

end RuleBound.Document
