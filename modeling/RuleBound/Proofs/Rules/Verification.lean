import Mathlib.Data.List.Sort
import Mathlib.Data.Set.List
import RuleBound.Proofs.Document.Unordered
import RuleBound.Proofs.Rules.Commitment

/-!
What the verifier accepts. A text is accepted exactly if it is read as a sheet of version 1 that has
this text again, and the digest is that of the text. Such a text is the canonical text of the very
document that it is parsed as: a sheet is written as an object in which its payload is an object, so
a payload that was read from a list of pairs never comes back as the text that it stood in.

The texts that intents compile to are accepted, and read as the sheets they were compiled to. They
list the forbidden actions in one order. The verifier does not ask for that order.
-/

namespace RuleBound

open Document (AreDistinct Every HasDistinctNames IsExact IsShort ReadsAs Whole WrittenField putFields)

/-! ## Mappings that were read -/

namespace Mapping

theorem mem_put {m : Mapping} {name value : Document} {f : Document × Document}
    (mem : f ∈ m.put name value) : f ∈ m ∨ f.2 = value := by
  induction m with
  | nil => exact .inr (by rw [List.mem_singleton.mp mem])
  | cons g m ih =>
    obtain ⟨known, v⟩ := g
    rw [put] at mem
    split_ifs at mem with same
    · rcases List.mem_cons.mp mem with rfl | later
      · exact .inr rfl
      · exact .inl (List.mem_cons_of_mem _ later)
    · rcases List.mem_cons.mp mem with rfl | later
      · exact .inl List.mem_cons_self
      · exact (ih later).imp_left (List.mem_cons_of_mem _)

theorem distinct_ofPairs {index : Nat} {known m : Mapping} {items : List Document}
    (fine : ∀ f ∈ known, Every HasDistinctNames f.2) (each : ∀ d ∈ items, Every HasDistinctNames d)
    (made : ofPairs index known items = .ok m) : ∀ f ∈ m, Every HasDistinctNames f.2 := by
  induction items generalizing index known with
  | nil =>
    cases made
    exact fine
  | cons item items ih =>
    rw [List.forall_mem_cons] at each
    rw [ofPairs] at made
    split at made
    · cases made
    · next name value pair =>
      have parts := Document.distinct_toItems each.1 pair
      split_ifs at made
      refine ih (fun f mem => ?_) each.2 made
      rcases mem_put mem with old | new
      · exact fine f old
      · exact new ▸ parts value (by simp)
    · cases made

/-- The values of a mapping have distinct names if those of the document have. -/
theorem distinct_ofDocument {d : Document} {m : Mapping} (distinct : Every HasDistinctNames d)
    (made : ofDocument d = .ok m) : ∀ f ∈ m, Every HasDistinctNames f.2 := by
  unfold ofDocument at made
  split at made
  · next fields =>
    cases made
    rw [ofFields, List.forall_mem_map]
    exact ((Every.object_iff fields).mp distinct).2
  · split at made
    · cases made
    · next items sequence =>
      exact distinct_ofPairs (by simp) (Document.distinct_toItems distinct sequence) made

/-- A mapping in order has the same fields. -/
theorem perm_of_inOrder {m ordered : Mapping} (nameless : m.textFields? = none)
    (sorted : m.inOrder = .ok ordered) : ordered.Perm m := by
  unfold inOrder at sorted
  rw [nameless] at sorted
  split_ifs at sorted
  · cases sorted
    exact .refl m
  · cases sorted
    exact List.mergeSort_perm m comesBefore

theorem isWhole_fieldText_iff {f : Document × Document} (exact : Every IsExact f.2) :
    Text.IsWhole (fieldText f) ↔ Text.IsWhole (spelled f.1) ∧ Whole f.2 := by
  rw [fieldText, Text.isWhole_append, Text.isWhole_append, Document.isWhole_jsonText,
    Document.toJson, Document.isWhole_write_iff 0 exact]
  simp [show Text.IsWhole ":" by decide]

/-- The text of a mapping has half of a pair only where a name or a value has. -/
theorem isWhole_canonicalText_iff {m : Mapping} {text : String} (nameless : m.textFields? = none)
    (exact : ∀ f ∈ m, Every IsExact f.2) (written : m.canonicalText = .ok text) :
    Text.IsWhole text ↔ ∀ f ∈ m, Text.IsWhole (spelled f.1) ∧ Whole f.2 := by
  obtain ⟨ordered, sorted, rfl⟩ := map_eq_ok_iff.mp written
  have perm := perm_of_inOrder nameless sorted
  rw [Text.isWhole_append, Text.isWhole_append, Text.isWhole_intercalate (by decide),
    List.forall_mem_map]
  simp only [show Text.IsWhole "\x7b" by decide, show Text.IsWhole "\x7d" by decide, true_and,
    and_true, perm.mem_iff]
  exact forall₂_congr fun f mem => isWhole_fieldText_iff (exact f mem)

/-- The canonical text of a mapping whose names are not all texts is read as an object. -/
theorem readsAs_canonicalText {m : Mapping} {text : String} (nameless : m.textFields? = none)
    (readable : ∀ f ∈ m, Document.Readable f.2) (written : m.canonicalText = .ok text) :
    ∃ fields, ReadsAs text.toList (.object fields) := by
  obtain ⟨ordered, sorted, rfl⟩ := map_eq_ok_iff.mp written
  have perm := perm_of_inOrder nameless sorted
  let field (f : Document × Document) : WrittenField :=
    ⟨spelled f.1, (f.2.toJson .canonical).toList, f.2.reread .canonical⟩
  have reads : ∀ w ∈ ordered.map field, ReadsAs w.value w.document := by
    rw [List.forall_mem_map]
    exact fun f mem => Document.readsAs_write Document.JsonStyle.isSeparating_canonical 0
      (readable f (perm.mem_iff.mp mem))
  have same : (ordered.map fieldText).map String.toList =
      (ordered.map field).map (WrittenField.text false []) := by
    rw [List.map_map, List.map_map]
    refine List.map_congr_left fun f _ => ?_
    simp [field, fieldText, WrittenField.text, String.toList_append]
  cases ordered with
  | nil => exact ⟨[], .empty_object⟩
  | cons f rest =>
    have object := ReadsAs.object false (.nil) .nil .nil .nil _ reads (by simp)
    rw [← same] at object
    refine ⟨putFields [] (((f :: rest).map field).map (WrittenField.back false)), ?_⟩
    rw [String.toList_append, String.toList_append, String.toList_intercalate]
    simpa using object

end Mapping

/-! ## Sheets that were read -/

namespace RuleSheet

/-- Whether names are distinct in all documents within a sheet. -/
structure IsDistinct (s : RuleSheet) : Prop where
  payload : ∀ f ∈ s.payload, Every HasDistinctNames f.2
  forbidden : ∀ d ∈ s.forbidden, Every HasDistinctNames d

variable {s : RuleSheet} {d : Document}

/-- Where the payload and the forbidden actions of a sheet stand in its document. -/
theorem exists_parts_of_ofDocument (read : ofDocument d = .ok s) :
    ∃ payload rules listed, d.lookup "payload" .null = .ok payload ∧
      (if payload.isTrue then Mapping.ofDocument payload else .ok []) = .ok s.payload ∧
      d.require "rules" = .ok rules ∧ rules.lookup "forbidden" (.list []) = .ok listed ∧
      listed.toItems = .ok s.forbidden := by
  unfold ofDocument at read
  obtain ⟨rules, inside, read⟩ := bind_eq_ok_iff.mp read
  obtain ⟨type, -, read⟩ := bind_eq_ok_iff.mp read
  obtain ⟨kind, -, read⟩ := bind_eq_ok_iff.mp read
  obtain ⟨payload, found, read⟩ := bind_eq_ok_iff.mp read
  extract_lets rest at read
  obtain ⟨fields, made, read⟩ : ∃ fields, (if payload.isTrue then Mapping.ofDocument payload
      else .ok []) = .ok fields ∧ rest fields = .ok s := by
    split_ifs at read ⊢ <;> exact bind_eq_ok_iff.mp read
  simp only [rest, bind_eq_ok_iff] at read
  obtain ⟨_, -, _, -, listed, given, items, sequence, read⟩ := read
  obtain ⟨_, -, _, -, _, -, _, -, _, -, _, -, _, -, same⟩ := read
  obtain rfl := Except.ok.inj same
  exact ⟨payload, rules, listed, found, made, inside, given, sequence⟩

/-- A sheet that was read from a document with distinct names has distinct names within. -/
theorem isDistinct_of_ofDocument (distinct : Every HasDistinctNames d) (read : ofDocument d = .ok s) :
    s.IsDistinct := by
  obtain ⟨payload, rules, listed, found, made, inside, given, sequence⟩ :=
    exists_parts_of_ofDocument read
  refine ⟨?_, ?_⟩
  · split_ifs at made
    · exact Mapping.distinct_ofDocument
        (Document.distinct_lookup distinct ((Every.null_iff).mpr trivial) found) made
    · rw [← Except.ok.inj made]
      simp
  · have fine := Document.distinct_lookup (Document.distinct_require distinct inside)
      (by simp [HasDistinctNames]) given
    exact Document.distinct_toItems fine sequence

theorem IsDistinct.rules (distinct : s.IsDistinct) : Every HasDistinctNames s.rules := by
  have listed : Every HasDistinctNames (.list s.forbidden) :=
    (Every.list_iff _).mpr ⟨trivial, distinct.forbidden⟩
  refine (Every.object_iff _).mpr ⟨by simp [HasDistinctNames], ?_⟩
  simp [HasDistinctNames, listed, -Every.list_iff]

theorem IsDistinct.toDocument (distinct : s.IsDistinct) : Every HasDistinctNames s.toDocument := by
  have payload : AreDistinct s.payload.shownFields := by
    rw [Mapping.shownFields_eq_putFields]
    exact AreDistinct.nil.putFields (List.forall_mem_map.mpr distinct.payload)
  refine (Every.object_iff _).mpr ⟨by simp [HasDistinctNames], ?_⟩
  simp [HasDistinctNames, payload.object, distinct.rules, -Every.object_iff]

theorem every_contents_iff {p : Document → Prop} (objects : ∀ fields, p (.object fields)) :
    Every p s.contents ↔ (∀ f ∈ s.payload, Every p f.2) ∧ Every p s.rules := by
  rw [contents, Every.object_iff, List.forall_mem_cons, List.forall_mem_singleton, Every.object_iff,
    List.forall_mem_map]
  simp only [objects, true_and]

/-- The sheet in the canonical style, part by part. -/
theorem textAround_eq (payload : String) : s.textAround payload =
    "\x7b\"payload\":" ++ payload ++ ",\"rules\":" ++ s.rules.toJson .canonical ++ ",\"type\":\"" ++
      s.kind.name ++ "\",\"v\":1\x7d" := rfl

theorem isWhole_textAround_iff (exact : Every IsExact s.rules) (payload : String) :
    Text.IsWhole (s.textAround payload) ↔ Text.IsWhole payload ∧ Whole s.rules := by
  have kind : Text.IsWhole s.kind.name := by cases s.kind <;> decide
  simp only [textAround_eq, Text.isWhole_append, Document.toJson, Document.isWhole_write_iff 0 exact,
    kind, show Text.IsWhole "\x7b\"payload\":" by decide, show Text.IsWhole ",\"rules\":" by decide,
    show Text.IsWhole ",\"type\":\"" by decide, show Text.IsWhole "\",\"v\":1\x7d" by decide,
    true_and, and_true]

/-- A sheet whose payload has other names than texts has a canonical text exactly if there are no
doubles, overlong numbers and halves of pairs in it and its names have an order. -/
theorem canonicalOfMapping_eq_ok_iff {text : String} (nameless : s.payload.textFields? = none) :
    s.canonicalOfMapping = .ok text ↔
      ((∀ f ∈ s.payload, Text.IsWhole (Mapping.spelled f.1) ∧ Every Document.IsWritable f.2) ∧
        Every Document.IsWritable s.rules) ∧
      ∃ payload, s.payload.canonicalText = .ok payload ∧ text = s.textAround payload := by
  have double := Document.realPath?_eq_none_iff "" s.contents
  have long := Document.hasLongNumeral_eq_false_iff s.contents
  rw [every_contents_iff fun _ => trivial] at double long
  unfold canonicalOfMapping
  constructor
  · intro written
    split at written
    · cases written
    next none =>
    obtain ⟨payload, inner, written⟩ := bind_eq_ok_iff.mp written
    dsimp only at written
    split at written
    · cases written
    next short =>
    split at written
    · cases written
    next whole =>
    cases written
    obtain ⟨exact, exact'⟩ := double.mp none
    obtain ⟨short, short'⟩ := long.mp (Bool.not_eq_true _ ▸ short)
    obtain ⟨whole, whole'⟩ := (isWhole_textAround_iff exact' payload).mp
      ((Text.surrogateDefect?_eq_none_iff _).mp whole)
    have each := (Mapping.isWhole_canonicalText_iff nameless exact inner).mp whole
    refine ⟨⟨fun f mem => ⟨(each f mem).1, ?_⟩, ?_⟩, payload, inner, rfl⟩
    · exact Document.every_isWritable_iff.mpr ⟨exact f mem, short f mem, (each f mem).2⟩
    · exact Document.every_isWritable_iff.mpr ⟨exact', short', whole'⟩
  · rintro ⟨⟨values, rules⟩, payload, inner, rfl⟩
    simp only [Document.every_isWritable_iff] at values rules
    have exact : ∀ f ∈ s.payload, Every IsExact f.2 := fun f mem => (values f mem).2.1
    have whole := (Mapping.isWhole_canonicalText_iff nameless exact inner).mpr
      fun f mem => ⟨(values f mem).1, (values f mem).2.2.2⟩
    have around := (isWhole_textAround_iff rules.1 payload).mpr ⟨whole, rules.2.2⟩
    rw [double.mpr ⟨exact, rules.1⟩]
    simp only [inner, ok_bind, long.mpr ⟨fun f mem => (values f mem).2.2.1, rules.2.1⟩,
      (Text.surrogateDefect?_eq_none_iff _).mpr around]
    rfl

/-- The text of a sheet whose payload has other names than texts is parsed as an object in which the
payload is an object. -/
theorem parse_canonicalOfMapping {text : String} (nameless : s.payload.textFields? = none)
    (distinct : s.IsDistinct) (written : s.canonicalOfMapping = .ok text) :
    ∃ payload rules, Document.parse text = .ok (.object [("payload", .object payload),
      ("rules", rules), ("type", .text s.kind.name), ("v", .integer 1)]) := by
  obtain ⟨⟨values, rules⟩, payload, inner, rfl⟩ := (canonicalOfMapping_eq_ok_iff nameless).mp written
  have readable : ∀ {d : Document}, Every Document.IsWritable d → Every HasDistinctNames d →
      Document.Readable d := fun writable =>
    Document.readable_of_canonical (Document.canonical_of_writable writable)
  obtain ⟨fields, reads⟩ := Mapping.readsAs_canonicalText nameless
    (fun f mem => readable (values f mem).2 (distinct.payload f mem)) inner
  have reads' := Document.readsAs_write Document.JsonStyle.isSeparating_canonical 0
    (readable rules distinct.rules)
  refine ⟨fields, s.rules.reread .canonical, ReadsAs.parse ?_⟩
  have kind : ReadsAs (Document.jsonText false s.kind.name).toList (.text s.kind.name) := by
    have back := ReadsAs.text false s.kind.name
    have whole : Text.IsWhole s.kind.name := by cases s.kind <;> decide
    rwa [whole.reread_eq] at back
  have one : ReadsAs "1".toList (.integer 1) := .integer (n := 1) Document.isShort_one
  let ws : List WrittenField :=
    [⟨"payload", payload.toList, .object fields⟩,
      ⟨"rules", (s.rules.toJson .canonical).toList, s.rules.reread .canonical⟩,
      ⟨"type", (Document.jsonText false s.kind.name).toList, .text s.kind.name⟩,
      ⟨"v", "1".toList, .integer 1⟩]
  have each : ∀ w ∈ ws, ReadsAs w.value w.document := by
    simp only [ws, List.forall_mem_cons]
    exact ⟨reads, reads', kind, one, by simp⟩
  have names : ∀ w ∈ ws, Text.IsWhole w.name := by
    simp only [ws, List.forall_mem_cons]
    decide
  have back : ws.map (WrittenField.back false) = ws.map fun w => (w.name, w.document) :=
    List.map_congr_left fun w mem => by rw [WrittenField.back, (names w mem).reread_eq]
  have object := ReadsAs.object false (.nil) .nil .nil .nil ws each (by simp [ws])
  rw [WrittenField.putFields_back false names (by simp [ws]), back] at object
  have quoted : Document.jsonText false s.kind.name = "\"" ++ s.kind.name ++ "\"" := by
    cases s.kind <;> decide
  have spelled : (Document.jsonText false "payload").toList = "\"payload\"".toList ∧
      (Document.jsonText false "rules").toList = "\"rules\"".toList ∧
      (Document.jsonText false "type").toList = "\"type\"".toList ∧
      (Document.jsonText false "v").toList = "\"v\"".toList := by
    decide
  simpa [ws, WrittenField.text, quoted, spelled, List.intercalate, textAround_eq] using object

end RuleSheet

/-! ## What is accepted -/

variable {c : String} {d : Document} {s : RuleSheet}

theorem AnySheet.exists_document_of_ofJson (read : ofJson c = .ok (.current s)) :
    ∃ e, Document.parse c = .ok e ∧ RuleSheet.ofDocument e = .ok s := by
  obtain ⟨e, parsed, read⟩ := bind_eq_ok_iff.mp read
  obtain ⟨version, -, read⟩ := bind_eq_ok_iff.mp read
  split_ifs at read
  · obtain ⟨s', made, same⟩ := bind_eq_ok_iff.mp read
    cases same
    exact ⟨e, parsed, made⟩
  · simp only [bind_eq_ok_iff] at read
    obtain ⟨_, -, _, -, _, -, same⟩ := read
    cases same

/-- What is accepted: a text that is read as a sheet of version 1 that has this text, against the
digest of the text in any case. -/
theorem verifyDigest_eq_true_iff : verifyDigest c d = .ok true ↔
    ∃ s, AnySheet.ofJson c = .ok (.current s) ∧ s.canonical = .ok c ∧
      Text.lower d.shown = Sha256.ofText c := by
  have ascii : Text.isAscii (Sha256.ofText c) = true := (Sha256.isHex_ofBytes _).isAscii
  have same : sameDigest (Sha256.ofText c) (Text.lower d.shown) = .ok true ↔
      Text.lower d.shown = Sha256.ofText c := by
    rw [sameDigest, ascii, Bool.true_and]
    refine ⟨fun equal => ?_, fun equal => ?_⟩
    · split_ifs at equal
      exact (eq_of_beq (Except.ok.inj equal)).symm
    · rw [equal, if_pos ascii, beq_self_eq_true]
  constructor
  · intro accepted
    unfold verifyDigest at accepted
    split at accepted
    · split_ifs at accepted
      cases accepted
    · cases accepted
    · next s read =>
      obtain ⟨text, written, accepted⟩ := bind_eq_ok_iff.mp accepted
      split_ifs at accepted with other
      · cases accepted
      · rw [not_not] at other
        exact ⟨s, read, other ▸ written, same.mp accepted⟩
  · rintro ⟨s, read, written, equal⟩
    unfold verifyDigest
    rw [read]
    simp only [written, ok_bind, ne_eq, not_true_eq_false, if_false]
    exact same.mpr equal

/-- A text that is read as a sheet with this text is the canonical text of the document that it is
parsed as. -/
theorem exists_document_of_accepted (read : AnySheet.ofJson c = .ok (.current s))
    (written : s.canonical = .ok c) :
    ∃ e, Document.parse c = .ok e ∧ e.canonical = .ok c := by
  obtain ⟨e, parsed, made⟩ := AnySheet.exists_document_of_ofJson read
  have distinct := RuleSheet.isDistinct_of_ofDocument (Document.distinct_of_parse parsed) made
  unfold RuleSheet.canonical at written
  split_ifs at written with named
  · exact ⟨_, Document.parse_canonical written distinct.toDocument,
      Document.canonical_reread written⟩
  · -- The payload would have come from the object that it was written as, with texts for names.
    have nameless : s.payload.textFields? = none := by simpa using named
    obtain ⟨payload, rules, parsed'⟩ := RuleSheet.parse_canonicalOfMapping nameless distinct written
    rw [parsed] at parsed'
    cases parsed'
    obtain ⟨found, -, -, there, fields, -⟩ := RuleSheet.exists_parts_of_ofDocument made
    cases there
    split_ifs at fields <;> rw [← Except.ok.inj fields] at nameless
    · rw [Mapping.textFields?_ofFields] at nameless
      cases nameless
    · cases nameless

/-! ## What intents compile to -/

namespace RuleSheet

/-- Whether two sheets are one but for the order of the fields in the payload. -/
structure IsReordering (s s' : RuleSheet) : Prop where
  payload : s.payload.Perm s'.payload
  distinct : (s.payload.map Prod.fst).Nodup
  rest : s = { s' with payload := s.payload }

/-- What a registry enforces does not depend on the payload. -/
theorem IsReordering.toCompact_eq {s s' : RuleSheet} (same : s.IsReordering s') :
    s.toCompact = s'.toCompact := by
  rw [same.rest]
  rfl

theorem IsOver.exists_toCompact {fields : List (String × Document)} (here : s.IsOver fields) :
    ∃ compact, s.toCompact = .ok compact := by
  obtain ⟨names, listed⟩ := here.forbidden
  have scalars : s.forbidden.all Document.isScalar = true := by simp [listed, Document.isScalar]
  exact ⟨_, by rw [toCompact, if_pos scalars]⟩

/-- The sheet of a textual payload comes back with the fields of the payload in order. -/
theorem IsOver.isReordering_reread {p : Payload} (here : s.IsOver p.descriptor)
    (textual : p.IsTextual) (written : s.canonical = .ok c) :
    (s.reread p.descriptor).IsReordering s := by
  have perm := Document.JsonStyle.canonical.order_perm p.descriptor
  have payload : (s.reread p.descriptor).payload =
      .ofFields (Document.JsonStyle.canonical.order p.descriptor) := by
    rw [RuleSheet.reread, here.reread_descriptor textual written]
  refine ⟨?_, ?_, rfl⟩
  · rw [payload, here.payload]
    exact perm.map _
  · have names := (perm.map Prod.fst).nodup_iff.mpr here.distinct.1
    have texts := names.map fun _ _ => Document.text.inj
    rw [List.map_map] at texts
    rwa [payload, Mapping.ofFields, List.map_map]

end RuleSheet

/-- The sheet of a message of some text under which some actions are forbidden. -/
def messageSheet (text : String) (names : List String) : RuleSheet where
  kind := .message
  payload := .ofFields [("text", .text text)]
  scope := .link
  forbidden := names.map .text
  expiry := 0
  maxUses := 0
  lockOnViolation := false
  identity := .never

theorem isOver_messageSheet (text : String) (names : List String) :
    (messageSheet text names).IsOver [("text", .text text)] :=
  ⟨rfl, by simp, ⟨by simp, by simp [HasDistinctNames]⟩, names, rfl⟩

theorem canonical_messageSheet {text : String} {names : List String} (whole : Text.IsWhole text)
    (named : ∀ n ∈ names, Text.IsWhole n) :
    (messageSheet text names).canonical = .ok (messageSheet text names).canonicalText := by
  refine (isOver_messageSheet text names).canonical_of_texts ?_ ?_ Document.isShort_zero
    Document.isShort_zero
  · exact List.forall_mem_singleton.mpr ⟨show Text.IsWhole "text" by decide, text, rfl, whole⟩
  · exact List.forall_mem_map.mpr fun n mem => ⟨n, rfl, named n mem⟩

/-- What an intent compiles to is read as the sheet that it was compiled to, and enforced in the same
way. It is accepted against its digest, in lower case and in upper case. And whatever is accepted
is the canonical text of the document that it is parsed as, against the digest of the text. -/
theorem compile_verifies {i : Intent} {now : Document} {compiled : CompiledRules}
    (textual : i.payload.IsTextual) (compiles : i.compile now = .ok compiled) :
    (∃ read compact, AnySheet.ofJson compiled.canonical = .ok (.current read) ∧
        read.IsReordering compiled.sheet ∧ (AnySheet.current read).toCompact = .ok compact ∧
        compiled.sheet.toCompact = .ok compact) ∧
      compiled.digest = Sha256.ofBytes (Text.utf8 compiled.canonical) ∧
      verifyDigest compiled.canonical (.text compiled.digest) = .ok true ∧
      verifyDigest compiled.canonical (.text (Text.upper compiled.digest)) = .ok true ∧
      ∀ c d, verifyDigest c d = .ok true →
        Text.lower d.shown = Sha256.ofBytes (Text.utf8 c) ∧
        (∃ e, Document.parse c = .ok e ∧ e.canonical = .ok c) ∧
        ∃ s, AnySheet.ofJson c = .ok (.current s) ∧ s.canonical = .ok c := by
  obtain ⟨is, written, digest⟩ := Intent.exists_sheet_of_compile compiles
  have here := is.isOver textual.distinct
  have read := here.ofJson_canonical written
  have same := here.isReordering_reread textual written
  have again := here.canonical_reread written
  obtain ⟨compact, enforced⟩ := here.exists_toCompact
  have hex : Text.IsHex compiled.digest := digest ▸ Sha256.isHex_ofBytes _
  refine ⟨⟨_, compact, read, same, same.toCompact_eq.trans enforced, enforced⟩, digest,
    verifyDigest_eq_true_iff.mpr ⟨_, read, again, ?_⟩,
    verifyDigest_eq_true_iff.mpr ⟨_, read, again, ?_⟩, fun c d accepted => ?_⟩
  · exact (hex.lower_eq rfl).trans digest
  · exact (hex.lower_eq hex.isRecased_upper).trans digest
  · obtain ⟨s, read, written, equal⟩ := verifyDigest_eq_true_iff.mp accepted
    exact ⟨equal, exists_document_of_accepted read written, s, read, written⟩

/-- What a riddle says, full of what has to be escaped. -/
def riddleText : String := "\"é\\😀\n\x07"

/-- A message whose forbidden actions are told out of order and twice. -/
def riddle : Intent where
  kind := .member .message
  name := .text "Riddle"
  payload := .message (.text riddleText)
  forbidden := .ofTexts ["FORWARD", "COPY", "FORWARD"]

theorem compile_verifies_riddle : riddle.payload.IsTextual ∧
    ∃ compiled read, riddle.compile (.integer 5) = .ok compiled ∧
      AnySheet.ofJson compiled.canonical = .ok (.current read) ∧
      read.IsReordering compiled.sheet ∧
      verifyDigest compiled.canonical (.text (Text.upper compiled.digest)) = .ok true := by
  have textual : riddle.payload.IsTextual := by
    intro f mem
    rw [List.mem_singleton.mp mem]
    exact ⟨riddleText, rfl⟩
  have made : riddle.sheet (.integer 5) = .ok (messageSheet riddleText ["COPY", "FORWARD"]) := by
    rfl
  have written : (messageSheet riddleText ["COPY", "FORWARD"]).canonical = .ok _ :=
    canonical_messageSheet (by decide) (by decide)
  have compiles := Intent.compile_of_sheet made written
  obtain ⟨⟨read, -, reads, same, -⟩, -, -, upper, -⟩ := compile_verifies textual compiles
  exact ⟨textual, _, read, compiles, reads, same, upper⟩

/-! ## The order of forbidden actions -/

/-- Whether a list is one of actions that may be forbidden, in the order of their names and each
once. -/
def AreForbiddable (listed : List Document) : Prop :=
  ∃ names : List String, listed = names.map .text ∧ names.Pairwise (· < ·) ∧
    names ⊆ ["COPY", "EXPORT", "FORWARD"]

namespace AreForbiddable

variable {listed listed' : List Document}

/-- Lists of the same actions in order are the same. -/
theorem eq_of_mem_iff (ordered : AreForbiddable listed) (ordered' : AreForbiddable listed')
    (same : ∀ a, a ∈ listed ↔ a ∈ listed') : listed = listed' := by
  obtain ⟨names, rfl, rising, -⟩ := ordered
  obtain ⟨names', rfl, rising', -⟩ := ordered'
  have each : ∀ n, n ∈ names ↔ n ∈ names' := fun n => by simpa using same (.text n)
  rw [rising.eq_of_mem_iff rising' each]

/-- Compiling puts forbidden actions in order. -/
theorem of_normal {actions : Document} (normal : normalForbidden actions = .ok listed) :
    AreForbiddable listed := by
  obtain ⟨items, -, normal⟩ := bind_eq_ok_iff.mp normal
  obtain ⟨given, -, normal⟩ := bind_eq_ok_iff.mp normal
  have sub := (List.filter_sublist (p := given.contains) (l := Forbiddable.all)).map Forbiddable.name
  refine ⟨_, (Except.ok.inj normal).symm.trans (List.map_map ..).symm, ?_, sub.subset⟩
  exact .sublist sub (by decide)

/-- A list is in order exactly if compiling would leave it as it is. -/
theorem iff_normal : AreForbiddable listed ↔ normalForbidden (.list listed) = .ok listed := by
  refine ⟨fun ordered => ?_, of_normal⟩
  obtain ⟨names, rfl, rising, known⟩ := id ordered
  have spelled : names ∈ Set.range (List.map Forbiddable.name) := by
    rw [Set.range_list_map]
    intro n mem
    have word := known mem
    simp only [List.mem_cons, List.not_mem_nil, or_false] at word
    rcases word with rfl | rfl | rfl
    exacts [⟨.copy, rfl⟩, ⟨.export, rfl⟩, ⟨.forward, rfl⟩]
  obtain ⟨actions, rfl⟩ := spelled
  have normal : normalForbidden (.list ((actions.map Forbiddable.name).map .text)) = _ :=
    Intent.normalForbidden_ofTexts actions
  have all : ∀ a : Forbiddable, a ∈ Forbiddable.all := by
    intro a
    cases a <;> decide
  rw [normal, (of_normal normal).eq_of_mem_iff ordered]
  simp [all]

end AreForbiddable

/-- What an accepted text forbids. It lists actions in order exactly if compiling would leave the list
as it is, which holds of every text that an intent compiles to. Two accepted texts that differ in the
list only are one text exactly if the lists are the same; if both are in order, it is enough that the
same actions are listed, and the digests are the same then. -/
theorem accepted_forbidden (accepted : verifyDigest c d = .ok true)
    (read : AnySheet.ofJson c = .ok (.current s)) :
    (AreForbiddable s.forbidden ↔ normalForbidden (.list s.forbidden) = .ok s.forbidden) ∧
      (∀ (i : Intent) (now : Document) (compiled : CompiledRules),
        (∀ f ∈ i.payload.descriptor, Every HasDistinctNames f.2) →
        i.compile now = .ok compiled → compiled.canonical = c → AreForbiddable s.forbidden) ∧
      ∀ c' d' s', verifyDigest c' d' = .ok true → AnySheet.ofJson c' = .ok (.current s') →
        s' = { s with forbidden := s'.forbidden } →
        (c = c' ↔ s.forbidden = s'.forbidden) ∧
        (AreForbiddable s.forbidden → AreForbiddable s'.forbidden →
          (∀ a, a ∈ s.forbidden ↔ a ∈ s'.forbidden) →
          c = c' ∧ Text.lower d.shown = Text.lower d'.shown) := by
  obtain ⟨_, read', written, equal⟩ := verifyDigest_eq_true_iff.mp accepted
  cases read.symm.trans read'
  refine ⟨AreForbiddable.iff_normal, fun i now compiled distinct compiles same => ?_,
    fun c' d' s' accepted' read' apart => ?_⟩
  · obtain ⟨is, written, -⟩ := Intent.exists_sheet_of_compile compiles
    have back := (is.isOver distinct).ofJson_canonical written
    rw [same, read] at back
    cases back
    exact .of_normal is.forbidden
  · obtain ⟨_, again, written', equal'⟩ := verifyDigest_eq_true_iff.mp accepted'
    cases read'.symm.trans again
    have text : c = c' ↔ s.forbidden = s'.forbidden := by
      constructor
      · rintro rfl
        cases read.symm.trans read'
        rfl
      · intro listed
        have same : s' = s := by rw [apart, ← listed]
        rw [same, written] at written'
        exact Except.ok.inj written'
    refine ⟨text, fun ordered ordered' same => ?_⟩
    obtain rfl := text.mpr (ordered.eq_of_mem_iff ordered' same)
    exact ⟨rfl, equal.trans equal'.symm⟩

/-- A message whose forbidden actions are in order. -/
theorem accepted_forbidden_message :
    let s := messageSheet "hi" ["COPY", "FORWARD"]
    verifyDigest s.canonicalText (.text (Sha256.ofText s.canonicalText)) = .ok true ∧
      ∃ read, AnySheet.ofJson s.canonicalText = .ok (.current read) ∧
        AreForbiddable read.forbidden := by
  intro s
  have here : s.IsOver _ := isOver_messageSheet "hi" ["COPY", "FORWARD"]
  have written : s.canonical = .ok _ := canonical_messageSheet (by decide) (by decide)
  have accepted := here.verifyDigest_canonical written
  have read := here.ofJson_canonical written
  exact ⟨accepted, _, read, (accepted_forbidden accepted read).1.mpr (by rfl)⟩

/-- The text of a message whose forbidden actions are out of order. -/
def disorderedText : String :=
  "\x7b\"payload\":\x7b\"text\":\"hi\"\x7d,\"rules\":\x7b\"access_scope\":\"LINK\",\"expiry\":0," ++
    "\"forbidden\":[\"FORWARD\",\"COPY\"],\"lock_on_violation\":false,\"max_uses\":0," ++
    "\"require_identity\":\"NEVER\"\x7d,\"type\":\"MESSAGE\",\"v\":1\x7d"

/-- It is accepted against its digest, and so is the text that lists the same actions in order,
against another. -/
theorem not_areForbiddable_of_accepted :
    let s' := messageSheet "hi" ["COPY", "FORWARD"]
    ∃ s, AnySheet.ofJson disorderedText = .ok (.current s) ∧
      s.forbidden = [.text "FORWARD", .text "COPY"] ∧ ¬ AreForbiddable s.forbidden ∧
      verifyDigest disorderedText (.text (Sha256.ofText disorderedText)) = .ok true ∧
      verifyDigest s'.canonicalText (.text (Sha256.ofText s'.canonicalText)) = .ok true ∧
      s' = { s with forbidden := s'.forbidden } ∧ disorderedText ≠ s'.canonicalText := by
  intro s'
  let s := messageSheet "hi" ["FORWARD", "COPY"]
  have spelled : s.canonicalText = disorderedText := by decide +kernel
  have apart : disorderedText ≠ s'.canonicalText := by decide +kernel
  have here : s.IsOver _ := isOver_messageSheet "hi" ["FORWARD", "COPY"]
  have here' : s'.IsOver _ := isOver_messageSheet "hi" ["COPY", "FORWARD"]
  have written : s.canonical = .ok disorderedText :=
    spelled ▸ canonical_messageSheet (by decide) (by decide)
  have written' : s'.canonical = .ok _ := canonical_messageSheet (by decide) (by decide)
  refine ⟨s, ?_, rfl, ?_, here.verifyDigest_canonical written,
    here'.verifyDigest_canonical written', rfl, apart⟩
  · rw [here.ofJson_canonical written]
    decide +kernel
  · rw [AreForbiddable.iff_normal]
    decide

end RuleBound
