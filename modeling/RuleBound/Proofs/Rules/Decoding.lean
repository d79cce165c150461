import RuleBound.Proofs.Digest
import RuleBound.Proofs.Document.Sameness
import RuleBound.Proofs.Metadata
import RuleBound.Proofs.Rules.Compile

/-!
Reading rule sheets back. The canonical text of a sheet is read as the sheet, with the fields of its
payload in order; nothing that a registry enforces depends on that order, and the sheet that was
read has the text that it was read from. So the text of a sheet is verified against its digest.
-/

namespace RuleBound

open Document (AreDistinct Every HasDistinctNames IsShort IsWritable JsonStyle)

/-! ## Fields of documents -/

namespace Document

variable {d value : Document} {name : String}

theorem require_of_get? (found : d.get? name = some value) : d.require name = .ok value := by
  cases d with
  | object fields =>
    rw [get?] at found
    simp only [require, found]
  | _ => cases found

theorem lookup_of_get? (found : d.get? name = some value) (default : Document) :
    d.lookup name default = .ok value := by
  cases d with
  | object fields =>
    rw [get?] at found
    rw [lookup, found, Option.getD_some]
  | _ => cases found

end Document

/-! ## Payloads with names -/

namespace Mapping

theorem shownFields_eq_putFields (m : Mapping) :
    m.shownFields = Document.putFields [] (m.map fun f => (f.1.shown, f.2)) := by
  rw [Document.putFields, List.foldl_map]
  rfl

/-- Fields with distinct names are shown as they are. -/
theorem shownFields_ofFields {fields : List (String × Document)}
    (distinct : (fields.map Prod.fst).Nodup) : (ofFields fields).shownFields = fields := by
  rw [shownFields_eq_putFields, ofFields, List.map_map]
  change Document.putFields [] (fields.map id) = fields
  rw [List.map_id, Document.putFields_of_nodup (by rwa [List.nil_append]), List.nil_append]

theorem textFields?_ofFields (fields : List (String × Document)) :
    (ofFields fields).textFields? = some fields := by
  unfold textFields? ofFields
  induction fields with
  | nil => rfl
  | cons f fields ih =>
    rw [List.map_cons, List.mapM_cons, ih]
    rfl

end Mapping

namespace RuleSheet

/-- Whether a sheet has the form that intents compile to: a payload of some fields, and forbidden
actions by name. -/
structure IsOver (s : RuleSheet) (fields : List (String × Document)) : Prop where
  payload : s.payload = .ofFields fields
  filled : fields ≠ []
  distinct : AreDistinct fields
  forbidden : ∃ names : List String, s.forbidden = names.map .text

/-- A sheet over some fields as it is read back. -/
def reread (s : RuleSheet) (fields : List (String × Document)) : RuleSheet :=
  { s with payload :=
      .ofFields ((JsonStyle.canonical.order fields).map fun f => (f.1, f.2.reread .canonical)) }

variable {s : RuleSheet} {fields : List (String × Document)} (here : s.IsOver fields)

include here

theorem IsOver.toDocument_eq : s.toDocument = .object [("v", .integer 1),
    ("type", .text s.kind.name), ("payload", .object fields), ("rules", s.rules)] := by
  rw [toDocument, here.payload, Mapping.shownFields_ofFields here.distinct.1]

theorem IsOver.canonical_eq : s.canonical = s.toDocument.canonical := by
  unfold RuleSheet.canonical
  rw [here.payload, Mapping.textFields?_ofFields, Option.isSome_some, if_pos rfl]

omit here in
/-- The rules of a sheet can be written if the forbidden actions and the limits can. -/
theorem every_isWritable_rules_iff : Every IsWritable s.rules ↔
    (∀ d ∈ s.forbidden, Every IsWritable d) ∧ IsShort (.integer s.expiry) ∧
      IsShort (.integer s.maxUses) := by
  have scope : Text.IsWhole s.scope.name := by cases s.scope <;> decide
  have identity : Text.IsWhole s.identity.name := by cases s.identity <;> decide
  have names : IsWritable s.rules := by
    rw [rules, Document.isWritable_object]
    simp only [List.forall_mem_cons]
    decide
  rw [rules] at names
  rw [rules, Every.object_iff, and_iff_right names]
  simp only [List.forall_mem_cons, List.not_mem_nil, false_implies, implies_true, Every.text_iff,
    Every.integer_iff, Every.bool_iff, Every.list_iff, Document.isWritable_text, Document.isWritable_integer,
    Document.isWritable_bool, Document.isWritable_list, scope, identity, true_and, and_true]

omit here in
/-- A sheet with distinct names in its payload can be written as a document if the payload and the
rules can. -/
theorem every_isWritable_toDocument_iff (payload : s.payload.shownFields = fields) :
    Every IsWritable s.toDocument ↔
      (∀ f ∈ fields, Text.IsWhole f.1 ∧ Every IsWritable f.2) ∧ Every IsWritable s.rules := by
  have kind : Text.IsWhole s.kind.name := by cases s.kind <;> decide
  have names : ∀ payload rules : Document, IsWritable (.object [("v", .integer 1),
      ("type", .text s.kind.name), ("payload", payload), ("rules", rules)]) := by
    intro payload rules
    rw [Document.isWritable_object]
    simp only [List.forall_mem_cons]
    decide
  rw [toDocument, payload, Every.object_iff, and_iff_right (names _ _)]
  simp only [List.forall_mem_cons, List.not_mem_nil, false_implies, implies_true, Every.text_iff,
    Every.integer_iff, Every.object_iff, Document.isWritable_text, Document.isWritable_integer,
    Document.isWritable_object, Document.isShort_one, kind, true_and, and_true, forall₂_and]

/-- A sheet that says everything in whole texts and short numbers has a canonical text. -/
theorem IsOver.canonical_of_texts
    (texts : ∀ f ∈ fields, Text.IsWhole f.1 ∧ ∃ t, f.2 = .text t ∧ Text.IsWhole t)
    (named : ∀ d ∈ s.forbidden, ∃ t, d = .text t ∧ Text.IsWhole t)
    (expiry : Document.IsShort (.integer s.expiry))
    (maxUses : Document.IsShort (.integer s.maxUses)) : s.canonical = .ok s.canonicalText := by
  have text : ∀ {d : Document}, (∃ t, d = .text t ∧ Text.IsWhole t) → Every IsWritable d := by
    rintro _ ⟨t, rfl, whole⟩
    exact (Every.text_iff t).mpr ((Document.isWritable_text t).mpr whole)
  have shown : s.payload.shownFields = fields := by
    rw [here.payload, Mapping.shownFields_ofFields here.distinct.1]
  have whole : Every IsWritable s.toDocument := by
    refine (every_isWritable_toDocument_iff shown).mpr ⟨fun f mem => ?_, ?_⟩
    · exact ⟨(texts f mem).1, text (texts f mem).2⟩
    · exact every_isWritable_rules_iff.mpr ⟨fun d mem => text (named d mem), expiry, maxUses⟩
  rw [here.canonical_eq, Document.canonical_of_writable whole, toJson_toDocument]

theorem IsOver.distinct_toDocument : Every HasDistinctNames s.toDocument := by
  obtain ⟨names, listed⟩ := here.forbidden
  have payload := here.distinct.object
  rw [here.toDocument_eq]
  simp [rules, listed, HasDistinctNames, payload]

/-- The fields of a sheet are not shorter for being read back. -/
theorem IsOver.reread {text : String} (written : s.canonical = .ok text) :
    (s.reread fields).IsOver
      ((JsonStyle.canonical.order fields).map fun f => (f.1, f.2.reread .canonical)) := by
  have perm := JsonStyle.canonical.order_perm fields
  rw [here.canonical_eq] at written
  obtain ⟨⟨-, -, whole⟩, -⟩ := (Document.canonical_eq_ok_iff ..).mp written
  rw [here.toDocument_eq] at whole
  refine ⟨rfl, ?_, ⟨?_, ?_⟩, here.forbidden⟩
  · intro none
    rw [List.map_eq_nil_iff] at none
    rw [none] at perm
    exact here.filled perm.symm.eq_nil
  · rw [List.map_map]
    exact (perm.map Prod.fst).nodup_iff.mpr here.distinct.1
  · rw [List.forall_mem_map]
    intro f mem
    have mem' := perm.mem_iff.mp mem
    refine Document.distinct_reread ?_ (here.distinct.2 f mem')
    have payload := whole.within (.object fields) (by simp [Document.children])
    exact payload.within f.2 (List.mem_map_of_mem mem')

/-- What stands in the parts of a sheet that is read back. -/
theorem IsOver.get?_reread {text : String} (written : s.canonical = .ok text) :
    let d := s.toDocument.reread .canonical
    d.get? "v" = some (.integer 1) ∧ d.get? "type" = some (.text s.kind.name) ∧
      d.get? "payload" = some (.object
        ((JsonStyle.canonical.order fields).map fun f => (f.1, f.2.reread .canonical))) ∧
      ∃ rules, d.get? "rules" = some rules ∧
        rules.get? "access_scope" = some (.text s.scope.name) ∧
        rules.get? "forbidden" = some (.list s.forbidden) ∧
        rules.get? "expiry" = some (.integer s.expiry) ∧
        rules.get? "max_uses" = some (.integer s.maxUses) ∧
        rules.get? "lock_on_violation" = some (.bool s.lockOnViolation) ∧
        rules.get? "require_identity" = some (.text s.identity.name) := by
  intro d
  rw [here.canonical_eq] at written
  have readable := Document.readable_of_canonical written here.distinct_toDocument
  obtain ⟨⟨-, -, whole⟩, -⟩ := (Document.canonical_eq_ok_iff ..).mp written
  rw [here.toDocument_eq] at readable whole
  have field := @Document.get?_reread .canonical _ readable
  have part := @Document.get?_reread .canonical _
    (readable.within s.rules (by simp [Document.children]))
  have names := (whole.within (.object fields) (by simp [Document.children])).here
  have listed := (whole.within s.rules (by simp [Document.children])).within (.list s.forbidden)
    (by simp [Document.children, rules])
  have scalar : ∀ name : String, Text.IsWhole name →
      (Document.text name).reread .canonical = .text name := by
    intro name whole
    rw [Document.reread, whole.reread_eq]
  have forbidden : (Document.list s.forbidden).reread .canonical = .list s.forbidden := by
    obtain ⟨texts, given⟩ := here.forbidden
    rw [Document.reread, Document.rereadItems_eq_map]
    congr 1
    refine (List.map_congr_left fun item mem => ?_).trans (List.map_id _)
    have text := listed.within item mem
    rw [given] at mem
    obtain ⟨name, -, rfl⟩ := List.mem_map.mp mem
    exact scalar name text.here
  have d_eq : d = Document.reread .canonical (.object [("v", .integer 1),
      ("type", .text s.kind.name), ("payload", .object fields), ("rules", s.rules)]) :=
    congrArg (Document.reread .canonical) here.toDocument_eq
  have kind : Text.IsWhole s.kind.name := by cases s.kind <;> decide
  have scope : Text.IsWhole s.scope.name := by cases s.scope <;> decide
  have identity : Text.IsWhole s.identity.name := by cases s.identity <;> decide
  rw [d_eq]
  refine ⟨(field "v" rfl).trans (by simp [Document.reread]),
    (field "type" rfl).trans (by rw [scalar _ kind]), (field "payload" rfl).trans ?_,
    _, field "rules" rfl, (part "access_scope" rfl).trans (by rw [scalar _ scope]),
    (part "forbidden" rfl).trans (by rw [forbidden]),
    (part "expiry" rfl).trans (by simp [Document.reread]),
    (part "max_uses" rfl).trans (by simp [Document.reread]),
    (part "lock_on_violation" rfl).trans (by simp [Document.reread]),
    (part "require_identity" rfl).trans (by rw [scalar _ identity])⟩
  rw [Document.reread_canonical_object names]

/-- A sheet is read back from its document. -/
theorem IsOver.ofDocument_reread {text : String} (written : s.canonical = .ok text) :
    RuleSheet.ofDocument (s.toDocument.reread .canonical) = .ok (s.reread fields) := by
  obtain ⟨-, kind, payload, rules, inside, scope, forbidden, expiry, maxUses, lock, identity⟩ :=
    here.get?_reread written
  have filled : (Document.object ((JsonStyle.canonical.order fields).map
      fun f => (f.1, f.2.reread .canonical))).isTrue = true := by
    have nonempty := (here.reread written).filled
    rw [Document.isTrue, Bool.not_eq_true', ← Bool.not_eq_true, List.isEmpty_iff]
    exact nonempty
  have known : ObjectKind.ofName (.text s.kind.name) = .ok s.kind := by cases s.kind <;> rfl
  have known' : AccessScope.ofName (.text s.scope.name) = .ok s.scope := by cases s.scope <;> rfl
  have known'' : IdentityDemand.ofSpelling (.text s.identity.name) = .ok s.identity := by
    cases s.identity <;> rfl
  unfold RuleSheet.ofDocument
  rw [Document.require_of_get? inside, ok_bind, Document.require_of_get? kind, ok_bind, known,
    ok_bind, Document.lookup_of_get? payload, ok_bind, if_pos filled]
  simp only [Mapping.ofDocument, ok_bind, Document.require_of_get? scope, known',
    Document.lookup_of_get? forbidden, Document.toItems, Document.lookup_of_get? expiry,
    Document.toInteger, Document.lookup_of_get? maxUses, Document.lookup_of_get? lock,
    Document.lookup_of_get? identity, known'', Document.isTrue]
  rfl

/-- The canonical text of a sheet is read as the sheet. -/
theorem IsOver.ofJson_canonical {text : String} (written : s.canonical = .ok text) :
    AnySheet.ofJson text = .ok (.current (s.reread fields)) := by
  obtain ⟨version, -⟩ := here.get?_reread written
  have read := here.ofDocument_reread written
  rw [here.canonical_eq] at written
  have readable := Document.readable_of_canonical written here.distinct_toDocument
  obtain ⟨-, rfl⟩ := (Document.canonical_eq_ok_iff ..).mp written
  have parsed := Document.parse_toJson JsonStyle.isSeparating_canonical readable
  have first : (Document.integer 1).isNumber 1 = true := by rfl
  unfold AnySheet.ofJson AnySheet.ofDocument
  rw [parsed, ok_bind, Document.lookup_of_get? version, ok_bind, if_pos first, read]
  rfl

/-- A sheet that was read back has the text that it was read from. -/
theorem IsOver.canonical_reread {text : String} (written : s.canonical = .ok text) :
    (s.reread fields).canonical = .ok text := by
  have again := here.reread written
  rw [here.canonical_eq, Document.canonical_eq_ok_iff, here.toDocument_eq] at written
  obtain ⟨⟨exact, short, whole⟩, rfl⟩ := written
  have names := (whole.within (.object fields) (by simp [Document.children])).here
  have payload := Document.reread_canonical_object names
  have written : (s.reread fields).toDocument.toJson .canonical = s.toDocument.toJson .canonical := by
    have part : Document.write .canonical 1 (.object (s.reread fields).payload.shownFields) =
        Document.write .canonical 1 (.object s.payload.shownFields) := by
      rw [again.payload, here.payload, Mapping.shownFields_ofFields again.distinct.1,
        Mapping.shownFields_ofFields here.distinct.1, ← payload]
      exact Document.write_reread (whole.within _ (by simp [Document.children])) 1
    rw [toJson_toDocument, toJson_toDocument, canonicalText, canonicalText, part]
    rfl
  rw [again.canonical_eq, Document.canonical_eq_ok_iff, written, here.toDocument_eq,
    again.toDocument_eq, ← payload]
  have parts := fun (p : Document → Prop) (payload : Document) =>
    Every.object_iff (p := p) [("v", .integer 1), ("type", .text s.kind.name),
      ("payload", payload), ("rules", s.rules)]
  simp only [List.forall_mem_cons] at parts
  obtain ⟨-, v, kind, exact, rules, last⟩ := (parts ..).mp exact
  obtain ⟨-, v', kind', short, rules', last'⟩ := (parts ..).mp short
  obtain ⟨top, v'', kind'', whole, rules'', last''⟩ := (parts ..).mp whole
  refine ⟨⟨(parts ..).mpr ⟨trivial, v, kind, Document.exact_reread whole exact, rules, last⟩,
    (parts ..).mpr ⟨trivial, v', kind', Document.short_reread whole short, rules', last'⟩,
    (parts ..).mpr ⟨?_, v'', kind'', Document.whole_reread whole, rules'', last''⟩⟩, rfl⟩
  simpa only [Document.HasWholeTexts, List.forall_mem_cons] using top

/-- The text of a sheet is verified against its digest. -/
theorem IsOver.verifyDigest_canonical {text : String} (written : s.canonical = .ok text) :
    verifyDigest text (.text (Sha256.ofText text)) = .ok true := by
  have hex : Text.IsHex (Sha256.ofText text) := Sha256.isHex_ofBytes _
  have lower : Text.lower (Document.text (Sha256.ofText text)).shown = Sha256.ofText text :=
    hex.lower_eq rfl
  unfold verifyDigest
  rw [here.ofJson_canonical written]
  simp only [here.canonical_reread written, ok_bind, lower, sameDigest, hex.isAscii]
  simp

end RuleSheet

namespace Intent

variable {i : Intent} {now : Document} {s : RuleSheet}

/-- Whether a sheet says what an intent says at a moment, part by part. -/
structure IsSheet (i : Intent) (now : Document) (s : RuleSheet) : Prop where
  kind : ObjectKind.ofGiven i.kind = .ok s.kind
  payload : s.payload = .ofFields i.payload.descriptor
  scope : AccessScope.ofGiven i.scope = .ok s.scope
  forbidden : normalForbidden i.forbidden = .ok s.forbidden
  expiry : i.expiryAt now = .ok s.expiry
  maxUses : i.maxUses.toInteger = .ok s.maxUses
  response : ∃ response, ViolationResponse.ofSpelling i.onViolation = .ok response ∧
    s.lockOnViolation = decide (response = .lock)
  identity : IdentityDemand.ofSpelling i.identity = .ok s.identity

theorem isSheet_of_sheet (made : i.sheet now = .ok s) : i.IsSheet now s := by
  unfold sheet at made
  obtain ⟨expiry, moment, made⟩ := bind_eq_ok_iff.mp made
  obtain ⟨kind, named, made⟩ := bind_eq_ok_iff.mp made
  obtain ⟨scope, within, made⟩ := bind_eq_ok_iff.mp made
  obtain ⟨forbidden, listed, made⟩ := bind_eq_ok_iff.mp made
  obtain ⟨maxUses, counted, made⟩ := bind_eq_ok_iff.mp made
  obtain ⟨response, spelled, made⟩ := bind_eq_ok_iff.mp made
  obtain ⟨identity, demanded, made⟩ := bind_eq_ok_iff.mp made
  cases made
  exact ⟨named, rfl, within, listed, moment, counted, ⟨response, spelled, rfl⟩, demanded⟩

/-- What an intent compiles to is its sheet, with the canonical text of that and the digest of the
text. -/
theorem exists_sheet_of_compile {compiled : CompiledRules} (compiles : i.compile now = .ok compiled) :
    i.IsSheet now compiled.sheet ∧ compiled.sheet.canonical = .ok compiled.canonical ∧
      compiled.digest = Sha256.ofText compiled.canonical := by
  obtain ⟨sheet, made, compiles⟩ := bind_eq_ok_iff.mp compiles
  obtain ⟨canonical, written, compiles⟩ := bind_eq_ok_iff.mp compiles
  cases compiles
  exact ⟨isSheet_of_sheet made, written, rfl⟩

theorem compile_of_sheet {text : String} (made : i.sheet now = .ok s)
    (written : s.canonical = .ok text) : i.compile now = .ok ⟨text, Sha256.ofText text, s⟩ := by
  rw [compile, made, ok_bind, written]
  rfl

/-- The names of what the rules commit to are distinct. -/
theorem nodup_descriptor (p : Payload) : (p.descriptor.map Prod.fst).Nodup := by
  cases p with
  | file name mimeType content reference =>
    by_cases given : reference.isTrue = true <;> simp [Payload.descriptor, given]
  | _ => simp [Payload.descriptor]

theorem descriptor_ne_nil (p : Payload) : p.descriptor ≠ [] := by
  cases p <;> simp [Payload.descriptor]

/-- The sheet of an intent has the form that is read back, if its payload has distinct names. -/
theorem IsSheet.isOver (is : i.IsSheet now s)
    (distinct : ∀ f ∈ i.payload.descriptor, Every HasDistinctNames f.2) :
    s.IsOver i.payload.descriptor := by
  refine ⟨is.payload, descriptor_ne_nil _, ⟨nodup_descriptor _, distinct⟩, ?_⟩
  obtain ⟨items, -, listed⟩ := bind_eq_ok_iff.mp is.forbidden
  obtain ⟨actions, -, listed⟩ := bind_eq_ok_iff.mp listed
  refine ⟨(Forbiddable.all.filter actions.contains).map Forbiddable.name, ?_⟩
  rw [← Except.ok.inj listed, List.map_map]
  rfl

end Intent

end RuleBound
