import RuleBound.Proofs.Guard
import RuleBound.Proofs.Registry.Recheck
import RuleBound.Proofs.Rules.Verification

/-!
Texts that checking a digest does not stand. Most of what is no commitment is told from one: what
is not JSON, what lacks a part or has one of the wrong type, what is a legacy sheet or a sheet in
other than its canonical text. Three things are not foreseen: JSON that is no object, an infinite
limit that the reading gets to, and a sheet that was read but cannot be written.
-/

namespace RuleBound

open Document (Every HasDistinctNames IsWritable)

/-! ## Faults of reading -/

/-- Whether reading fails only in ways that tell a text from a commitment. -/
abbrev Disqualified {α : Type} (x : Except Fault α) : Prop :=
  FailsBy (fun f => f.disqualifies = true) x

namespace Document

theorem disqualified_require (d : Document) (name : String) : Disqualified (d.require name) := by
  unfold require
  split
  · split
    · exact failsBy_ok _
    · exact failsBy_error rfl
  · exact failsBy_error rfl

theorem disqualified_toItems (d : Document) : Disqualified d.toItems := by
  rcases d.toItems_cases with answers | failed
  · exact failsBy_of_exists answers
  · exact failed ▸ failsBy_error rfl

/-- An object answers for all its fields. -/
theorem exists_lookup_of_require {d part : Document} {name : String}
    (required : d.require name = .ok part) (other : String) (default : Document) :
    ∃ v, d.lookup other default = .ok v := by
  cases d with
  | object fields => exact ⟨_, rfl⟩
  | _ => cases required

theorem disqualified_parse (c : String) : Disqualified (parse c) := by
  unfold parse
  split
  · exact failsBy_ok _
  all_goals exact failsBy_error rfl

/-- Whether a document is infinite, of either sign. -/
def IsInfinite (d : Document) : Prop := ∃ negative, d = .real (.infinite negative)

theorem IsInfinite.toInteger_eq {d : Document} (infinite : d.IsInfinite) :
    d.toInteger = .error .outOfRange := by
  obtain ⟨negative, rfl⟩ := infinite
  rfl

/-- All that has no whole part but what is infinite is told from a limit. -/
theorem failsBy_toInteger (d : Document) :
    FailsBy (fun f => f.disqualifies = true ∨ d.IsInfinite) d.toInteger := by
  cases d with
  | bool | integer => exact failsBy_ok _
  | null | list | object => exact failsBy_error (.inl rfl)
  | text s =>
    unfold toInteger
    dsimp only
    split
    · exact failsBy_ok _
    · exact failsBy_error (.inl rfl)
    · exact failsBy_error (.inl rfl)
  | real x =>
    cases x with
    | nan => exact failsBy_error (.inl rfl)
    | infinite negative => exact failsBy_error (.inr ⟨negative, rfl⟩)
    | finite negative mantissa exponent =>
      refine failsBy_of_exists ?_
      cases exponent with
      | ofNat e => exact ⟨_, rfl⟩
      | negSucc e => exact ⟨_, rfl⟩

end Document

theorem disqualified_byName {α : Type} (all : List α) (name : α → String) (d : Document) :
    Disqualified (byName all name d) := by
  unfold byName
  split
  · exact failsBy_ok _
  · split
    · exact failsBy_error rfl
    · exact failsBy_error rfl

theorem disqualified_bySpelling {α : Type} (kind : String) (all : List α) (name : α → String)
    (d : Document) : Disqualified (bySpelling kind all name d) := by
  unfold bySpelling
  split
  · exact failsBy_ok _
  · exact failsBy_error rfl

theorem Mapping.disqualified_ofDocument (d : Document) : Disqualified (Mapping.ofDocument d) := by
  have pairs : ∀ items index known, Disqualified (ofPairs index known items) := by
    intro items
    induction items with
    | nil => exact fun _ _ => failsBy_ok _
    | cons item items ih =>
      intro index known
      rw [ofPairs]
      split
      · exact failsBy_error rfl
      · split
        · exact ih _ _
        · exact failsBy_error rfl
      · exact failsBy_error rfl
  unfold ofDocument
  split
  · exact failsBy_ok _
  · have sequence := d.disqualified_toItems
    split
    · next f failed => exact failsBy_error (sequence.reason f failed)
    · exact pairs _ _ _

namespace RuleSheet

/-- Whether all that is read of a sheet before its limits is there and of the right type; the
limits are among its rules. -/
structure Opens (d rules : Document) : Prop where
  inside : d.require "rules" = .ok rules
  kind : ∃ name kind, d.require "type" = .ok name ∧ ObjectKind.ofName name = .ok kind
  payload : ∃ payload m, d.lookup "payload" .null = .ok payload ∧
    (if payload.isTrue then Mapping.ofDocument payload else .ok []) = .ok m
  scope : ∃ name scope, rules.require "access_scope" = .ok name ∧
    AccessScope.ofName name = .ok scope
  forbidden : ∃ listed items, rules.lookup "forbidden" (.list []) = .ok listed ∧
    listed.toItems = .ok items

/-- Whether the first of the two limits among rules that is no whole number is infinite. -/
inductive HasInfiniteLimit (rules : Document) : Prop
  | expiry {limit : Document} (given : rules.lookup "expiry" (.integer 0) = .ok limit)
      (infinite : limit.IsInfinite) : HasInfiniteLimit rules
  | maxUses {expiry limit : Document} {n : Int}
      (before : rules.lookup "expiry" (.integer 0) = .ok expiry) (whole : expiry.toInteger = .ok n)
      (given : rules.lookup "max_uses" (.integer 0) = .ok limit) (infinite : limit.IsInfinite) :
      HasInfiniteLimit rules

/-- Reading a sheet stops in a way that tells the document from one, or at an infinite limit. -/
def Stops (d : Document) (f : Fault) : Prop :=
  f.disqualifies = true ∨ ∃ rules, Opens d rules ∧ HasInfiniteLimit rules

theorem failsBy_ofDocument (d : Document) : FailsBy (Stops d) (ofDocument d) := by
  have told {α : Type} {x : Except Fault α} (told : Disqualified x) : FailsBy (Stops d) x :=
    told.mono fun _ => .inl
  unfold ofDocument
  refine (told (d.disqualified_require _)).bind fun rules inside =>
    (told (d.disqualified_require _)).bind fun type typed =>
    (told (disqualified_byName ..)).bind fun kind known => ?_
  obtain ⟨payload, found⟩ := Document.exists_lookup_of_require inside "payload" .null
  rw [found, ok_bind]
  extract_lets rest
  have tail : ∀ fields, (if payload.isTrue then Mapping.ofDocument payload else .ok []) = .ok fields →
      FailsBy (Stops d) (rest fields) := by
    intro fields made
    refine (told (rules.disqualified_require _)).bind fun name spans =>
      (told (disqualified_byName ..)).bind fun scope named => ?_
    have answers := Document.exists_lookup_of_require spans
    obtain ⟨listed, given⟩ := answers "forbidden" (.list [])
    obtain ⟨expiry, first⟩ := answers "expiry" (.integer 0)
    obtain ⟨maxUses, second⟩ := answers "max_uses" (.integer 0)
    obtain ⟨lock, locks⟩ := answers "lock_on_violation" (.bool false)
    obtain ⟨identity, asked⟩ := answers "require_identity" (.text "NEVER")
    rw [given, ok_bind]
    refine (told listed.disqualified_toItems).bind fun items sequence => ?_
    have opens : Opens d rules := ⟨inside, ⟨type, kind, typed, known⟩, ⟨payload, fields, found, made⟩,
      ⟨name, scope, spans, named⟩, listed, items, given, sequence⟩
    rw [first, ok_bind]
    refine FailsBy.bind ⟨fun f failed => ?_⟩ fun n whole => ?_
    · exact (expiry.failsBy_toInteger.reason f failed).imp_right fun infinite =>
        ⟨rules, opens, .expiry first infinite⟩
    rw [second, ok_bind]
    refine FailsBy.bind ⟨fun f failed => ?_⟩ fun uses _ => ?_
    · exact (maxUses.failsBy_toInteger.reason f failed).imp_right fun infinite =>
        ⟨rules, opens, .maxUses first whole second infinite⟩
    rw [locks, ok_bind, asked, ok_bind]
    exact (told (disqualified_bySpelling ..)).bind fun _ _ => failsBy_ok _
  split_ifs at tail ⊢
  · exact (told (Mapping.disqualified_ofDocument _)).bind tail
  · exact (failsBy_ok _).bind tail

/-- A sheet is not read past an infinite limit. -/
theorem Opens.ofDocument_eq {d rules : Document} (opens : Opens d rules)
    (limit : HasInfiniteLimit rules) : ofDocument d = .error .outOfRange := by
  obtain ⟨inside, ⟨type, kind, typed, known⟩, ⟨payload, fields, found, made⟩,
    ⟨name, scope, spans, named⟩, listed, items, given, sequence⟩ := opens
  unfold ofDocument
  rw [inside, ok_bind, typed, ok_bind, known, ok_bind, found, ok_bind]
  extract_lets rest
  have tail : rest fields = .error .outOfRange := by
    simp only [rest, spans, named, given, sequence, ok_bind]
    cases limit with
    | expiry first infinite => rw [first, ok_bind, infinite.toInteger_eq, error_bind]
    | maxUses first whole second infinite =>
      rw [first, ok_bind, whole, ok_bind, second, ok_bind, infinite.toInteger_eq, error_bind]
  split_ifs at made ⊢
  · rw [made, ok_bind, tail]
  · rw [made, ok_bind, tail]

end RuleSheet

/-! ## Sheets that can be written -/

namespace Mapping

/-- The names of a mapping are those known before, and perhaps the one that is put. -/
theorem names_put (m : Mapping) (name value : Document) :
    (m.put name value).map Prod.fst = m.map Prod.fst ∨
      name ∉ m.map Prod.fst ∧ (m.put name value).map Prod.fst = m.map Prod.fst ++ [name] := by
  induction m with
  | nil => exact .inr ⟨by simp, rfl⟩
  | cons f m ih =>
    obtain ⟨known, v⟩ := f
    rw [put]
    by_cases same : sameName known name = true
    · rw [if_pos same]
      exact .inl rfl
    · rw [if_neg same]
      rcases ih with kept | ⟨fresh, added⟩
      · exact .inl (by rw [List.map_cons, List.map_cons, kept])
      · refine .inr ⟨?_, by rw [List.map_cons, List.map_cons, added, List.cons_append]⟩
        rw [List.map_cons, List.mem_cons, not_or]
        refine ⟨?_, fresh⟩
        rintro rfl
        exact same (by simp [sameName])

theorem nodup_put {m : Mapping} (nodup : (m.map Prod.fst).Nodup) (name value : Document) :
    ((m.put name value).map Prod.fst).Nodup := by
  rcases names_put m name value with kept | ⟨fresh, added⟩
  · rw [kept]
    exact nodup
  · rw [added]
    exact List.concat_eq_append ▸ (List.nodup_concat _ _).mpr ⟨fresh, nodup⟩

theorem nodup_ofPairs {index : Nat} {known m : Mapping} {items : List Document}
    (nodup : (known.map Prod.fst).Nodup) (made : ofPairs index known items = .ok m) :
    (m.map Prod.fst).Nodup := by
  induction items generalizing index known with
  | nil =>
    cases made
    exact nodup
  | cons item items ih =>
    rw [ofPairs] at made
    split at made
    · cases made
    · split_ifs at made
      exact ih (nodup_put nodup _ _) made
    · cases made

/-- The names of a mapping are distinct if those of the document are. -/
theorem nodup_ofDocument {d : Document} {m : Mapping} (distinct : Every HasDistinctNames d)
    (made : ofDocument d = .ok m) : (m.map Prod.fst).Nodup := by
  unfold ofDocument at made
  split at made
  · next fields =>
    cases made
    have names := ((Every.object_iff fields).mp distinct).1.map fun _ _ => Document.text.inj
    rw [List.map_map] at names
    rwa [ofFields, List.map_map]
  · split at made
    · cases made
    · have none : (([] : Mapping).map Prod.fst).Nodup := List.nodup_nil
      exact nodup_ofPairs none made

variable {m : Mapping}

theorem eq_ofFields {fields : List (String × Document)} (textual : m.textFields? = some fields) :
    m = ofFields fields := by
  induction m generalizing fields with
  | nil =>
    cases textual
    rfl
  | cons f m ih =>
    obtain ⟨name, v⟩ := f
    unfold textFields? at textual
    rw [List.mapM_cons] at textual
    simp only [Option.bind_eq_bind, Option.bind_eq_some_iff, Option.map_eq_some_iff] at textual
    obtain ⟨_, ⟨t, named, rfl⟩, rest, textual, same⟩ := textual
    cases same
    cases name with
    | text s =>
      cases named
      rw [ih textual]
      rfl
    | _ => cases named

theorem textFields?_eq_none_iff : m.textFields? = none ↔ ¬ ∀ f ∈ m, ∃ t, f.1 = .text t := by
  cases textual : m.textFields? with
  | some fields =>
    rw [eq_ofFields textual, ofFields, List.forall_mem_map]
    simp
  | none =>
    simp only [true_iff]
    intro named
    obtain ⟨fields, same⟩ : ∃ fields, m = ofFields fields := by
      refine ⟨m.map fun f => (f.1.shown, f.2), ?_⟩
      rw [ofFields, List.map_map]
      conv_lhs => rw [← List.map_id m]
      refine List.map_congr_left fun f mem => ?_
      obtain ⟨t, is⟩ := named f mem
      exact Prod.ext (by simp [is, Document.shown]) rfl
    rw [same, textFields?_ofFields] at textual
    cases textual

/-- Names that are not all texts have an order exactly if there are no two of them, or all are
numbers. -/
theorem exists_inOrder_iff (nameless : m.textFields? = none) :
    (∃ ordered, m.inOrder = .ok ordered) ↔
      (∀ f ∈ m, f.1.numeric?.isSome = true) ∨ m.length < 2 := by
  unfold inOrder hasNumbers
  rw [nameless]
  by_cases few : m.length < 2
  · rw [if_pos few]
    exact iff_of_true ⟨m, rfl⟩ (.inr few)
  rw [if_neg few]
  cases numbers : m.all fun f => f.1.numeric?.isSome with
  | true => exact iff_of_true ⟨_, rfl⟩ (.inl (List.all_eq_true.mp numbers))
  | false =>
    refine iff_of_false (by simp) ?_
    rintro (all | few')
    · rw [List.all_eq_true.mpr all] at numbers
      cases numbers
    · exact few few'

end Mapping

namespace RuleSheet

/-- Whether a sheet can be written: the names of its payload have an order, being texts or numbers
all, none has half of a pair, and no value anywhere is or holds a double, an overlong number or half
of a pair. -/
structure IsWritable (s : RuleSheet) : Prop where
  ordered : (∀ f ∈ s.payload, ∃ t, f.1 = .text t) ∨
    (∀ f ∈ s.payload, f.1.numeric?.isSome = true) ∨ s.payload.length < 2
  payload : ∀ f ∈ s.payload, Text.IsWhole (Mapping.spelled f.1) ∧ Every Document.IsWritable f.2
  forbidden : ∀ d ∈ s.forbidden, Every Document.IsWritable d
  expiry : Document.IsShort (.integer s.expiry)
  maxUses : Document.IsShort (.integer s.maxUses)

variable {s : RuleSheet}

/-- Exactly what can be written has a canonical text. -/
theorem exists_canonical_iff (nodup : (s.payload.map Prod.fst).Nodup) :
    (∃ text, s.canonical = .ok text) ↔ s.IsWritable := by
  have parts : s.IsWritable ↔ ((∀ f ∈ s.payload, ∃ t, f.1 = .text t) ∨
      (∀ f ∈ s.payload, f.1.numeric?.isSome = true) ∨ s.payload.length < 2) ∧
      (∀ f ∈ s.payload, Text.IsWhole (Mapping.spelled f.1) ∧ Every Document.IsWritable f.2) ∧
      Every Document.IsWritable s.rules := by
    rw [every_isWritable_rules_iff]
    exact ⟨fun ⟨a, b, c, d, e⟩ => ⟨a, b, c, d, e⟩, fun ⟨a, b, c, d, e⟩ => ⟨a, b, c, d, e⟩⟩
  rw [parts]
  cases textual : s.payload.textFields? with
  | none =>
    have named := Mapping.textFields?_eq_none_iff.mp textual
    simp only [canonical, textual, Option.isSome_none, Bool.false_eq_true, if_false, named, false_or,
      canonicalOfMapping_eq_ok_iff textual, ← Mapping.exists_inOrder_iff textual,
      Mapping.canonicalText, map_eq_ok_iff]
    constructor
    · rintro ⟨text, fine, payload, ⟨ordered, sorted, -⟩, -⟩
      exact ⟨⟨ordered, sorted⟩, fine⟩
    · rintro ⟨⟨ordered, sorted⟩, fine⟩
      exact ⟨_, fine, _, ⟨ordered, sorted, rfl⟩, rfl⟩
  | some fields =>
    have same := Mapping.eq_ofFields textual
    have names : (fields.map Prod.fst).Nodup := by
      rw [same, Mapping.ofFields, List.map_map] at nodup
      exact List.Nodup.of_map Document.text (by rwa [List.map_map])
    have shown : s.payload.shownFields = fields := by
      rw [same, Mapping.shownFields_ofFields names]
    have canonical : s.canonical = s.toDocument.canonical := by
      rw [RuleSheet.canonical, textual, Option.isSome_some, if_pos rfl]
    simp only [canonical, Document.canonical_eq_ok_iff, ← Document.every_isWritable_iff,
      every_isWritable_toDocument_iff shown, exists_and_left, exists_eq, and_true]
    rw [same, Mapping.ofFields]
    simp only [List.forall_mem_map, Document.text.injEq, exists_eq', implies_true, true_or, true_and]
    rfl

end RuleSheet

/-! ## Checking -/

variable {c : String}

/-- Whether a text holds what checking a digest against it is not prepared for. -/
inductive Upsets (c : String) : Prop
  /-- It is JSON but no object. -/
  | bare {d : Document} (parsed : Document.parse c = .ok d) (other : ∀ fields, d ≠ .object fields)
  /-- The expiry of a legacy sheet is infinite. -/
  | legacy {d version limit : Document} (parsed : Document.parse c = .ok d)
      (tag : d.lookup "v" .null = .ok version) (zero : version.isNumber 0 = true)
      (given : d.require "expiry" = .ok limit) (infinite : limit.IsInfinite)
  /-- A limit of a sheet that is fine up to it is infinite. -/
  | limit {d version rules : Document} (parsed : Document.parse c = .ok d)
      (tag : d.lookup "v" .null = .ok version) (one : version.isNumber 1 = true)
      (opens : RuleSheet.Opens d rules) (infinite : RuleSheet.HasInfiniteLimit rules)
  /-- It is read as a sheet that cannot be written. -/
  | unwritable {s : RuleSheet} (read : AnySheet.ofJson c = .ok (.current s)) (unfit : ¬ s.IsWritable)

/-- The names in the payload of a sheet that was read are distinct. -/
theorem AnySheet.nodup_of_ofJson {s : RuleSheet} (read : ofJson c = .ok (.current s)) :
    (s.payload.map Prod.fst).Nodup := by
  obtain ⟨e, parsed, made⟩ := exists_document_of_ofJson read
  obtain ⟨payload, -, -, found, fields, -⟩ := RuleSheet.exists_parts_of_ofDocument made
  have distinct := Document.distinct_lookup (Document.distinct_of_parse parsed)
    ((Every.null_iff).mpr trivial) found
  split_ifs at fields
  · exact Mapping.nodup_ofDocument distinct fields
  · rw [← Except.ok.inj fields]
    exact List.nodup_nil

theorem AnySheet.failsBy_ofJson (c : String) :
    FailsBy (fun f => f.disqualifies = true ∨ Upsets c) (ofJson c) := by
  have told {α : Type} {x : Except Fault α} (told : Disqualified x) :
      FailsBy (fun f => f.disqualifies = true ∨ Upsets c) x :=
    told.mono fun _ => .inl
  refine (told (Document.disqualified_parse c)).bind fun d parsed => ?_
  unfold ofDocument
  cases d with
  | object fields =>
    obtain ⟨version, tag⟩ : ∃ version, (Document.object fields).lookup "v" .null = .ok version :=
      ⟨_, rfl⟩
    rw [tag, ok_bind]
    split_ifs with one zero
    · refine FailsBy.bind ⟨fun f failed => ?_⟩ fun _ _ => failsBy_ok _
      refine ((RuleSheet.failsBy_ofDocument _).reason f failed).imp_right ?_
      rintro ⟨rules, opens, infinite⟩
      exact .limit parsed tag one opens infinite
    · refine (told (Document.disqualified_require ..)).bind fun limit given =>
        FailsBy.bind ⟨fun f failed => ?_⟩ fun _ _ =>
          (told (Document.disqualified_require ..)).bind fun _ _ => failsBy_ok _
      exact (limit.failsBy_toInteger.reason f failed).imp_right (.legacy parsed tag zero given)
    · exact failsBy_error (.inl rfl)
  | _ => exact ⟨fun _ _ => .inr (.bare parsed nofun)⟩

/-- A text that upsets is not read, in a way that does not tell it from a commitment, or is read as
a sheet that cannot be written. -/
theorem Upsets.reading (upsets : Upsets c) :
    (∃ f, AnySheet.ofJson c = .error f ∧ f.disqualifies = false) ∨
      ∃ s, AnySheet.ofJson c = .ok (.current s) ∧ ¬ s.IsWritable := by
  unfold AnySheet.ofJson
  cases upsets with
  | unwritable read unfit => exact .inr ⟨_, read, unfit⟩
  | @bare d parsed other =>
    refine .inl ⟨.noPart, ?_, rfl⟩
    rw [parsed, ok_bind, AnySheet.ofDocument]
    cases d with
    | object fields => exact absurd rfl (other fields)
    | _ => rfl
  | legacy parsed tag zero given infinite =>
    refine .inl ⟨.outOfRange, ?_, rfl⟩
    have one : ¬ _ := fun one => absurd (Document.eq_of_isNumber one zero) one_ne_zero
    rw [parsed, ok_bind, AnySheet.ofDocument, tag, ok_bind, if_neg one, if_pos zero, given, ok_bind,
      infinite.toInteger_eq, error_bind]
  | limit parsed tag one opens infinite =>
    refine .inl ⟨.outOfRange, ?_, rfl⟩
    rw [parsed, ok_bind, AnySheet.ofDocument, tag, ok_bind, if_pos one, opens.ofDocument_eq infinite,
      error_bind]

/-- Checking an ASCII digest answers exactly for the texts that do not upset it. -/
theorem verifyDigest_answers_iff {digest : String} (ascii : Text.isAscii digest = true) :
    (∃ b, verifyDigest c (.text digest) = .ok b) ↔ ¬ Upsets c := by
  unfold verifyDigest
  constructor
  · rintro ⟨b, answers⟩ upsets
    rcases upsets.reading with ⟨f, failed, unforeseen⟩ | ⟨s, read, unfit⟩
    · rw [failed] at answers
      simp only [unforeseen, Bool.false_eq_true, if_false] at answers
      cases answers
    · rw [read] at answers
      obtain ⟨text, written, -⟩ := bind_eq_ok_iff.mp answers
      exact unfit ((RuleSheet.exists_canonical_iff (AnySheet.nodup_of_ofJson read)).mp
        ⟨text, written⟩)
  · intro steady
    cases read : AnySheet.ofJson c with
    | error f =>
      have told := ((AnySheet.failsBy_ofJson c).reason f read).resolve_right steady
      exact ⟨false, if_pos told⟩
    | ok any =>
      cases any with
      | legacy s => exact ⟨false, rfl⟩
      | current s =>
        have fit : s.IsWritable := not_not.mp fun unfit => steady (.unwritable read unfit)
        obtain ⟨text, written⟩ :=
          (RuleSheet.exists_canonical_iff (AnySheet.nodup_of_ofJson read)).mpr fit
        simp only [written, ok_bind]
        split_ifs
        · exact ⟨false, rfl⟩
        · exact exists_sameDigest_iff.mpr
            ⟨(Sha256.isHex_ofBytes _).isAscii, Text.isAscii_lower ascii⟩

/-- The text of a message does not upset the check. -/
theorem verifyDigest_answers_message :
    let text := (messageSheet "hi" ["COPY", "FORWARD"]).canonicalText
    Text.isAscii (Sha256.ofText text) = true ∧ ¬ Upsets text := by
  intro text
  have written : (messageSheet "hi" ["COPY", "FORWARD"]).canonical = .ok text :=
    canonical_messageSheet (by decide) (by decide)
  have ascii : Text.isAscii (Sha256.ofText text) = true := (Sha256.isHex_ofBytes _).isAscii
  have accepted := (isOver_messageSheet "hi" ["COPY", "FORWARD"]).verifyDigest_canonical written
  exact ⟨ascii, (verifyDigest_answers_iff ascii).mp ⟨true, accepted⟩⟩

/-- A digest of zeros. -/
def zeros : String := String.ofList (List.replicate 64 '0')

/-- A list upsets the check. -/
theorem not_verifyDigest_list :
    Text.isAscii zeros = true ∧ verifyDigest "[]" (.text zeros) = .error .noPart ∧
      ¬ ∃ b, verifyDigest "[]" (.text zeros) = .ok b := by
  have failed : verifyDigest "[]" (.text zeros) = .error .noPart := by rfl
  refine ⟨by rfl, failed, ?_⟩
  rintro ⟨b, answers⟩
  cases failed.symm.trans answers

end RuleBound
