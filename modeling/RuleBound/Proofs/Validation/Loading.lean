import RuleBound.Proofs.Validation.Cleaning
import RuleBound.Proofs.Validation.Reading

/-!
Loading intents. A document is loaded as an intent or refused with its issues, unless one of three
things goes wrong that no issue tells of: an issue would quote a number that is too long to be
written, the content of a file cannot be encoded, or the address of a link cannot be split.
-/

namespace RuleBound

open Validation (checkAddress payloadIssues sanitize)

/-! ## Addresses -/

namespace Web

/-- If an address cannot be split, that is for its host. -/
theorem exists_host_of_splitParameters {text : String} {f : Fault}
    (failed : splitParameters text = .error f) : ∃ fault, f = .host fault := by
  have whole : split text = .error f := by
    unfold splitParameters at failed
    cases parted : split text with
    | error g =>
      rw [parted] at failed
      exact failed
    | ok a =>
      simp only [parted, ok_bind] at failed
      split at failed <;> cases failed
  unfold split at whole
  extract_lets cs cs' at whole
  generalize splitScheme cs' = parts at whole
  obtain ⟨scheme, rest⟩ := parts
  cases hosted : splitHost rest with
  | error g =>
    simp only [hosted, error_bind] at whole
    cases whole
    unfold splitHost at hosted
    split at hosted
    · extract_lets host at hosted
      split at hosted
      · next fault _ => exact ⟨fault, (Except.error.inj hosted).symm⟩
      · cases hosted
    · cases hosted
  | ok parts =>
    simp only [hosted, ok_bind] at whole
    split at whole
    · exact ⟨_, (Except.error.inj whole).symm⟩
    · cases whole

end Web

namespace Validation

/-- Whether a text is neither empty nor too long when it has been cleaned. -/
def IsSized (s : String) : Prop := 1 ≤ (sanitize s).length ∧ (sanitize s).length ≤ 4096

theorem checkPlainText_eq_accepted_iff {field s clean : String} {warnings : List String} :
    checkPlainText field (.text s) = .accepted clean warnings ↔
      clean = sanitize s ∧ warnings = [] ∧ IsSized s := by
  rw [checkPlainText, checkText_eq_accepted_iff]
  unfold IsSized defaultMaxLength
  constructor
  · rintro ⟨rfl, rfl, some, few, -⟩
    exact ⟨rfl, rfl, by omega, by omega⟩
  · rintro ⟨rfl, rfl, some, few⟩
    exact ⟨rfl, rfl, by omega, by omega, rfl⟩

/-- A text that is too short or too long is refused. -/
theorem exists_refused_of_not_isSized {s : String} (unsized : ¬ IsSized s) (field : String) :
    ∃ issues, checkPlainText field (.text s) = .refused issues := by
  cases checked : checkPlainText field (.text s) with
  | accepted clean warnings => exact (unsized (checkPlainText_eq_accepted_iff.mp checked).2.2).elim
  | refused issues => exact ⟨issues, rfl⟩

/-- The check of an address ends in a fault exactly if the address, of fitting length, cannot be
split. -/
theorem checkAddress_eq_error_iff (field s : String) (f : Fault) :
    checkAddress field (.text s) = .error f ↔
      IsSized s ∧ Web.splitParameters (sanitize s) = .error f := by
  unfold checkAddress
  by_cases sized : IsSized s
  · rw [checkPlainText_eq_accepted_iff.mpr ⟨rfl, rfl, sized⟩]
    cases parted : Web.splitParameters (sanitize s) with
    | error g => simp [parted, sized]
    | ok a =>
      simp only [parted, ok_bind, reduceCtorEq, and_false, iff_false]
      split <;> exact fun failed => by cases failed
  · obtain ⟨issues, refused⟩ := exists_refused_of_not_isSized sized field
    simp [refused, sized]

theorem exists_accessIssues (scope : AccessScope) (items : List Document) :
    ∃ issues, accessIssues scope (.list items) = .ok issues := by
  unfold accessIssues
  split
  · exact ⟨_, rfl⟩
  · split <;> exact ⟨_, rfl⟩

end Validation

/-! ## Reviews -/

namespace Intent

variable {i : Intent} {t : Terms}

/-- Nothing can go wrong in the review of an intent that was read but what goes wrong in that of its
payload; and it is the intent that is accepted, if one is. -/
theorem IsReading.review_cases {parts : List (String × Document)} (reading : i.IsReading t parts) :
    (∃ issues, payloadIssues i.payload = .ok issues ∧ ∃ outcome, i.review = .ok outcome ∧
        ∀ i' warnings, outcome = .accepted i' warnings → i' = i) ∨
      ∃ f, payloadIssues i.payload = .error f ∧ i.review = .error f := by
  obtain ⟨members, ⟨texts, whitelist⟩, read⟩ := reading
  obtain ⟨access, checked⟩ := Validation.exists_accessIssues t.scope (texts.map .text)
  unfold review
  rw [members.kind, members.scope, whitelist, Document.ofTexts]
  simp only [ObjectKind.ofGiven, AccessScope.ofGiven, ok_bind, read.kind_eq, if_true, checked]
  cases payloadIssues i.payload with
  | ok issues =>
    refine .inl ⟨issues, rfl, _, rfl, fun i' warnings accepted => ?_⟩
    split at accepted
    · exact (Review.accepted.inj accepted).1.symm
    · cases accepted
  | error f => exact .inr ⟨f, rfl, rfl⟩

end Intent

namespace Payload

variable {parts : List (String × Document)} {kind : ObjectKind} {p : Payload}

theorem IsRead.exists_bytes (read : IsRead parts .file p) :
    ∃ b, contentField parts = .ok (.bytes b) := by
  cases read with
  | file mimeType held textual => exact ⟨_, held⟩

/-- The review of a payload that was read ends in a fault exactly if it is a link whose address, of
fitting length, cannot be split. -/
theorem IsRead.payloadIssues_eq_error_iff (read : IsRead parts kind p)
    (textual : ∀ name ∈ Intent.partNames, ∀ v, Document.field? parts name = some v →
      ∃ s, v = .text s) (f : Fault) :
    payloadIssues p = .error f ↔ kind = .link ∧ ∃ s, Document.field? parts "url" = some (.text s) ∧
      Validation.IsSized s ∧ Web.splitParameters (sanitize s) = .error f := by
  cases read with
  | link =>
    rw [payloadIssues, map_eq_error_iff, textField, Validation.checkAddress_eq_error_iff]
    cases found : Document.field? parts "url" with
    | none =>
      have empty : ¬ Validation.IsSized "" := by
        unfold Validation.IsSized
        decide
      simp [Document.shown, empty]
    | some v =>
      obtain ⟨s, rfl⟩ := textual "url" (by decide) v found
      simp [Document.shown]
  | _ => simp [payloadIssues]

end Payload

/-! ## Documents -/

namespace Document

variable {d : Document} {f : Fault}

/-- The faults that loading a document ends in though they are no issues, each with what there is in
the document that it comes from. -/
inductive Escapes (d : Document) : Fault → Prop
  | numeral (long : Schema.intent.quotesLongNumeral d = true) : Escapes d (.numeralTooLong none)
  | content (fits : Schema.intent.Fits d) {parts : List (String × Document)} {s : String}
      {defect : Text.SurrogateDefect} (kind : d.get? "type" = some (.text "FILE"))
      (payload : d.get? "payload" = some (.object parts))
      (content : field? parts "content" = some (.text s))
      (defective : Text.encode s = .error defect) : Escapes d (.notEncodable defect)
  | address (fits : Schema.intent.Fits d) {parts : List (String × Document)} {s : String}
      {f : Fault} (kind : d.get? "type" = some (.text "LINK"))
      (payload : d.get? "payload" = some (.object parts))
      (url : field? parts "url" = some (.text s)) (sized : Validation.IsSized s)
      (unsplit : Web.splitParameters (sanitize s) = .error f) : Escapes d f

theorem Escapes.isValueFault (escapes : d.Escapes f) : f.isValueFault = true := by
  cases escapes with
  | numeral => rfl
  | content => rfl
  | address _ _ _ _ _ unsplit =>
    obtain ⟨fault, rfl⟩ := Web.exists_host_of_splitParameters unsplit
    rfl

/-- A document that fits quotes nothing. -/
theorem quotesLongNumeral_of_fits (fits : Schema.intent.Fits d) :
    Schema.intent.quotesLongNumeral d = false := by
  rw [Schema.quotesLongNumeral, (Schema.issues_eq_nil_iff [] _ d).mpr fits]
  rfl

theorem checkIntentDocument_of_fits (fits : Schema.intent.Fits d) :
    checkIntentDocument d = .ok d := by
  unfold checkIntentDocument reviewIntentDocument
  rw [quotesLongNumeral_of_fits fits, (Schema.report_eq_nil_iff _ d).mpr fits]
  rfl

theorem checkIntentDocument_of_not_fits (misfit : ¬ Schema.intent.Fits d)
    (short : Schema.intent.quotesLongNumeral d = false) :
    ∃ issues, checkIntentDocument d = .error (.invalid issues) := by
  rw [← Schema.report_eq_nil_iff] at misfit
  unfold checkIntentDocument reviewIntentDocument
  rw [short, if_neg Bool.false_ne_true]
  split
  · next none => exact (misfit none).elim
  · exact ⟨_, rfl⟩

end Document

/-- The kind of a document with the fields of an intent is the one that it says. -/
theorem Intent.IsForm.kind_eq {d : Document} {t : Terms} {parts : List (String × Document)}
    (form : IsForm d t parts) (kind : ObjectKind) (is : d.get? "type" = some (.text kind.name)) :
    t.kind = kind := by
  have same := form.kind.symm.trans is
  rw [Option.some.injEq, Document.text.injEq] at same
  revert same
  cases t.kind <;> cases kind <;> decide

/-- A document that fits is loaded as it is read and reviewed. -/
theorem loadIntent_of_fits {d : Document} (fits : Schema.intent.Fits d) :
    loadIntent d = Intent.ofDocument d >>= fun i => i.review >>= Review.toExcept := by
  unfold loadIntent
  rw [Document.checkIntentDocument_of_fits fits, ok_bind]

/-- What escapes is what loading ends in. -/
theorem Document.Escapes.loadIntent_eq {d : Document} {f : Fault} (escapes : d.Escapes f) :
    loadIntent d = .error f := by
  cases escapes with
  | numeral long => rw [loadIntent, checkIntentDocument, if_pos long, error_bind]
  | @content fits parts s defect kind payload content defective =>
    obtain ⟨t, parts', form, ⟨i, -, reading⟩ | ⟨s', defect', -, content', defective', failed⟩⟩ :=
      Intent.ofDocument_of_fits fits
    all_goals cases form.payload.symm.trans payload
    · -- A file that was read has content that can be encoded.
      have held := reading.payload
      rw [form.kind_eq .file kind] at held
      obtain ⟨b, held⟩ := held.exists_bytes
      simp [Payload.contentField, content, Payload.textContent, defective] at held
    · cases content'.symm.trans content
      cases defective'.symm.trans defective
      rw [loadIntent_of_fits fits, failed, error_bind]
  | @address fits parts s f kind payload url sized unsplit =>
    obtain ⟨t, parts', form, ⟨i, made, reading⟩ | ⟨s', defect, file, -⟩⟩ :=
      Intent.ofDocument_of_fits fits
    all_goals
      cases form.payload.symm.trans payload
      have link := form.kind_eq .link kind
    · have failed := (reading.payload.payloadIssues_eq_error_iff form.textual f).mpr
        ⟨link, s, url, sized, unsplit⟩
      rcases reading.review_cases with ⟨issues, answered, -⟩ | ⟨g, failed', reviewed⟩
      · cases answered.symm.trans failed
      · cases failed'.symm.trans failed
        rw [loadIntent_of_fits fits, made, ok_bind, reviewed, error_bind]
    · cases link.symm.trans file

/-- If nothing escapes, loading answers or lists issues. -/
theorem loadIntent_cases (d : Document) :
    ((∃ i, loadIntent d = .ok i) ∨ ∃ issues, loadIntent d = .error (.invalid issues)) ∨
      ∃ f, d.Escapes f := by
  cases long : Schema.intent.quotesLongNumeral d with
  | true => exact .inr ⟨_, .numeral long⟩
  | false =>
    by_cases fits : Schema.intent.Fits d
    · obtain ⟨t, parts, form, ⟨i, made, reading⟩ | ⟨s, defect, kind, content, defective, -⟩⟩ :=
        Intent.ofDocument_of_fits fits
      · rcases reading.review_cases with ⟨-, -, outcome, reviewed, -⟩ | ⟨f, failed, -⟩
        · rw [loadIntent_of_fits fits, made, ok_bind, reviewed, ok_bind]
          cases outcome with
          | accepted i warnings => exact .inl (.inl ⟨i, rfl⟩)
          | refused issues => exact .inl (.inr ⟨issues, rfl⟩)
        · obtain ⟨kind, s, url, sized, unsplit⟩ :=
            (reading.payload.payloadIssues_eq_error_iff form.textual f).mp failed
          have link := form.kind
          rw [kind] at link
          exact .inr ⟨f, .address fits link form.payload url sized unsplit⟩
      · have file := form.kind
        rw [kind] at file
        exact .inr ⟨_, .content fits file form.payload content defective⟩
    · obtain ⟨issues, refused⟩ := Document.checkIntentDocument_of_not_fits fits long
      exact .inl (.inr ⟨issues, by rw [loadIntent, refused, error_bind]⟩)

/-- A document is loaded as an intent or refused with its issues exactly if nothing escapes; and
what escapes is the fault that loading ends in, and one of a bad value. -/
theorem loadIntent_answers_iff (d : Document) :
    (((∃ i, loadIntent d = .ok i) ∨ ∃ issues, loadIntent d = .error (.invalid issues)) ↔
        ∀ f, ¬ d.Escapes f) ∧
      ∀ f, d.Escapes f → loadIntent d = .error f ∧ f.isValueFault = true := by
  refine ⟨⟨fun answers f escapes => ?_, fun none => ?_⟩,
    fun f escapes => ⟨escapes.loadIntent_eq, escapes.isValueFault⟩⟩
  · rcases answers with ⟨i, loaded⟩ | ⟨issues, refused⟩
    · cases escapes.loadIntent_eq.symm.trans loaded
    · cases escapes.loadIntent_eq.symm.trans refused
      cases escapes.isValueFault
  · exact (loadIntent_cases d).resolve_right fun ⟨f, escapes⟩ => none f escapes

/-! ## A link with half a bracket -/

/-- A link whose address opens a bracket and does not close it. -/
def bracketDocument : Document :=
  .object [("name", .text "memo"), ("payload", .object [("url", .text "http://[")]),
    ("type", .text "LINK")]

theorem loadIntent_answers_bracketDocument : bracketDocument.Escapes (.host .brackets) ∧
    loadIntent bracketDocument = .error (.host .brackets) := by
  have fits : Schema.intent.Fits bracketDocument :=
    (Schema.issues_eq_nil_iff [] _ _).mp (by with_unfolding_all rfl)
  have sized : Validation.IsSized "http://[" := by
    unfold Validation.IsSized
    decide
  have escapes : bracketDocument.Escapes (.host .brackets) :=
    .address fits rfl rfl rfl sized (by with_unfolding_all rfl)
  exact ⟨escapes, ((loadIntent_answers_iff bracketDocument).2 _ escapes).1⟩

/-- The address cannot be split, and that is no issue. -/
theorem not_loadIntent_bracketDocument :
    ¬ ((∃ i, loadIntent bracketDocument = .ok i) ∨
      ∃ issues, loadIntent bracketDocument = .error (.invalid issues)) := by
  have failed : loadIntent bracketDocument = .error (.host .brackets) := by
    with_unfolding_all rfl
  rw [failed]
  rintro (⟨_, ⟨⟩⟩ | ⟨_, ⟨⟩⟩)

end RuleBound
