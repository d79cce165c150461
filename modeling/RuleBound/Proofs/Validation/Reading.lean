import RuleBound.Proofs.Rules.Commitment
import RuleBound.Proofs.Schema

/-!
Reading intents from documents that fit their schema. The schema allows of every field what is then
asked of it: the names of vocabularies, whole numbers and lists are read without fault, and all that
is left to go wrong is the payload.
-/

namespace RuleBound

/-! ## Fields with defaults -/

namespace Document

variable {fields : List (String × Document)} {name : String}

/-- What a field is asked for it has if that is true of its default. -/
theorem exists_lookup {P : Document → Prop} (given : ∀ v, field? fields name = some v → P v)
    (default : Document) (otherwise : P default) :
    ∃ v, (object fields).lookup name default = .ok v ∧ P v := by
  rw [lookup]
  cases found : field? fields name with
  | none => exact ⟨default, rfl, otherwise⟩
  | some v => exact ⟨v, rfl, given v found⟩

theorem exists_toInteger_of_holds {d : Document} (whole : SchemaType.integer.holds d = true) :
    ∃ n, d.toInteger = .ok n := by
  cases d with
  | integer n => exact ⟨n, rfl⟩
  | real x =>
    replace whole : x.isWhole = true := whole
    unfold Binary64.isWhole at whole
    split at whole
    · next num den ratio =>
      have truncated : x.truncate? = some (num.tdiv den) := by
        rw [Binary64.truncate?, ratio]
        rfl
      cases x with
      | nan => cases ratio
      | infinite s => cases ratio
      | finite s m e => exact ⟨num.tdiv den, by simp only [toInteger, truncated]⟩
    · cases whole
  | _ => cases whole

end Document

/-! ## Vocabularies -/

theorem ObjectKind.ofName_upper (kind : ObjectKind) :
    ObjectKind.ofName (Intent.upperText (.text kind.name)) = .ok kind := by
  cases kind <;> rfl

theorem AccessScope.ofName_upper (scope : AccessScope) :
    AccessScope.ofName (Intent.upperText (.text scope.name)) = .ok scope := by
  cases scope <;> rfl

theorem Forbiddable.ofSpelling_upper (a : Forbiddable) :
    Forbiddable.ofSpelling (Intent.upperText (.text a.name)) = .ok a := by
  cases a <;> rfl

theorem ViolationResponse.ofSpelling_upper (r : ViolationResponse) :
    ViolationResponse.ofSpelling (Intent.upperText (.text r.name)) = .ok r := by
  cases r <;> rfl

theorem IdentityDemand.ofSpelling_upper (demand : IdentityDemand) :
    IdentityDemand.ofSpelling (Intent.upperText (.text demand.name)) = .ok demand := by
  cases demand <;> rfl

namespace Intent

/-- The names of the fields that a payload may have in a document. -/
def partNames : List String :=
  ["text", "fileName", "mimeType", "contentRef", "content", "url", "scope", "resource"]

/-- Whether a document has the fields of an intent, with the terms and the parts of a payload that
they say. -/
structure IsForm (d : Document) (t : Terms) (parts : List (String × Document)) : Prop where
  kind : d.get? "type" = some (.text t.kind.name)
  named : ∃ s, d.get? "name" = some (.text s)
  payload : d.get? "payload" = some (.object parts)
  textual : ∀ name ∈ partNames, ∀ v, Document.field? parts name = some v → ∃ s, v = .text s
  described : ∃ v, d.lookup "description" (.text "") = .ok v
  scope : d.lookup "allowedUsers" (.text "LINK") = .ok (.text t.scope.name)
  forbidden : d.lookup "forbiddenActions" (.list []) =
    .ok (.list (t.forbidden.map fun a => .text a.name))
  expirySeconds : ∃ v n, d.lookup "expirySeconds" (.integer 0) = .ok v ∧ v.toInteger = .ok n
  onViolation : d.lookup "violationAction" (.text "REFUSE") = .ok (.text t.response.name)
  maxUses : ∃ v n, d.lookup "maxUses" (.integer 0) = .ok v ∧ v.toInteger = .ok n
  identity : d.lookup "requireIdentity" (.text "NEVER") = .ok (.text t.identity.name)
  whitelist : ∃ items, d.lookup "whitelist" (.list []) = .ok (.list items)

/-! ## What the schema allows -/

theorem exists_text_of_holds {d : Document} (is : SchemaType.string.holds d = true) :
    ∃ s, d = .text s := by
  cases d with
  | text s => exact ⟨s, rfl⟩
  | _ => cases is

theorem exists_list_of_holds {d : Document} (is : SchemaType.array.holds d = true) :
    ∃ items, d = .list items := by
  cases d with
  | list items => exact ⟨items, rfl⟩
  | _ => cases is

/-- One of the names of some members of a vocabulary is the name of a member. -/
theorem exists_name_of_choice {α : Type} (name : α → String) {choices : List String}
    (members : List α) (named : members.map name = choices) {d : Document}
    (chosen : ∃ c ∈ choices, d = .text c) : ∃ a, d = .text (name a) := by
  obtain ⟨c, mem, rfl⟩ := chosen
  rw [← named] at mem
  obtain ⟨a, -, rfl⟩ := List.mem_map.mp mem
  exact ⟨a, rfl⟩

theorem exists_names_of_choices {α : Type} {name : α → String} {items : List Document}
    (each : ∀ d ∈ items, ∃ a, d = .text (name a)) :
    ∃ members : List α, items = members.map fun a => .text (name a) := by
  induction items with
  | nil => exact ⟨[], rfl⟩
  | cons d items ih =>
    rw [List.forall_mem_cons] at each
    obtain ⟨⟨a, rfl⟩, rest⟩ := each
    obtain ⟨members, rfl⟩ := ih rest
    exact ⟨a :: members, rfl⟩

/-- The parts of a payload that fits its schema are texts. -/
theorem exists_parts_of_fits {d : Document} (fits : Schema.payload.Fits d) :
    ∃ parts, d = .object parts ∧
      ∀ name ∈ partNames, ∀ v, Document.field? parts name = some v → ∃ s, v = .text s := by
  cases d with
  | object parts =>
    refine ⟨parts, rfl, ?_⟩
    simp only [Schema.payload, Schema.string, Schema.Fits, Schema.FitsAll, List.map_cons,
      List.map_nil, List.cons_append, List.nil_append] at fits
    obtain ⟨-, text, fileName, mimeType, contentRef, content, url, scope, resource, -⟩ := fits
    simp only [partNames, List.forall_mem_cons]
    exact ⟨fun v is => exists_text_of_holds (text v is),
      fun v is => exists_text_of_holds (fileName v is),
      fun v is => exists_text_of_holds (mimeType v is),
      fun v is => exists_text_of_holds (contentRef v is),
      fun v is => exists_text_of_holds (content v is),
      fun v is => exists_text_of_holds (url v is),
      fun v is => exists_text_of_holds (scope v is),
      fun v is => exists_text_of_holds (resource v is), List.forall_mem_nil _⟩
  | _ => exact absurd fits.1 Bool.false_ne_true

/-- A document that fits the schema of intents has the fields of one. -/
theorem exists_isForm_of_fits {d : Document} (fits : Schema.intent.Fits d) :
    ∃ t parts, IsForm d t parts := by
  cases d with
  | object fields =>
    simp only [Schema.intent, Schema.string, Schema.count, Schema.Fits, Schema.FitsAll] at fits
    obtain ⟨-, needed, -, kind, name, description, payload, scope, forbidden, expirySeconds,
      onViolation, maxUses, identity, whitelist, -⟩ := fits
    simp only [List.forall_mem_cons] at needed
    obtain ⟨⟨kind', isKind⟩, ⟨name', isName⟩, ⟨payload', isPayload⟩, -⟩ := needed
    obtain ⟨kind, rfl⟩ := exists_name_of_choice ObjectKind.name ObjectKind.all rfl
      (kind kind' isKind)
    obtain ⟨s, rfl⟩ := exists_text_of_holds (name name' isName).1
    obtain ⟨parts, rfl, textual⟩ := exists_parts_of_fits (payload payload' isPayload)
    -- The schema speaks of these fields only if they are there; their defaults are such values too.
    obtain ⟨_, looked, scope, rfl⟩ := Document.exists_lookup
      (fun v is => exists_name_of_choice AccessScope.name
        [.any, .link, .list, .creatorOnly, .singleUse] rfl (scope v is)) (.text "LINK") ⟨.link, rfl⟩
    obtain ⟨_, listed, forbidden, rfl⟩ := Document.exists_lookup
      (P := fun v => ∃ as : List Forbiddable, v = .list (as.map fun a => .text a.name))
      (fun v is => by
        obtain ⟨items, rfl⟩ := exists_list_of_holds (forbidden v is).1
        obtain ⟨as, rfl⟩ := exists_names_of_choices fun d mem =>
          exists_name_of_choice Forbiddable.name [.forward, .copy, .export] rfl
            ((forbidden _ is).2.1 d mem)
        exact ⟨as, rfl⟩) (.list []) ⟨[], rfl⟩
    obtain ⟨_, timed, seconds, isSeconds⟩ := Document.exists_lookup
      (fun v is => Document.exists_toInteger_of_holds (expirySeconds v is).1) (.integer 0) ⟨0, rfl⟩
    obtain ⟨_, answered, response, rfl⟩ := Document.exists_lookup
      (fun v is => exists_name_of_choice ViolationResponse.name ViolationResponse.all rfl
        (onViolation v is)) (.text "REFUSE") ⟨.refuse, rfl⟩
    obtain ⟨_, counted, number, isNumber⟩ := Document.exists_lookup
      (fun v is => Document.exists_toInteger_of_holds (maxUses v is).1) (.integer 0) ⟨0, rfl⟩
    obtain ⟨_, demanded, demand, rfl⟩ := Document.exists_lookup
      (fun v is => exists_name_of_choice IdentityDemand.name IdentityDemand.all rfl
        (identity v is)) (.text "NEVER") ⟨.never, rfl⟩
    obtain ⟨_, named, members, rfl⟩ := Document.exists_lookup
      (fun v is => exists_list_of_holds (whitelist v is).1) (.list []) ⟨[], rfl⟩
    exact ⟨⟨kind, scope, forbidden, response, demand⟩, parts, isKind, ⟨s, isName⟩, isPayload,
      textual, ⟨_, rfl⟩, looked, listed, ⟨_, seconds, timed, isSeconds⟩, answered,
      ⟨_, number, counted, isNumber⟩, demanded, ⟨members, named⟩⟩
  | _ => exact absurd fits.1 Bool.false_ne_true

/-! ## What is read -/

theorem mapM_ofSpelling_upper (actions : List Forbiddable) :
    ((actions.map fun a => Document.text a.name).mapM fun a =>
      Forbiddable.ofSpelling (upperText a)) = .ok actions := by
  induction actions with
  | nil => rfl
  | cons a actions ih =>
    rw [List.map_cons, List.mapM_cons, Forbiddable.ofSpelling_upper, ih]
    rfl

/-- A document with the fields of an intent is read as one, unless its payload is not. -/
theorem IsForm.ofDocument_eq {d : Document} {t : Terms} {parts : List (String × Document)}
    (form : IsForm d t parts) :
    ∃ i : Intent, i.HasTerms t ∧ (∃ texts, i.whitelist = .ofTexts texts) ∧
      Intent.ofDocument d =
        (Payload.ofFields t.kind parts).map fun p => { i with payload := p } := by
  obtain ⟨s, named⟩ := form.named
  obtain ⟨description, described⟩ := form.described
  obtain ⟨_, seconds, timed, isSeconds⟩ := form.expirySeconds
  obtain ⟨_, number, counted, isNumber⟩ := form.maxUses
  obtain ⟨items, listed⟩ := form.whitelist
  have body : (if (Document.object parts).isTrue then Document.object parts else .object []) =
      .object parts := by
    cases parts <;> rfl
  refine ⟨{
    kind := .member t.kind
    name := .text s
    description := .text description.shown
    payload := .message .null
    scope := .member t.scope
    forbidden := .ofTexts (t.forbidden.map Forbiddable.name)
    expirySeconds := .integer seconds
    onViolation := .text t.response.name
    maxUses := .integer number
    identity := .text t.identity.name
    whitelist := .ofTexts (items.map fun a => Text.strip a.shown) },
    ⟨rfl, rfl, rfl, rfl, rfl⟩, ⟨_, rfl⟩, ?_⟩
  unfold Intent.ofDocument
  simp only [Document.require_of_get? form.kind, Document.lookup_of_get? named,
    Document.lookup_of_get? form.payload, described, form.scope, form.forbidden, timed, isSeconds,
    form.onViolation, counted, isNumber, form.identity, listed, ok_bind, body, Document.toItems,
    Payload.ofDocument, ObjectKind.ofName_upper, AccessScope.ofName_upper, mapM_ofSpelling_upper,
    ViolationResponse.ofSpelling_upper, IdentityDemand.ofSpelling_upper]
  cases Payload.ofFields t.kind parts <;> rfl

end Intent

namespace Payload

/-- What a payload of a kind is that was read from parts which are texts. -/
inductive IsRead (parts : List (String × Document)) : ObjectKind → Payload → Prop
  | message : IsRead parts .message (.message (textField parts "text"))
  | file (mimeType : String) {content : Bytes} {reference : Document}
      (held : contentField parts = .ok (.bytes content))
      (textual : reference.isTrue = true → ∃ s, reference = .text s) :
      IsRead parts .file
        (.file (textField parts "fileName") (.text mimeType) (.bytes content) reference)
  | link : IsRead parts .link (.link (textField parts "url"))
  | permission :
      IsRead parts .permission
        (.permission (textField parts "scope") (textField parts "resource"))

variable {parts : List (String × Document)}

theorem IsRead.kind_eq {kind : ObjectKind} {p : Payload} (read : IsRead parts kind p) :
    p.kind = kind := by
  cases read <;> rfl

/-- All that the rules commit to is text in a payload that was read. -/
theorem IsRead.isTextual {kind : ObjectKind} {p : Payload} (read : IsRead parts kind p) :
    p.IsTextual := by
  cases read with
  | message => exact List.forall_mem_singleton.mpr ⟨_, rfl⟩
  | file mimeType held textual =>
    refine List.forall_mem_append.mpr ⟨?_, ?_⟩
    · exact List.forall_mem_cons.mpr ⟨⟨_, rfl⟩, List.forall_mem_singleton.mpr ⟨_, rfl⟩⟩
    · split
      · next given => exact List.forall_mem_singleton.mpr (textual given)
      · exact List.forall_mem_nil _
  | link => exact List.forall_mem_singleton.mpr ⟨_, rfl⟩
  | permission => exact List.forall_mem_cons.mpr ⟨⟨_, rfl⟩, List.forall_mem_singleton.mpr ⟨_, rfl⟩⟩

/-- The content of a file is read unless it is a text that cannot be encoded. -/
theorem contentField_of_texts
    (textual : ∀ v, Document.field? parts "content" = some v → ∃ s, v = .text s) :
    (∃ b, contentField parts = .ok (.bytes b)) ∨
      ∃ s defect, Document.field? parts "content" = some (.text s) ∧
        Text.encode s = .error defect ∧ contentField parts = .error (.notEncodable defect) := by
  unfold contentField
  cases found : Document.field? parts "content" with
  | none => exact .inl ⟨[], rfl⟩
  | some v =>
    obtain ⟨s, rfl⟩ := textual v found
    cases encoded : Text.encode s with
    | ok b => exact .inl ⟨b, by simp only [textContent, encoded]⟩
    | error defect => exact .inr ⟨s, defect, rfl, encoded, by simp only [textContent, encoded]⟩

/-- A payload is read from texts, unless it is a file whose content cannot be encoded. -/
theorem ofFields_of_texts (textual : ∀ name ∈ Intent.partNames, ∀ v,
      Document.field? parts name = some v → ∃ s, v = .text s) (kind : ObjectKind) :
    (∃ p, ofFields kind parts = .ok p ∧ IsRead parts kind p) ∨
      ∃ s defect, kind = .file ∧ Document.field? parts "content" = some (.text s) ∧
        Text.encode s = .error defect ∧ ofFields kind parts = .error (.notEncodable defect) := by
  cases kind with
  | message => exact .inl ⟨_, rfl, .message⟩
  | file =>
    rcases contentField_of_texts (textual "content" (by decide)) with
      ⟨content, held⟩ | ⟨s, defect, found, encoded, failed⟩
    · refine .inl ⟨_, by rw [ofFields, held]; rfl, .file _ held fun given => ?_⟩
      cases found : Document.field? parts "contentRef" with
      | none =>
        rw [found] at given
        cases given
      | some v => exact textual "contentRef" (by decide) v found
    · exact .inr ⟨s, defect, rfl, found, encoded, by rw [ofFields, failed]; rfl⟩
  | link => exact .inl ⟨_, rfl, .link⟩
  | permission => exact .inl ⟨_, rfl, .permission⟩

end Payload

namespace Intent

/-- Whether an intent is what a document with some terms and parts of a payload is read as. -/
structure IsReading (i : Intent) (t : Terms) (parts : List (String × Document)) : Prop where
  members : i.HasTerms t
  whitelist : ∃ texts, i.whitelist = .ofTexts texts
  payload : Payload.IsRead parts t.kind i.payload

/-- A document that fits is read as an intent, unless it is of a file whose content cannot be
encoded. -/
theorem ofDocument_of_fits {d : Document} (fits : Schema.intent.Fits d) :
    ∃ t parts, IsForm d t parts ∧ ((∃ i : Intent, ofDocument d = .ok i ∧ i.IsReading t parts) ∨
      ∃ s defect, t.kind = .file ∧ Document.field? parts "content" = some (.text s) ∧
        Text.encode s = .error defect ∧ ofDocument d = .error (.notEncodable defect)) := by
  obtain ⟨t, parts, form⟩ := exists_isForm_of_fits fits
  obtain ⟨i, members, whitelist, made⟩ := form.ofDocument_eq
  refine ⟨t, parts, form, ?_⟩
  rcases Payload.ofFields_of_texts form.textual t.kind with
    ⟨p, read, payload⟩ | ⟨s, defect, kind, found, encoded, failed⟩
  · exact .inl ⟨{ i with payload := p }, by rw [made, read]; rfl,
      ⟨members.kind, members.scope, members.forbidden, members.onViolation, members.identity⟩,
      whitelist, payload⟩
  · exact .inr ⟨s, defect, kind, found, encoded, by rw [made, failed]; rfl⟩

end Intent

end RuleBound
