import RuleBound.Proofs.Guard
import RuleBound.Proofs.Registry.Regular
import RuleBound.Proofs.Validation.Passage

/-!
Intents that are ready. All that is asked of an intent on the way to a mint is answered, or fails for
foreseen reasons, if the intent was accepted once and its payload is of texts. So it is of an intent
that was loaded, also after the content of its file was replaced.

The words of an intent for the actions that it forbids, for its response to violations and for its
demand of identity are not looked at when it is validated. So an accepted intent compiles exactly if
these are known words and its rules can be written, and what keeps it from compiling is a bad value.
-/

namespace RuleBound

theorem Review.guarded_toExcept {α : Type} (r : Review α) : Guarded r.toExcept := by
  cases r with
  | accepted value warnings => exact failsBy_ok value
  | refused issues => exact failsBy_error rfl

/-- What a payload of texts seals is bytes, if it is not a file of something else. -/
theorem Payload.IsTextual.exists_bytes {p : Payload} (textual : p.IsTextual)
    (held : ∀ name mimeType content reference, p = .file name mimeType content reference →
      ∃ b, content = .bytes b) :
    Guarded p.content ∧ ∀ content, p.content = .ok content → ∃ b, content = .bytes b := by
  have spelled : ∀ s, Guarded (textContent (.text s)) ∧
      ∀ content, textContent (.text s) = .ok content → ∃ b, content = .bytes b := by
    intro s
    unfold textContent
    dsimp only
    cases Text.encode s with
    | ok b => exact ⟨failsBy_ok _, fun content is => ⟨b, (Except.ok.inj is).symm⟩⟩
    | error defect => exact ⟨failsBy_error rfl, nofun⟩
  cases p with
  | message text =>
    obtain ⟨s, is⟩ := textual ("text", text) List.mem_cons_self
    cases is
    exact spelled s
  | file name mimeType content reference =>
    obtain ⟨b, rfl⟩ := held name mimeType content reference rfl
    exact ⟨failsBy_ok _, fun content is => ⟨b, (Except.ok.inj is).symm⟩⟩
  | link url =>
    obtain ⟨s, is⟩ := textual ("url", url) List.mem_cons_self
    cases is
    exact spelled s
  | permission scope resource =>
    refine ⟨(Document.guarded_canonical _).map _, fun content is => ?_⟩
    obtain ⟨s, -, rfl⟩ := map_eq_ok_iff.mp is
    exact ⟨_, rfl⟩

namespace Intent

/-- Whether what is asked of an intent on the way to a mint fails for foreseen reasons only, and what
it is asked for a mint makes the request for one presentable. -/
structure IsReady (i : Intent) : Prop where
  review : Guarded (i.review >>= Review.toExcept)
  compile : ∀ now, Guarded (i.compile (.integer now))
  rules : ∀ now compiled, i.compile (.integer now) = .ok compiled →
    ∃ rules, compiled.sheet.toCompact = .ok rules ∧ rules.IsTyped ∧ rules.isLegacy = false
  content : Guarded i.payload.content
  bytes : ∀ content, i.payload.content = .ok content → ∃ b, content = .bytes b
  kind : ∃ kind, i.kind = .member kind
  whitelist : Guarded (MintRequest.members i.whitelist)

variable {i : Intent} {t : Terms}

/-- An accepted intent compiles unless its sheet cannot be written. -/
theorem guarded_compile (members : i.HasTerms t) (sound : i.Sound t.scope)
    (textual : i.payload.IsTextual) (now : Int) : Guarded (i.compile (.integer now)) := by
  have made := sheet_of_sound members sound now
  have here := (isSheet_of_sheet made).isOver textual.distinct
  unfold compile
  rw [made, ok_bind, here.canonical_eq]
  exact (Document.guarded_canonical _).bind fun _ _ => failsBy_ok _

theorem isTyped_compactRules (i : Intent) (t : Terms) (now : Int) :
    (i.compactRules t now).IsTyped :=
  ⟨⟨rfl, rfl⟩, ⟨_, rfl⟩, ⟨_, rfl⟩, ⟨_, rfl⟩, ⟨_, rfl⟩, ⟨_, rfl⟩, ⟨_, rfl⟩, ⟨_, rfl⟩⟩

/-- An accepted intent of a payload of texts is ready, if it is not of a file of something else than
bytes. -/
theorem isReady_of_sound (members : i.HasTerms t) (sound : i.Sound t.scope)
    (textual : i.payload.IsTextual) (review : Guarded i.review)
    (held : ∀ name mimeType content reference, i.payload = .file name mimeType content reference →
      ∃ b, content = .bytes b) : i.IsReady := by
  obtain ⟨content, bytes⟩ := textual.exists_bytes held
  obtain ⟨texts, listed, -⟩ := members_of_sound sound
  exact {
    review := review.bind fun outcome _ => outcome.guarded_toExcept
    compile := guarded_compile members sound textual
    rules := fun now compiled compiles =>
      ⟨_, (toCompact_of_compile members sound compiles).1, isTyped_compactRules i t now, rfl⟩
    content := content
    bytes := bytes
    kind := ⟨t.kind, members.kind⟩
    whitelist := failsBy_of_exists ⟨_, listed⟩ }

/-- An intent that was loaded is ready. -/
theorem isReady_of_loadIntent {d : Document} (loaded : loadIntent d = .ok i) : i.IsReady := by
  obtain ⟨t, parts, warnings, ⟨members, -, read⟩, accepted⟩ := exists_reading_of_loadIntent loaded
  refine isReady_of_sound members (sound_of_accepted members.scope accepted) read.isTextual ?_ ?_
  · rw [accepted]
    exact failsBy_ok _
  · intro name mimeType content reference is
    generalize i.payload = payload at read is
    generalize t.kind = kind at read
    cases read with
    | file mimeType held textual =>
      cases is
      exact ⟨_, rfl⟩
    | _ => cases is

/-- An intent of a file that was loaded is ready with any bytes in place of the content. -/
theorem isReady_of_content {d : Document} (loaded : loadIntent d = .ok i)
    {name mimeType reference : Document} {content : FileContent}
    (file : i.payload = .file name mimeType content reference) (b : Bytes) :
    IsReady { i with payload := .file name mimeType (.bytes b) reference } := by
  obtain ⟨t, parts, warnings, ⟨members, ⟨texts, whitelist⟩, read⟩, accepted⟩ :=
    exists_reading_of_loadIntent loaded
  have sound := sound_of_accepted members.scope accepted
  refine isReady_of_sound (t := t)
    ⟨members.kind, members.scope, members.forbidden, members.onViolation, members.identity⟩
    ⟨sound.expirySeconds, sound.expirySeconds_nonneg, sound.maxUses, sound.maxUses_nonneg,
      sound.listed, sound.unlisted⟩ ?_ ?_ ?_
  · have textual := read.isTextual
    rw [file] at textual
    exact textual
  · -- no review of a file ends in a fault
    obtain ⟨access, checked⟩ := Validation.exists_accessIssues t.scope (texts.map .text)
    have kind : Payload.kind (.file name mimeType (.bytes b) reference) = t.kind := by
      rw [← read.kind_eq, file]
      rfl
    unfold Intent.review
    simp only [members.kind, members.scope, whitelist, Document.ofTexts, ObjectKind.ofGiven,
      AccessScope.ofGiven, ok_bind, kind, if_true, checked, Validation.payloadIssues]
    exact failsBy_ok _
  · rintro name mimeType content reference ⟨⟩
    exact ⟨b, rfl⟩

end Intent

/-! ## Intents that compile -/

namespace Intent

variable {i : Intent}

/-- Whether the fields of an intent have the types that they are declared with, where words stand for
the members of a vocabulary that is known by name alone. -/
structure IsDeclared (i : Intent) : Prop where
  kind : ∃ kind, i.kind = .member kind
  scope : ∃ scope, i.scope = .member scope
  payload : i.payload.IsTextual
  forbidden : ∃ words, i.forbidden = .ofTexts words

theorem failsBy_bySpelling {α : Type} (kind : String) (all : List α) (name : α → String)
    (d : Document) : FailsBy (fun f => f.isValueFault = true) (bySpelling kind all name d) := by
  unfold bySpelling
  split
  · exact failsBy_ok _
  · exact failsBy_error rfl

/-- Words that are all taken for actions are the names of these. -/
theorem exists_actions_of_mapM {words : List String} {actions : List Forbiddable}
    (spelled : (words.map Document.text).mapM Forbiddable.ofSpelling = .ok actions) :
    words = actions.map Forbiddable.name := by
  induction words generalizing actions with
  | nil =>
    cases spelled
    rfl
  | cons word words ih =>
    rw [List.map_cons, List.mapM_cons] at spelled
    obtain ⟨a, first, spelled⟩ := bind_eq_ok_iff.mp spelled
    obtain ⟨rest, others, spelled⟩ := bind_eq_ok_iff.mp spelled
    cases spelled
    cases eq_of_bySpelling first
    rw [List.map_cons, ih others]

/-- What an intent compiles to has taken its words for members of the vocabularies. -/
theorem IsDeclared.exists_terms_of_sheet (declared : i.IsDeclared) {now : Document} {s : RuleSheet}
    (made : i.sheet now = .ok s) : ∃ t, i.HasTerms t := by
  have is := isSheet_of_sheet made
  obtain ⟨kind, kinded⟩ := declared.kind
  obtain ⟨scope, within⟩ := declared.scope
  obtain ⟨words, listed⟩ := declared.forbidden
  obtain ⟨response, answered, -⟩ := is.response
  obtain ⟨items, sequence, normal⟩ := bind_eq_ok_iff.mp is.forbidden
  obtain ⟨actions, spelled, -⟩ := bind_eq_ok_iff.mp normal
  rw [listed] at sequence
  cases sequence
  have named := exists_actions_of_mapM spelled
  exact ⟨⟨kind, scope, actions, response, s.identity⟩, kinded, within, named ▸ listed,
    eq_of_bySpelling answered, eq_of_bySpelling is.identity⟩

/-- Whatever keeps an accepted intent from compiling is a bad value. -/
theorem IsDeclared.failsBy_compile (declared : i.IsDeclared) {scope : AccessScope}
    (sound : i.Sound scope) (now : Int) :
    FailsBy (fun f => f.isValueFault = true) (i.compile (.integer now)) := by
  obtain ⟨kind, kinded⟩ := declared.kind
  obtain ⟨scope', within⟩ := declared.scope
  obtain ⟨words, listed⟩ := declared.forbidden
  have moment := expiryAt_eq sound.expirySeconds now
  have counted : i.maxUses.toInteger = .ok i.maxUses.value := by
    rw [sound.maxUses]
    rfl
  have normal : FailsBy (fun f => f.isValueFault = true) (normalForbidden i.forbidden) := by
    rw [listed]
    exact (failsBy_mapM fun _ _ => failsBy_bySpelling ..).bind fun _ _ => failsBy_ok _
  have sheet : FailsBy (fun f => f.isValueFault = true) (i.sheet (.integer now)) := by
    unfold sheet
    rw [moment, kinded, within, counted]
    refine normal.bind fun forbidden _ => ?_
    refine (failsBy_bySpelling ..).bind fun response _ => ?_
    exact (failsBy_bySpelling ..).bind fun identity _ => failsBy_ok _
  refine sheet.bind fun s made => FailsBy.bind ?_ fun text _ => failsBy_ok _
  rw [((isSheet_of_sheet made).isOver declared.payload.distinct).canonical_eq]
  exact ⟨fun f => Document.isValueFault_of_canonical⟩

/-- An accepted intent compiles at a moment exactly if its words are members of the vocabularies and
its rules can be written; what else can come of it is a bad value. -/
theorem compile_of_accepted_iff (declared : i.IsDeclared) {warnings : List String}
    (accepted : i.review = .ok (.accepted i warnings)) (now : Int) :
    ((∃ compiled, i.compile (.integer now) = .ok compiled) ↔
        (∃ t, i.HasTerms t) ∧ i.IsExpressible now) ∧
      FailsBy (fun f => f.isValueFault = true) (i.compile (.integer now)) := by
  obtain ⟨scope, within⟩ := declared.scope
  have sound := sound_of_accepted within accepted
  have compiles : ∀ t, i.HasTerms t →
      ((∃ compiled, i.compile (.integer now) = .ok compiled) ↔ i.IsExpressible now) := by
    intro t members
    have sound' := sound_of_accepted members.scope accepted
    exact exists_compile_iff members sound' declared.payload now
  refine ⟨⟨?_, ?_⟩, declared.failsBy_compile sound now⟩
  · rintro ⟨compiled, compiled_eq⟩
    obtain ⟨s, made, -⟩ := bind_eq_ok_iff.mp compiled_eq
    obtain ⟨t, members⟩ := declared.exists_terms_of_sheet made
    exact ⟨⟨t, members⟩, (compiles t members).mp ⟨compiled, compiled_eq⟩⟩
  · rintro ⟨⟨t, members⟩, expressible⟩
    exact (compiles t members).mpr expressible

end Intent

/-- A memo under whose rules nothing is forbidden compiles. -/
theorem compile_of_accepted_memo :
    (memo "hi").IsDeclared ∧ (memo "hi").review = .ok (.accepted (memo "hi") []) ∧
      (∃ compiled, (memo "hi").compile (.integer 5) = .ok compiled) := by
  have declared : (memo "hi").IsDeclared :=
    ⟨⟨_, rfl⟩, ⟨_, rfl⟩, by simp [memo, Payload.IsTextual, Payload.descriptor], [], rfl⟩
  have accepted : (memo "hi").review = .ok (.accepted (memo "hi") []) := by decide
  have members : (memo "hi").HasTerms ⟨.message, .link, [], .refuse, .never⟩ :=
    ⟨rfl, rfl, rfl, rfl, rfl⟩
  have texts : Document.Whole (.object (memo "hi").payload.descriptor) := by
    simp [memo, Payload.descriptor, Document.HasWholeTexts]
    decide
  refine ⟨declared, accepted, ?_⟩
  exact (Intent.compile_of_accepted_iff declared accepted 5).1.mpr
    ⟨⟨_, members⟩, texts, Document.isShort_zero, Document.isShort_zero⟩

/-- A memo that forbids an action nobody knows is accepted, and does not compile. -/
theorem not_compile_printMemo :
    let i : Intent := { memo "hi" with forbidden := .ofTexts ["PRINT"] }
    i.IsDeclared ∧ i.review = .ok (.accepted i []) ∧
      i.compile (.integer 5) = .error (.notChoice (.text "PRINT") "ForbiddableAction") := by
  intro i
  refine ⟨⟨⟨_, rfl⟩, ⟨_, rfl⟩, ?_, ["PRINT"], rfl⟩, by decide, rfl⟩
  simp [i, memo, Payload.IsTextual, Payload.descriptor]

end RuleBound
