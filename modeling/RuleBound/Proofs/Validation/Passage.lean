import RuleBound.Proofs.Document.Unordered
import RuleBound.Proofs.Registry.Growth
import RuleBound.Proofs.Registry.Policy
import RuleBound.Proofs.Registry.Traceless
import RuleBound.Proofs.Validation.Loading

/-!
What becomes of intents that were loaded. No later check refuses what validation accepted: a loaded
intent has a sheet, and if the sheet can be written it compiles to rules that pass the checks of a
mint. What can stop it on the way is only what cannot be written at all: half of a pair in a text
that is hashed, sealed or recorded, and a number that is too long.
-/

namespace RuleBound

open Document (Every IsShort IsWritable Whole)

namespace Payload

variable {parts : List (String × Document)} {kind : ObjectKind} {p : Payload}

theorem IsTextual.isWhole_iff (textual : p.IsTextual) : Whole (.object p.descriptor) ↔
    ∀ f ∈ p.descriptor, Text.IsWhole f.1 ∧ ∃ s, f.2 = .text s ∧ Text.IsWhole s := by
  rw [Whole, Every.object_iff, Document.HasWholeTexts, ← forall₂_and]
  refine forall₂_congr fun f mem => and_congr_right fun _ => ?_
  obtain ⟨s, text⟩ := textual f mem
  rw [text, Every.text_iff, Document.HasWholeTexts]
  simp

/-- The descriptor of a payload of texts has a canonical text exactly if the texts are whole. -/
theorem IsTextual.exists_canonical_iff (textual : p.IsTextual) :
    (∃ s, (Document.object p.descriptor).canonical = .ok s) ↔ Whole (.object p.descriptor) := by
  constructor
  · rintro ⟨s, written⟩
    obtain ⟨⟨-, -, whole⟩, -⟩ := (Document.canonical_eq_ok_iff ..).mp written
    exact whole
  · intro whole
    have writable : Every IsWritable (.object p.descriptor) := by
      refine (Every.object_iff _).mpr ⟨⟨trivial, trivial, whole.here⟩, fun f mem => ?_⟩
      obtain ⟨s, text⟩ := textual f mem
      have inside := (whole.within f.2 (List.mem_map_of_mem mem)).here
      rw [text] at inside ⊢
      exact (Every.text_iff _).mpr ⟨trivial, trivial, inside⟩
    exact ⟨_, Document.canonical_of_writable writable⟩

theorem exists_textContent_iff (s : String) :
    (∃ b, textContent (.text s) = .ok (.bytes b)) ↔ Text.IsWhole s := by
  rw [← Text.surrogateDefect?_eq_none_iff]
  simp only [textContent, Text.encode]
  cases Text.surrogateDefect? s with
  | none => simp
  | some defect => simp

/-- What is sealed of a payload that was read is bytes, exactly if the payload is of a file or all of
its texts are whole. -/
theorem IsRead.exists_content_iff (read : IsRead parts kind p) :
    (∃ b, p.content = .ok (.bytes b)) ↔ kind = .file ∨ Whole (.object p.descriptor) := by
  have named : Text.IsWhole "text" ∧ Text.IsWhole "url" := by decide
  have textual := read.isTextual
  cases read with
  | message =>
    rw [content, textField, exists_textContent_iff]
    simp [descriptor, Document.HasWholeTexts, named]
  | file mimeType held _ => exact iff_of_true ⟨_, rfl⟩ (.inl rfl)
  | link =>
    rw [content, textField, exists_textContent_iff]
    simp [descriptor, Document.HasWholeTexts, named]
  | permission =>
    rw [content, ← textual.exists_canonical_iff]
    simp [map_eq_ok_iff]

end Payload

namespace RuleSheet

/-- A sheet over texts has a canonical text exactly if no text has half of a pair and no number is
too long. -/
theorem IsOver.exists_canonical_iff {s : RuleSheet} {p : Payload} (here : s.IsOver p.descriptor)
    (textual : p.IsTextual) (named : ∀ d ∈ s.forbidden, ∃ t, d = .text t ∧ Text.IsWhole t) :
    (∃ text, s.canonical = .ok text) ↔ Whole (.object p.descriptor) ∧
      IsShort (.integer s.expiry) ∧ IsShort (.integer s.maxUses) := by
  constructor
  · rintro ⟨text, written⟩
    rw [here.canonical_eq, Document.canonical_eq_ok_iff, here.toDocument_eq] at written
    obtain ⟨⟨-, short, whole⟩, -⟩ := written
    have rules := short.within s.rules (by simp [Document.children])
    exact ⟨whole.within _ (by simp [Document.children]),
      (rules.within (.integer s.expiry) (by simp [Document.children, RuleSheet.rules])).here,
      (rules.within (.integer s.maxUses) (by simp [Document.children, RuleSheet.rules])).here⟩
  · rintro ⟨whole, expiry, maxUses⟩
    exact ⟨_, here.canonical_of_texts (textual.isWhole_iff.mp whole) named expiry maxUses⟩

end RuleSheet

namespace Intent

variable {i : Intent} {t : Terms} {now : Int}

/-- Whether the rules of an intent that is compiled at a moment can be written. -/
structure IsExpressible (i : Intent) (now : Int) : Prop where
  texts : Whole (.object i.payload.descriptor)
  expiry : IsShort (.integer (i.expiryFrom now))
  maxUses : IsShort i.maxUses

/-- The actions that a sheet lists are whole texts. -/
theorem IsSheet.isWhole_forbidden {s : RuleSheet} {now : Document} (is : i.IsSheet now s) :
    ∀ d ∈ s.forbidden, ∃ t, d = .text t ∧ Text.IsWhole t := by
  obtain ⟨actions, -, listed⟩ := is.forbidden_eq
  rw [listed, List.forall_mem_map]
  exact fun a _ => ⟨a.name, rfl, by cases a <;> decide⟩

/-- An accepted intent of a payload of texts compiles exactly if its rules can be written. -/
theorem exists_compile_iff (members : i.HasTerms t) (sound : i.Sound t.scope)
    (textual : i.payload.IsTextual) (now : Int) :
    (∃ compiled, i.compile (.integer now) = .ok compiled) ↔ i.IsExpressible now := by
  have counts : i.HasCounts := ⟨sound.expirySeconds, sound.maxUses⟩
  have made := sheet_of_sound members sound now
  have is := isSheet_of_sheet made
  have written := (is.isOver textual.distinct).exists_canonical_iff textual is.isWhole_forbidden
  rw [is.expiry_eq counts, ← is.maxUses_eq counts] at written
  constructor
  · rintro ⟨compiled, compiles⟩
    obtain ⟨s', made', canonical⟩ := bind_eq_ok_iff.mp compiles
    cases made.symm.trans made'
    obtain ⟨text, canonical, -⟩ := bind_eq_ok_iff.mp canonical
    obtain ⟨whole, expiry, maxUses⟩ := written.mp ⟨text, canonical⟩
    exact ⟨whole, expiry, maxUses⟩
  · rintro ⟨whole, expiry, maxUses⟩
    obtain ⟨text, canonical⟩ := written.mpr ⟨whole, expiry, maxUses⟩
    exact ⟨_, compile_of_sheet made canonical⟩

end Intent

/-- An intent that was loaded is one that was read from a document and then accepted. -/
theorem exists_reading_of_loadIntent {d : Document} {i : Intent} (loaded : loadIntent d = .ok i) :
    ∃ t parts warnings, i.IsReading t parts ∧ i.review = .ok (.accepted i warnings) := by
  have fits : Schema.intent.Fits d := by
    by_contra misfit
    cases long : Schema.intent.quotesLongNumeral d with
    | true => cases (Document.Escapes.numeral long).loadIntent_eq.symm.trans loaded
    | false =>
      obtain ⟨issues, refused⟩ := Document.checkIntentDocument_of_not_fits misfit long
      rw [loadIntent, refused] at loaded
      cases loaded
  rw [loadIntent_of_fits fits] at loaded
  obtain ⟨i', made, loaded⟩ := bind_eq_ok_iff.mp loaded
  obtain ⟨outcome, reviewed, accepted⟩ := bind_eq_ok_iff.mp loaded
  obtain ⟨t, parts, -, ⟨i'', made', reading⟩ | ⟨s, defect, -, -, -, failed⟩⟩ :=
    Intent.ofDocument_of_fits fits
  · cases made.symm.trans made'
    rcases reading.review_cases with ⟨-, -, outcome', reviewed', same⟩ | ⟨f, -, failed⟩
    · cases reviewed.symm.trans reviewed'
      cases outcome with
      | accepted j warnings =>
        cases accepted
        cases same i warnings rfl
        exact ⟨t, parts, warnings, reading, reviewed⟩
      | refused issues => cases accepted
    · cases reviewed.symm.trans failed
  · cases made.symm.trans failed

/-- An intent that was loaded goes all the way unless something cannot be written. It compiles
exactly if its rules can be written; what it seals is bytes exactly if it is a file or its texts are
whole; and when it compiles, the mint of what it compiles to passes all checks. The mint is answered
with an identifier that is not in use, exactly if its event can be recorded. -/
theorem loaded_passes {d : Document} {i : Intent} (loaded : loadIntent d = .ok i) {now : Int}
    (start : 0 ≤ now) {creator pointer : String} (named : Text.isBlankText creator = false)
    (placed : Text.isBlankText pointer = false) :
    ((∃ compiled, i.compile (.integer now) = .ok compiled) ↔ i.IsExpressible now) ∧
      ((∃ b, i.payload.content = .ok (.bytes b)) ↔
        i.payload.kind = .file ∨ Whole (.object i.payload.descriptor)) ∧
      ∀ compiled, i.compile (.integer now) = .ok compiled →
        ∃ rules, compiled.sheet.toCompact = .ok rules ∧
          let mint := i.mintRequest compiled rules creator pointer
          mint.check.isOk = true ∧
          ∀ (st : Registry.State) (s : Surroundings), st.registry.IsNumbered →
            let answer := (st.step ⟨s, .create mint⟩).2
            let stamp := s.stamp st.draws
            ((∃ id event, answer = .created (.ok (id, event)) ∧ st.registry.record? id = none) ↔
              IsShort (.integer st.registry.nextId) ∧ Text.IsWhole stamp.eventId ∧
                Text.IsWhole stamp.timestamp ∧ Text.IsWhole creator ∧ Text.IsWhole pointer) := by
  obtain ⟨t, parts, warnings, ⟨members, -, read⟩, accepted⟩ := exists_reading_of_loadIntent loaded
  have sound := Intent.sound_of_accepted members.scope accepted
  refine ⟨Intent.exists_compile_iff members sound read.isTextual now,
    by rw [read.kind_eq, read.exists_content_iff], fun compiled compiles => ?_⟩
  obtain ⟨compact, message, digest⟩ := Intent.toCompact_of_compile members sound compiles
  obtain ⟨texts, checked, -⟩ := Intent.check_mintRequest members sound start digest named placed
  refine ⟨_, compact, by rw [checked]; rfl, fun st s numbered => ?_⟩
  have deed := st.deed?_create s checked
  have recordable := Registry.isRecordable_createdEvent_iff st.registry.nextId
    ⟨creator, t.kind, compiled.digest, i.compactRules t now, pointer, Members.documents texts⟩
    (s.stamp st.draws)
  have hash : Text.IsWhole compiled.digest := digest ▸ (Sha256.isHex_ofBytes message).isWhole
  simp only [hash, true_and] at recordable
  intro answer stamp
  rw [← recordable]
  rcases Registry.State.answer_of_mint deed rfl with ⟨recorded, made⟩ | ⟨f, unrecorded, failed⟩
  · exact iff_of_true ⟨_, _, made, numbered.record?_nextId⟩ recorded
  · refine iff_of_false ?_ ?_
    · rintro ⟨id, event, made, -⟩
      cases failed.symm.trans made
    · intro recorded
      cases unrecorded.symm.trans recorded

/-! ## A memo -/

/-- A memo of some text as a document. -/
def memoDocument (text : String) : Document :=
  .object [("name", .text "memo"), ("payload", .object [("text", .text text)]),
    ("type", .text "MESSAGE")]

/-- The memo as an intent. -/
def memo (text : String) : Intent where
  kind := .member .message
  name := .text "memo"
  payload := .message (.text text)
  forbidden := .list []

/-- A memo of whole text goes all the way. -/
theorem loaded_passes_memo :
    loadIntent (memoDocument "meet at noon") = .ok (memo "meet at noon") ∧
    (∃ b, (memo "meet at noon").payload.content = .ok (.bytes b)) ∧
    ∃ compiled rules, (memo "meet at noon").compile (.integer 5) = .ok compiled ∧
      compiled.sheet.toCompact = .ok rules ∧
      ∃ id event, (Registry.State.step {} ⟨⟨0, "", .null, .numbered⟩,
        .create ((memo "meet at noon").mintRequest compiled rules "alice" "p")⟩).2 =
          .created (.ok (id, event)) := by
  have loaded : loadIntent (memoDocument "meet at noon") = .ok (memo "meet at noon") := by
    with_unfolding_all rfl
  have texts : Whole (.object (memo "meet at noon").payload.descriptor) := by
    simp [memo, Payload.descriptor, Document.HasWholeTexts]
    decide
  have expressible : (memo "meet at noon").IsExpressible 5 :=
    ⟨texts, Document.isShort_zero, Document.isShort_zero⟩
  obtain ⟨compiles, content, minted⟩ := @loaded_passes _ _ loaded 5 (by decide) "alice" "p"
    (by decide) (by decide)
  obtain ⟨compiled, made⟩ := compiles.mpr expressible
  obtain ⟨rules, compact, -, told⟩ := minted compiled made
  have written := Source.isWritten_numbered 0 .null
  obtain ⟨id, event, answer, -⟩ := (told {} ⟨0, "", .null, .numbered⟩
    Registry.isNumbered_empty).mpr ⟨Document.isShort_one, written.eventId _, written.timestamp,
      by decide, by decide⟩
  exact ⟨loaded, content.mpr (.inr texts), compiled, rules, made, compact, id, event, answer⟩

/-- A memo of half of a pair is loaded and does not compile. -/
theorem not_compile_halfMemo :
    loadIntent (memoDocument Registry.halfName) = .ok (memo Registry.halfName) ∧
      ∀ compiled, (memo Registry.halfName).compile (.integer 5) ≠ .ok compiled := by
  have loaded : loadIntent (memoDocument Registry.halfName) = .ok (memo Registry.halfName) := by
    with_unfolding_all rfl
  obtain ⟨t, parts, warnings, reading, accepted⟩ := exists_reading_of_loadIntent loaded
  have sound := Intent.sound_of_accepted reading.members.scope accepted
  refine ⟨loaded, fun compiled compiles => ?_⟩
  have expressible := (Intent.exists_compile_iff reading.members sound
    reading.payload.isTextual 5).mp ⟨compiled, compiles⟩
  have half := expressible.texts.within (.text Registry.halfName) (by
    simp [memo, Payload.descriptor, Document.children])
  have whole : Text.IsWhole Registry.halfName := half.here
  revert whole
  decide

end RuleBound
