import RuleBound.Rules.Compile
import RuleBound.Validation.Intent
import RuleBound.Proofs.Document.Number
import RuleBound.Proofs.Document.RoundTrip
import RuleBound.Proofs.Registry.Members
import RuleBound.Proofs.Sequencing

/-!
From an accepted intent to the rules that a registry enforces. Validation leaves whole numbers
that are not negative and a whitelist exactly where the scope is a list; compiling turns each field
of the intent into its part of the compact rules.
-/

namespace RuleBound

namespace Intent

/-- What the fields of an intent say that are taken from vocabularies. -/
structure Terms where
  kind : ObjectKind
  scope : AccessScope
  forbidden : List Forbiddable
  response : ViolationResponse
  identity : IdentityDemand

/-- Whether the fields of an intent that are taken from vocabularies are members of them. -/
structure HasTerms (i : Intent) (t : Terms) : Prop where
  kind : i.kind = .member t.kind
  scope : i.scope = .member t.scope
  forbidden : i.forbidden = .ofTexts (t.forbidden.map Forbiddable.name)
  onViolation : i.onViolation = .text t.response.name
  identity : i.identity = .text t.identity.name

/-! ## What validation leaves -/

/-- What an accepted intent says beyond its terms. -/
structure Sound (i : Intent) (scope : AccessScope) : Prop where
  expirySeconds : i.expirySeconds = .integer i.expirySeconds.value
  expirySeconds_nonneg : 0 ≤ i.expirySeconds.value
  maxUses : i.maxUses = .integer i.maxUses.value
  maxUses_nonneg : 0 ≤ i.maxUses.value
  listed : scope = .list → i.whitelist.isTrue = true ∧
    ∃ texts, i.whitelist.toItems = .ok (Members.documents texts)
  unlisted : scope ≠ .list → i.whitelist.isTrue = false

theorem eq_integer_of_checkCount {field : String} {maximum : Option Int} {d : Document}
    (fine : (Validation.checkCount field maximum d).issues = []) :
    d = .integer d.value ∧ 0 ≤ d.value := by
  cases d with
  | integer n =>
    refine ⟨rfl, ?_⟩
    change 0 ≤ n
    by_contra negative
    simp [Validation.checkCount, Validation.countReview, Int.not_le.mp negative, Review.issues]
      at fine
  | _ => simp [Validation.checkCount, Validation.noCount, Review.issues] at fine

theorem eq_text_of_checkIdentity (field : String) {d : Document}
    (fine : (Validation.checkIdentity field d).issues = []) : ∃ s, d = .text s := by
  cases d with
  | text s => exact ⟨s, rfl⟩
  | _ => simp [Validation.checkIdentity, Validation.checkText, Validation.noText, Review.issues]
      at fine

/-- Each identity of a whitelist in which nothing is wrong passes its check. -/
theorem exists_field_of_whitelistIssues {items : List Document}
    (fine : Validation.whitelistIssues items = []) {d : Document} (mem : d ∈ items) :
    ∃ field, (Validation.checkIdentity field d).issues = [] := by
  obtain ⟨k, small, rfl⟩ := List.getElem_of_mem mem
  refine ⟨"whitelist[" ++ toString k ++ "]", ?_⟩
  refine List.flatten_eq_nil_iff.mp fine _ (List.mem_map.mpr ⟨(items[k], k), ?_, rfl⟩)
  exact List.mem_zipIdx_iff_getElem?.mpr (List.getElem?_eq_getElem small)

theorem exists_texts_of_whitelistIssues {items : List Document}
    (fine : Validation.whitelistIssues items = []) : ∃ texts, items = Members.documents texts := by
  have each : ∀ d ∈ items, ∃ s, d = .text s := by
    intro d mem
    obtain ⟨field, passes⟩ := exists_field_of_whitelistIssues fine mem
    exact eq_text_of_checkIdentity field passes
  clear fine
  induction items with
  | nil => exact ⟨[], rfl⟩
  | cons d items ih =>
    rw [List.forall_mem_cons] at each
    obtain ⟨⟨s, rfl⟩, rest⟩ := each
    obtain ⟨texts, rfl⟩ := ih rest
    exact ⟨s :: texts, rfl⟩

theorem whitelist_of_accessIssues {scope : AccessScope} {whitelist : Document}
    (fine : Validation.accessIssues scope whitelist = .ok []) :
    (scope = .list → whitelist.isTrue = true ∧
      ∃ items, whitelist.toItems = .ok items ∧ Validation.whitelistIssues items = []) ∧
    (scope ≠ .list → whitelist.isTrue = false) := by
  unfold Validation.accessIssues at fine
  refine ⟨fun list => ?_, fun other => ?_⟩
  · rw [if_pos list] at fine
    obtain ⟨items, sequence, fine⟩ := bind_eq_ok_iff.mp fine
    obtain ⟨noGap, noIssues⟩ := List.append_eq_nil_iff.mp (Except.ok.inj fine)
    refine ⟨?_, items, sequence, noIssues⟩
    by_contra missing
    rw [if_neg missing] at noGap
    cases noGap
  · rw [if_neg other] at fine
    by_contra given
    rw [Bool.not_eq_false] at given
    rw [if_pos given] at fine
    cases fine

/-- Nothing is wrong in an accepted intent; its scope is a known one, and what is said of it is
sound. -/
theorem exists_sound_of_accepted {i : Intent} {warnings : List String}
    (accepted : i.review = .ok (.accepted i warnings)) :
    ∃ scope, AccessScope.ofGiven i.scope = .ok scope ∧
      Validation.accessIssues scope i.whitelist = .ok [] ∧ i.Sound scope := by
  unfold review at accepted
  obtain ⟨kind, -, accepted⟩ := bind_eq_ok_iff.mp accepted
  extract_lets expiry uses rest at accepted
  obtain ⟨payload, accepted⟩ : ∃ payload, rest payload = .ok (.accepted i warnings) := by
    by_cases same : i.payload.kind = kind
    · rw [if_pos same] at accepted
      obtain ⟨payload, -, accepted⟩ := bind_eq_ok_iff.mp accepted
      exact ⟨payload, accepted⟩
    · rw [if_neg same] at accepted
      obtain ⟨payload, -, accepted⟩ := bind_eq_ok_iff.mp accepted
      exact ⟨payload, accepted⟩
  obtain ⟨scope, given, accepted⟩ := bind_eq_ok_iff.mp accepted
  obtain ⟨access, checked, accepted⟩ := bind_eq_ok_iff.mp accepted
  have outcome := Except.ok.inj accepted
  split at outcome
  · next empty =>
    simp only [List.isEmpty_iff, List.append_eq_nil_iff] at empty
    obtain ⟨⟨⟨-, noExpiry⟩, noUses⟩, rfl⟩ := empty
    obtain ⟨expirySeconds, expirySeconds_nonneg⟩ := eq_integer_of_checkCount noExpiry
    obtain ⟨maxUses, maxUses_nonneg⟩ := eq_integer_of_checkCount noUses
    obtain ⟨listed, unlisted⟩ := whitelist_of_accessIssues checked
    refine ⟨scope, given, checked, expirySeconds, expirySeconds_nonneg, maxUses, maxUses_nonneg,
      fun list => ?_, unlisted⟩
    obtain ⟨filled, items, sequence, noIssues⟩ := listed list
    obtain ⟨texts, rfl⟩ := exists_texts_of_whitelistIssues noIssues
    exact ⟨filled, texts, sequence⟩
  · cases outcome

theorem sound_of_accepted {i : Intent} {scope : AccessScope} (within : i.scope = .member scope)
    {warnings : List String} (accepted : i.review = .ok (.accepted i warnings)) :
    i.Sound scope := by
  obtain ⟨scope', given, -, sound⟩ := exists_sound_of_accepted accepted
  rw [within] at given
  cases given
  exact sound

/-! ## What compiling makes of it -/

/-- The number of uses that an intent grants, zero for no limit. -/
def budget (i : Intent) (t : Terms) : Int :=
  if t.scope = .singleUse ∧ i.maxUses.value = 0 then 1 else i.maxUses.value

/-- The rules that an intent compiles to at a moment. -/
def compactRules (i : Intent) (t : Terms) (now : Int) : CompactRules where
  forbidCopy := .bool (t.forbidden.contains .copy)
  forbidForward := .bool (t.forbidden.contains .forward)
  forbidExport := .bool (t.forbidden.contains .export)
  expiry := .integer (if 0 < i.expirySeconds.value then now + i.expirySeconds.value else 0)
  scope := .member t.scope
  maxUses := .integer (i.budget t)
  lockOnViolation := .bool (t.response = .lock)
  requireIdentity := .bool (t.identity == .always)
  version := .integer 1

theorem mapM_ofSpelling (actions : List Forbiddable) :
    (actions.map fun a => Document.text a.name).mapM Forbiddable.ofSpelling = .ok actions := by
  induction actions with
  | nil => rfl
  | cons a actions ih =>
    have spelled : Forbiddable.ofSpelling (.text a.name) = .ok a := by cases a <;> rfl
    rw [List.map_cons, List.mapM_cons, spelled, ih]
    rfl

theorem normalForbidden_ofTexts (actions : List Forbiddable) :
    normalForbidden (.ofTexts (actions.map Forbiddable.name)) =
      .ok ((Forbiddable.all.filter actions.contains).map fun a => .text a.name) := by
  have texts : (Document.ofTexts (actions.map Forbiddable.name)).toItems =
      .ok (actions.map fun a => .text a.name) := by
    rw [Document.ofTexts, List.map_map]
    rfl
  unfold normalForbidden
  rw [texts, ok_bind, mapM_ofSpelling]
  rfl

theorem contains_normalForbidden (actions : List Forbiddable) (a : Forbiddable) :
    ((Forbiddable.all.filter actions.contains).map fun a => Document.text a.name).contains
      (.text a.name) = actions.contains a := by
  have name_injective : ∀ a b : Forbiddable, a.name = b.name → a = b := by
    intro a b
    cases a <;> cases b <;> decide
  have mem_all : ∀ a : Forbiddable, a ∈ Forbiddable.all := by
    intro a
    cases a <;> decide
  rw [Bool.eq_iff_iff]
  simp only [List.contains_iff_mem, List.mem_map, List.mem_filter, Document.text.injEq]
  constructor
  · rintro ⟨b, ⟨-, listed⟩, same⟩
    exact name_injective b a same ▸ listed
  · exact fun listed => ⟨a, ⟨mem_all a, listed⟩, rfl⟩

/-- The moment of expiry is so many seconds from now, or none. -/
theorem expiryAt_eq {i : Intent} (seconds : i.expirySeconds = .integer i.expirySeconds.value)
    (now : Int) : i.expiryAt (.integer now) =
      .ok (if 0 < i.expirySeconds.value then now + i.expirySeconds.value else 0) := by
  unfold expiryAt
  generalize i.expirySeconds.value = n at seconds
  rw [seconds]
  have order : (Document.integer n).compareNumbers? (.integer 0) = some (compare n 0) := rfl
  simp only [Document.numeric?, order, Option.some.injEq]
  by_cases positive : 0 < n
  · rw [if_pos (Int.compare_eq_gt.mpr positive), if_pos positive]
    rfl
  · rw [if_neg (fun more => positive (Int.compare_eq_gt.mp more)), if_neg positive]

/-- The sheet that an intent has at a moment. -/
def sheetAt (i : Intent) (t : Terms) (now : Int) : RuleSheet where
  kind := t.kind
  payload := .ofFields i.payload.descriptor
  scope := t.scope
  forbidden := (Forbiddable.all.filter t.forbidden.contains).map fun a => .text a.name
  expiry := if 0 < i.expirySeconds.value then now + i.expirySeconds.value else 0
  maxUses := i.maxUses.value
  lockOnViolation := t.response = .lock
  identity := t.identity

/-- An accepted intent has a sheet at every moment. -/
theorem sheet_of_sound {i : Intent} {t : Terms} (members : i.HasTerms t) (sound : i.Sound t.scope)
    (now : Int) : i.sheet (.integer now) = .ok (i.sheetAt t now) := by
  have response : ViolationResponse.ofSpelling i.onViolation = .ok t.response := by
    rw [members.onViolation]
    cases t.response <;> rfl
  have identity : IdentityDemand.ofSpelling i.identity = .ok t.identity := by
    rw [members.identity]
    cases t.identity <;> rfl
  have maxUses : i.maxUses.toInteger = .ok i.maxUses.value := by
    rw [sound.maxUses]
    rfl
  unfold sheet
  rw [expiryAt_eq sound.expirySeconds, members.kind, members.scope, members.forbidden,
    normalForbidden_ofTexts, maxUses, response, identity]
  rfl

/-- A sheet of an intent is enforced by its compact rules. -/
theorem toCompact_sheetAt (i : Intent) (t : Terms) (now : Int) :
    (i.sheetAt t now).toCompact = .ok (i.compactRules t now) := by
  have scalars : ((Forbiddable.all.filter t.forbidden.contains).map fun a =>
      Document.text a.name).all Document.isScalar = true := by
    simp [Document.isScalar]
  unfold RuleSheet.toCompact sheetAt
  rw [if_pos scalars]
  simp only [RuleSheet.forbids, contains_normalForbidden]
  rfl

/-- An accepted intent that compiles does so to its compact rules, under a written digest. -/
theorem toCompact_of_compile {i : Intent} {t : Terms} (members : i.HasTerms t)
    (sound : i.Sound t.scope) {now : Int} {compiled : CompiledRules}
    (compiles : i.compile (.integer now) = .ok compiled) :
    compiled.sheet.toCompact = .ok (i.compactRules t now) ∧
      ∃ message, compiled.digest = Sha256.ofBytes message := by
  obtain ⟨sheet, made, compiles⟩ := bind_eq_ok_iff.mp compiles
  obtain ⟨canonical, -, compiles⟩ := bind_eq_ok_iff.mp compiles
  cases compiles
  cases (sheet_of_sound members sound now).symm.trans made
  exact ⟨toCompact_sheetAt i t now, _, rfl⟩

end Intent

/-! ## What a sheet is hashed by -/

section Text

open Document (JsonStyle bracketed jsonText write write_object fieldText)

/-- The canonical text of a rule sheet, field by field. -/
def RuleSheet.canonicalText (s : RuleSheet) : String :=
  bracketed .canonical 0 "\x7b" "\x7d"
    [jsonText false "payload" ++ ":" ++ write .canonical 1 (.object s.payload.shownFields),
      jsonText false "rules" ++ ":" ++ bracketed .canonical 1 "\x7b" "\x7d"
        [jsonText false "access_scope" ++ ":" ++ jsonText false s.scope.name,
          jsonText false "expiry" ++ ":" ++ toString s.expiry,
          jsonText false "forbidden" ++ ":" ++ write .canonical 2 (.list s.forbidden),
          jsonText false "lock_on_violation" ++ ":" ++ write .canonical 2 (.bool s.lockOnViolation),
          jsonText false "max_uses" ++ ":" ++ toString s.maxUses,
          jsonText false "require_identity" ++ ":" ++ jsonText false s.identity.name],
      jsonText false "type" ++ ":" ++ jsonText false s.kind.name,
      jsonText false "v" ++ ":" ++ toString (1 : Int)]

theorem RuleSheet.toJson_toDocument (s : RuleSheet) :
    s.toDocument.toJson .canonical = s.canonicalText := by
  have parts : JsonStyle.canonical.order [("access_scope", Document.text s.scope.name),
      ("forbidden", .list s.forbidden), ("expiry", .integer s.expiry), ("max_uses", .integer s.maxUses),
      ("lock_on_violation", .bool s.lockOnViolation), ("require_identity", .text s.identity.name)] =
      [("access_scope", .text s.scope.name), ("expiry", .integer s.expiry),
        ("forbidden", .list s.forbidden), ("lock_on_violation", .bool s.lockOnViolation),
        ("max_uses", .integer s.maxUses), ("require_identity", .text s.identity.name)] := by
    refine JsonStyle.order_eq rfl ?_ (by simp only [List.map]; decide)
    grind
  have all : ∀ payload rules : Document, JsonStyle.canonical.order [("v", Document.integer 1),
      ("type", .text s.kind.name), ("payload", payload), ("rules", rules)] =
      [("payload", payload), ("rules", rules), ("type", .text s.kind.name), ("v", .integer 1)] := by
    intro payload rules
    refine JsonStyle.order_eq rfl ?_ (by simp only [List.map]; decide)
    grind
  rw [Document.toJson, RuleSheet.toDocument, write_object, all]
  simp only [List.map, fieldText, RuleSheet.rules, write_object _ _ [_,_,_,_,_,_], parts]
  rfl

end Text

end RuleBound
