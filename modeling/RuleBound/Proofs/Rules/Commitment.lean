import RuleBound.Proofs.Rules.Decoding

/-!
What a digest commits to. Two intents compile to one canonical text exactly if they agree in what the
rules say: the kind, the descriptor of the payload, the scope, which actions are forbidden, the
moment of expiry, the number of uses, the response to a violation and the demand for an identity.

The text determines the sheet because it is read back as the sheet. The sheet determines what an
intent says because each part of it has one spelling only: the set of forbidden actions is listed in
one order, and the descriptors of payloads have their fields in one order.
-/

namespace RuleBound

open Document (Every HasDistinctNames JsonStyle)

/-- Fields are known from the mapping that they make. -/
theorem Mapping.ofFields_injective : Function.Injective Mapping.ofFields :=
  List.map_injective_iff.mpr fun f g same => by
    obtain ⟨name, value⟩ := Prod.mk.inj same
    exact Prod.ext (Document.text.inj name) value

/-! ## Vocabularies -/

theorem eq_of_bySpelling {α : Type} {kind : String} {all : List α} {name : α → String} {d : Document}
    {a : α} (spelled : bySpelling kind all name d = .ok a) : d = .text (name a) := by
  unfold bySpelling at spelled
  split at spelled
  · next b found =>
    cases spelled
    simpa using List.find?_some found
  · cases spelled

/-- An action is among those that items spell exactly if its name is among the items. -/
theorem mem_of_mapM_ofSpelling {items : List Document} {actions : List Forbiddable}
    (spelled : items.mapM Forbiddable.ofSpelling = .ok actions) (a : Forbiddable) :
    a ∈ actions ↔ Document.text a.name ∈ items := by
  induction items generalizing actions with
  | nil =>
    cases spelled
    simp
  | cons d items ih =>
    rw [List.mapM_cons] at spelled
    obtain ⟨b, first, spelled⟩ := bind_eq_ok_iff.mp spelled
    obtain ⟨rest, others, spelled⟩ := bind_eq_ok_iff.mp spelled
    cases spelled
    have name_injective : ∀ a b : Forbiddable, a.name = b.name ↔ a = b := by
      intro a b
      cases a <;> cases b <;> decide
    rw [List.mem_cons, List.mem_cons, ih others, eq_of_bySpelling first, Document.text.injEq,
      name_injective]

namespace Payload

/-- Whether the fields that the rules commit to are texts. -/
def IsTextual (p : Payload) : Prop := ∀ f ∈ p.descriptor, ∃ s, f.2 = .text s

/-- A payload with other content, if it is a file. -/
def withContent : Payload → FileContent → Payload
  | file name mimeType _ reference, content => file name mimeType content reference
  | p, _ => p

/-- The names of what the rules may commit to, in the order in which descriptors list them. -/
def descriptorNames : List String :=
  ["text", "fileName", "mimeType", "contentRef", "url", "resource", "scope"]

theorem pairwise_descriptor (p : Payload) : p.descriptor.Pairwise fun f g =>
    descriptorNames.idxOf f.1 < descriptorNames.idxOf g.1 := by
  rw [← List.pairwise_map (f := Prod.fst)
    (R := fun a b => descriptorNames.idxOf a < descriptorNames.idxOf b)]
  cases p with
  | file name mimeType content reference =>
    by_cases given : reference.isTrue = true <;> simp [descriptor, given] <;> decide
  | _ => simp [descriptor] <;> decide

/-- Descriptors with the same fields are the same. -/
theorem descriptor_eq_of_perm {p p' : Payload} (perm : p.descriptor.Perm p'.descriptor) :
    p.descriptor = p'.descriptor :=
  perm.eq_of_pairwise (fun _ _ _ _ before after => absurd after (Nat.lt_asymm before))
    p.pairwise_descriptor p'.pairwise_descriptor

theorem IsTextual.distinct {p : Payload} (textual : p.IsTextual) :
    ∀ f ∈ p.descriptor, Every HasDistinctNames f.2 := by
  intro f mem
  obtain ⟨s, text⟩ := textual f mem
  rw [text]
  exact (Every.text_iff _).mpr trivial

end Payload

/-- The fields of a textual payload are read back as they are. -/
theorem RuleSheet.IsOver.reread_descriptor {s : RuleSheet} {p : Payload}
    (here : s.IsOver p.descriptor) (textual : p.IsTextual) {text : String}
    (written : s.canonical = .ok text) :
    ((JsonStyle.canonical.order p.descriptor).map fun f => (f.1, f.2.reread .canonical)) =
      JsonStyle.canonical.order p.descriptor := by
  refine (List.map_congr_left fun f mem => ?_).trans (List.map_id _)
  have mem' := (JsonStyle.canonical.order_perm _).mem_iff.mp mem
  obtain ⟨s, text⟩ := textual f mem'
  rw [here.canonical_eq, Document.canonical_eq_ok_iff, here.toDocument_eq] at written
  obtain ⟨⟨-, -, whole⟩, -⟩ := written
  have payload := whole.within (.object p.descriptor) (by simp [Document.children])
  have value := (payload.within f.2 (List.mem_map_of_mem mem')).here
  rw [text] at value
  rw [text, Document.reread, Text.IsWhole.reread_eq value, ← text]
  rfl

namespace Intent

/-- Whether an intent forbids an action, in whatever place of the sequence. -/
def Forbids (i : Intent) (a : Forbiddable) : Prop :=
  ∃ items, i.forbidden.toItems = .ok items ∧ .text a.name ∈ items

/-- The moment of expiry of an intent that is compiled at a moment; zero is never. -/
def expiryFrom (i : Intent) (now : Int) : Int :=
  if 0 < i.expirySeconds.value then now + i.expirySeconds.value else 0

/-- Whether the numbers of an intent are whole numbers. -/
structure HasCounts (i : Intent) : Prop where
  expirySeconds : i.expirySeconds = .integer i.expirySeconds.value
  maxUses : i.maxUses = .integer i.maxUses.value

/-- Whether two intents, each compiled at a moment, agree in what their rules say. -/
structure Agrees (i : Intent) (now : Int) (i' : Intent) (now' : Int) : Prop where
  kind : ObjectKind.ofGiven i.kind = ObjectKind.ofGiven i'.kind
  descriptor : i.payload.descriptor = i'.payload.descriptor
  scope : AccessScope.ofGiven i.scope = AccessScope.ofGiven i'.scope
  forbidden : ∀ a, i.Forbids a ↔ i'.Forbids a
  expiry : i.expiryFrom now = i'.expiryFrom now'
  maxUses : i.maxUses = i'.maxUses
  onViolation : i.onViolation = i'.onViolation
  identity : i.identity = i'.identity

variable {i i' : Intent} {now now' : Int} {s s' : RuleSheet}

/-- The actions that a sheet lists are those that the intent forbids, in one order. -/
theorem IsSheet.forbidden_eq {now : Document} (is : i.IsSheet now s) :
    ∃ actions : List Forbiddable, (∀ a, a ∈ actions ↔ i.Forbids a) ∧
      s.forbidden = (Forbiddable.all.filter actions.contains).map fun a => .text a.name := by
  obtain ⟨items, sequence, listed⟩ := bind_eq_ok_iff.mp is.forbidden
  obtain ⟨actions, spelled, listed⟩ := bind_eq_ok_iff.mp listed
  refine ⟨actions, fun a => (mem_of_mapM_ofSpelling spelled a).trans ⟨fun mem => ?_, ?_⟩,
    (Except.ok.inj listed).symm⟩
  · exact ⟨items, sequence, mem⟩
  · rintro ⟨items', sequence', mem⟩
    cases sequence.symm.trans sequence'
    exact mem

theorem IsSheet.text_mem_forbidden_iff {now : Document} (is : i.IsSheet now s) (a : Forbiddable) :
    .text a.name ∈ s.forbidden ↔ i.Forbids a := by
  obtain ⟨actions, mem, listed⟩ := is.forbidden_eq
  rw [← mem, listed, ← List.contains_iff_mem, contains_normalForbidden, List.contains_iff_mem]

theorem IsSheet.expiry_eq (is : i.IsSheet (.integer now) s) (counts : i.HasCounts) :
    s.expiry = i.expiryFrom now :=
  (Except.ok.inj ((expiryAt_eq counts.expirySeconds now).symm.trans is.expiry)).symm

theorem IsSheet.maxUses_eq {now : Document} (is : i.IsSheet now s) (counts : i.HasCounts) :
    i.maxUses = .integer s.maxUses := by
  have counted := is.maxUses
  rw [counts.maxUses] at counted ⊢
  rw [Except.ok.inj counted]

section Both

variable (is : i.IsSheet (.integer now) s) (is' : i'.IsSheet (.integer now') s')
  (counts : i.HasCounts) (counts' : i'.HasCounts)

include is is' counts counts'

/-- Intents that agree have one sheet. -/
theorem IsSheet.eq_of_agrees (agrees : i.Agrees now i' now') : s = s' := by
  have kind := Except.ok.inj (is.kind.symm.trans (agrees.kind.trans is'.kind))
  have scope := Except.ok.inj (is.scope.symm.trans (agrees.scope.trans is'.scope))
  have payload : s.payload = s'.payload := by
    rw [is.payload, is'.payload, agrees.descriptor]
  have expiry : s.expiry = s'.expiry := by
    rw [is.expiry_eq counts, is'.expiry_eq counts', agrees.expiry]
  have maxUses : s.maxUses = s'.maxUses := by
    have same := agrees.maxUses
    rw [is.maxUses_eq counts, is'.maxUses_eq counts'] at same
    exact Document.integer.inj same
  have identity : s.identity = s'.identity :=
    Except.ok.inj (is.identity.symm.trans ((congrArg _ agrees.identity).trans is'.identity))
  have lock : s.lockOnViolation = s'.lockOnViolation := by
    obtain ⟨response, spelled, locks⟩ := is.response
    obtain ⟨response', spelled', locks'⟩ := is'.response
    rw [agrees.onViolation] at spelled
    cases spelled.symm.trans spelled'
    rw [locks, locks']
  have forbidden : s.forbidden = s'.forbidden := by
    obtain ⟨actions, mem, listed⟩ := is.forbidden_eq
    obtain ⟨actions', mem', listed'⟩ := is'.forbidden_eq
    have same : actions.contains = actions'.contains := by
      funext a
      rw [Bool.eq_iff_iff, List.contains_iff_mem, List.contains_iff_mem, mem, mem',
        agrees.forbidden]
    rw [listed, listed', same]
  cases s
  cases s'
  simp only [RuleSheet.mk.injEq]
  exact ⟨kind, payload, scope, forbidden, expiry, maxUses, lock, identity⟩

/-- Intents whose sheets have one text agree. -/
theorem IsSheet.agrees_of_canonical (textual : i.payload.IsTextual)
    (textual' : i'.payload.IsTextual) {text : String} (written : s.canonical = .ok text)
    (written' : s'.canonical = .ok text) : i.Agrees now i' now' := by
  have here := is.isOver textual.distinct
  have here' := is'.isOver textual'.distinct
  have read := (here.ofJson_canonical written).symm.trans (here'.ofJson_canonical written')
  have same := AnySheet.current.inj (Except.ok.inj read)
  unfold RuleSheet.reread at same
  rw [here.reread_descriptor textual written, here'.reread_descriptor textual' written',
    RuleSheet.mk.injEq] at same
  obtain ⟨kind, payload, scope, forbidden, expiry, maxUses, lock, identity⟩ := same
  exact {
    kind := by rw [is.kind, is'.kind, kind]
    descriptor := by
      have fields := Mapping.ofFields_injective payload
      refine Payload.descriptor_eq_of_perm ((JsonStyle.canonical.order_perm _).symm.trans ?_)
      rw [fields]
      exact JsonStyle.canonical.order_perm _
    scope := by rw [is.scope, is'.scope, scope]
    forbidden := fun a => by
      rw [← is.text_mem_forbidden_iff, ← is'.text_mem_forbidden_iff, forbidden]
    expiry := by rw [← is.expiry_eq counts, ← is'.expiry_eq counts', expiry]
    maxUses := by rw [is.maxUses_eq counts, is'.maxUses_eq counts', maxUses]
    onViolation := by
      obtain ⟨response, spelled, locks⟩ := is.response
      obtain ⟨response', spelled', locks'⟩ := is'.response
      rw [locks, locks', decide_eq_decide] at lock
      have same : response = response' := by
        revert lock
        cases response <;> cases response' <;> decide
      rw [eq_of_bySpelling spelled, eq_of_bySpelling spelled', same]
    identity := by rw [eq_of_bySpelling is.identity, eq_of_bySpelling is'.identity, identity] }

end Both

/-- The canonical text of an intent commits to what the rules say, and to nothing else: two intents
have one text exactly if they agree in that, and the name, the description, the whitelist and the
content of a file can be anything. -/
theorem canonical_eq_iff_agrees (textual : i.payload.IsTextual) (textual' : i'.payload.IsTextual)
    (counts : i.HasCounts) (counts' : i'.HasCounts) {compiled compiled' : CompiledRules}
    (compiles : i.compile (.integer now) = .ok compiled)
    (compiles' : i'.compile (.integer now') = .ok compiled') :
    (compiled.canonical = compiled'.canonical ↔ i.Agrees now i' now') ∧
      ∀ (name description whitelist : Document) (content : FileContent),
        ({ i with
            name := name
            description := description
            whitelist := whitelist
            payload := i.payload.withContent content } : Intent).compile (.integer now) =
          .ok compiled := by
  obtain ⟨is, written, -⟩ := exists_sheet_of_compile compiles
  obtain ⟨is', written', -⟩ := exists_sheet_of_compile compiles'
  refine ⟨⟨fun same => ?_, fun agrees => ?_⟩, fun name description whitelist content => ?_⟩
  · rw [← same] at written'
    exact is.agrees_of_canonical is' counts counts' textual textual' written written'
  · rw [is.eq_of_agrees is' counts counts' agrees] at written
    exact Except.ok.inj (written.symm.trans written')
  · have same : (i.payload.withContent content).descriptor = i.payload.descriptor := by
      cases i.payload <;> rfl
    rw [← compiles]
    unfold compile sheet
    rw [same]
    rfl

/-- A file that must be neither copied nor forwarded. -/
def report : Intent where
  kind := .member .file
  name := .text "Report"
  payload := .file (.text "a.txt") (.text "text/plain") (.bytes [1, 2, 3]) .null
  forbidden := .ofTexts ["COPY", "FORWARD"]

/-- The same file with other content, whose forbidden actions are told in another order. -/
def redraft : Intent where
  kind := .other (.integer 1)
  name := .text "Draft"
  payload := .file (.text "a.txt") (.text "text/plain") (.bytes []) .null
  forbidden := .ofTexts ["FORWARD", "COPY", "FORWARD"]

/-- The sheet of both. -/
def reportSheet : RuleSheet where
  kind := .file
  payload := .ofFields [("fileName", .text "a.txt"), ("mimeType", .text "text/plain")]
  scope := .link
  forbidden := [.text "COPY", .text "FORWARD"]
  expiry := 0
  maxUses := 0
  lockOnViolation := false
  identity := .never

theorem canonical_reportSheet : reportSheet.canonical = .ok reportSheet.canonicalText := by
  have here : reportSheet.IsOver [("fileName", .text "a.txt"), ("mimeType", .text "text/plain")] :=
    ⟨rfl, by simp, ⟨by simp, by simp [HasDistinctNames]⟩, ["COPY", "FORWARD"], rfl⟩
  refine here.canonical_of_texts ?_ ?_ Document.isShort_zero Document.isShort_zero
  · simp only [List.forall_mem_cons]
    exact ⟨⟨by decide, _, rfl, by decide⟩, ⟨by decide, _, rfl, by decide⟩, by simp⟩
  · simp only [reportSheet, List.forall_mem_cons]
    exact ⟨⟨_, rfl, by decide⟩, ⟨_, rfl, by decide⟩, by simp⟩

theorem forbids_iff_mem {names : List String} (given : i.forbidden = .ofTexts names)
    (a : Forbiddable) : i.Forbids a ↔ .text a.name ∈ names.map Document.text := by
  rw [Forbids, given]
  constructor
  · rintro ⟨_, same, mem⟩
    cases same
    exact mem
  · exact fun mem => ⟨_, rfl, mem⟩

/-- The two are committed to by one text, also if they are compiled at different moments. -/
theorem canonical_eq_redraft : ∃ compiled compiled', report.compile (.integer 0) = .ok compiled ∧
    redraft.compile (.integer 5) = .ok compiled' ∧ report.Agrees 0 redraft 5 ∧
    compiled.canonical = compiled'.canonical := by
  have made : report.sheet (.integer 0) = .ok reportSheet := by rfl
  have made' : redraft.sheet (.integer 5) = .ok reportSheet := by rfl
  have compiles : report.compile (.integer 0) = .ok ⟨reportSheet.canonicalText,
      Sha256.ofText reportSheet.canonicalText, reportSheet⟩ := by
    rw [compile, made, ok_bind, canonical_reportSheet]
    rfl
  have compiles' : redraft.compile (.integer 5) = .ok ⟨reportSheet.canonicalText,
      Sha256.ofText reportSheet.canonicalText, reportSheet⟩ := by
    rw [compile, made', ok_bind, canonical_reportSheet]
    rfl
  have textual : report.payload.IsTextual := by
    intro f mem
    change f ∈ [("fileName", Document.text "a.txt"), ("mimeType", .text "text/plain")] at mem
    simp only [List.mem_cons, List.not_mem_nil, or_false] at mem
    rcases mem with rfl | rfl <;> exact ⟨_, rfl⟩
  have forbids : ∀ a, report.Forbids a ↔ redraft.Forbids a := by
    intro a
    rw [forbids_iff_mem (i := report) rfl, forbids_iff_mem (i := redraft) rfl]
    cases a <;> decide
  have textual' : redraft.payload.IsTextual := textual
  have agrees : report.Agrees 0 redraft 5 := ⟨rfl, rfl, rfl, forbids, rfl, rfl, rfl, rfl⟩
  have counts : report.HasCounts := ⟨rfl, rfl⟩
  have counts' : redraft.HasCounts := ⟨rfl, rfl⟩
  obtain ⟨same, -⟩ := canonical_eq_iff_agrees textual textual' counts counts' compiles compiles'
  exact ⟨_, _, compiles, compiles', agrees, same.mpr agrees⟩

end Intent

end RuleBound
