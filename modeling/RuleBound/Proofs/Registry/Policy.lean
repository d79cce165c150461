import RuleBound.Proofs.Digest
import RuleBound.Proofs.Document.Canonical
import RuleBound.Proofs.Registry.History
import RuleBound.Proofs.Rules.Compile

/-!
The policy of an intent. `Intent.Permits` says on the intent alone, and on the verdicts that there
have been on its object, whether a request is to be allowed. What the registry decides by is
something else: compact rules, and a standing that every verdict may move. The two agree on every
object that is minted from a compiled intent, after any run.
-/

namespace RuleBound

namespace Intent

/-! ## The policy -/

/-- Whether an actor is on the whitelist of an intent. -/
def Lists (i : Intent) (actor : String) : Prop :=
  ∃ items, i.whitelist.toItems = .ok items ∧ .text actor ∈ items

/-- Whether an actor is one of those for whom an intent is meant. -/
def InScope (i : Intent) (t : Terms) (creator actor : String) : Prop :=
  (t.scope = .list → i.Lists actor) ∧ (t.scope = .creatorOnly → actor = creator)

/-- Whether an intent that was compiled at a moment has not expired at another. -/
def InTime (i : Intent) (start now : Int) : Prop :=
  i.expirySeconds.value = 0 ∨ now < start + i.expirySeconds.value

/-- Whether the terms of an intent forbid an action. -/
def Terms.Forbids (t : Terms) : Action → Prop
  | .forward => .forward ∈ t.forbidden
  | .copy => .copy ∈ t.forbidden
  | .download => .export ∈ t.forbidden
  | .read | .execute => False

/-- Whether an intent permits a request after some verdicts on its object. -/
structure Permits (i : Intent) (t : Terms) (creator : String) (start : Int)
    (earlier : List Verdict) (now : Int) (action : Action) (actor : String) : Prop where
  unlocked : t.response ≠ .lock ∨ ∀ v ∈ earlier,
    ¬ (i.InScope t creator v.request.actor ∧ i.InTime start v.now ∧ t.Forbids v.request.action)
  inScope : i.InScope t creator actor
  inTime : i.InTime start now
  permitted : ¬ t.Forbids action
  inBudget : i.budget t = 0 ∨ (earlier.countP Verdict.isAllowed : Int) < i.budget t

/-! ## The mint of a compiled intent -/

/-- The request to mint an object from a compiled intent. -/
def mintRequest (i : Intent) (compiled : CompiledRules) (rules : CompactRules)
    (creator pointer : String) : MintRequest where
  creator := .text creator
  kind := i.kind
  rulesHash := .text compiled.digest
  rules := .member rules
  pointer := .text pointer
  whitelist := i.whitelist

variable {i : Intent} {t : Terms}

/-- A sequence counts as given exactly if it has items. -/
theorem isTrue_of_toItems {d : Document} {items : List Document} (sequence : d.toItems = .ok items) :
    d.isTrue = !items.isEmpty := by
  cases d with
  | text s =>
    cases sequence
    rw [Document.isTrue, List.isEmpty_map, Bool.eq_iff_iff]
    simp
  | list items =>
    cases sequence
    rfl
  | object fields =>
    cases sequence
    rw [Document.isTrue, List.isEmpty_map]
  | _ => cases sequence

/-- The members that are made of a whitelist are texts, those that it lists; there are some exactly
if the scope is a list. -/
theorem members_of_sound {scope : AccessScope} (sound : i.Sound scope) :
    ∃ texts, MintRequest.members i.whitelist = .ok (Members.documents texts) ∧
      (∀ actor, actor ∈ texts ↔ i.Lists actor) ∧ (scope = .list ↔ texts ≠ []) := by
  unfold MintRequest.members
  by_cases list : scope = .list
  · obtain ⟨given, texts, items⟩ := sound.listed list
    have listed : ∀ actor, actor ∈ Members.distinct texts ↔ i.Lists actor := by
      intro actor
      rw [Members.mem_distinct, Lists, items]
      simp [Members.mem_documents]
    refine ⟨Members.distinct texts, ?_, listed, iff_of_true list fun none => ?_⟩
    · rw [if_pos given, items, ok_bind, Members.mapM_spelled_documents]
      exact Members.distinctMembers_documents texts
    · cases texts with
      | nil =>
        rw [isTrue_of_toItems items] at given
        cases given
      | cons s texts =>
        have mem : s ∈ Members.distinct (s :: texts) := Members.mem_distinct.mpr (by simp)
        rw [none] at mem
        cases mem
  · have bare := sound.unlisted list
    rw [bare, if_neg Bool.false_ne_true]
    refine ⟨[], rfl, fun actor => iff_of_false List.not_mem_nil ?_, by simp [list]⟩
    rintro ⟨items, sequence, mem⟩
    rw [isTrue_of_toItems sequence, Bool.not_eq_false', List.isEmpty_iff] at bare
    rw [bare] at mem
    cases mem

theorem identity?_of_not_blank {s : String} (filled : Text.isBlankText s = false) :
    Request.identity? (.text s) = some s := by
  rw [Request.identity?, filled, if_neg Bool.false_ne_true]

theorem checkRules_compactRules (sound : i.Sound t.scope) {now : Int} (start : 0 ≤ now) :
    MintRequest.checkRules (.member (i.compactRules t now)) = .ok (i.compactRules t now) := by
  have expiry : ¬ (if 0 < i.expirySeconds.value then now + i.expirySeconds.value else 0) < 0 := by
    split_ifs <;> omega
  have budget : ¬ i.budget t < 0 := by
    have nonneg := sound.maxUses_nonneg
    unfold Intent.budget
    split_ifs <;> omega
  have version : (!(i.compactRules t now).version.isNumber 0 &&
      !(i.compactRules t now).version.isNumber 1) = false := rfl
  have belowExpiry : (i.compactRules t now).expiry.isBelow (.integer 0) = .ok false := by
    rw [compactRules, Document.isBelow_integer, decide_eq_false expiry]
  have belowUses : (i.compactRules t now).maxUses.isBelow (.integer 0) = .ok false := by
    rw [compactRules, Document.isBelow_integer, decide_eq_false budget]
  unfold MintRequest.checkRules
  simp only [version, belowExpiry, belowUses, ok_bind, Bool.false_eq_true, if_false]
  rfl

/-- Minting an object from a compiled intent passes all checks. -/
theorem check_mintRequest (members : i.HasTerms t) (sound : i.Sound t.scope) {now : Int}
    (start : 0 ≤ now) {compiled : CompiledRules} {message : Bytes}
    (written : compiled.digest = Sha256.ofBytes message) {creator pointer : String}
    (named : Text.isBlankText creator = false) (placed : Text.isBlankText pointer = false) :
    ∃ texts, (i.mintRequest compiled (i.compactRules t now) creator pointer).check =
        .ok ⟨creator, t.kind, compiled.digest, i.compactRules t now, pointer,
          Members.documents texts⟩ ∧
      ∀ actor, actor ∈ texts ↔ i.Lists actor := by
  obtain ⟨texts, made, listed, filled⟩ := members_of_sound sound
  refine ⟨texts, ?_, listed⟩
  have whitelist : MintRequest.checkWhitelist (i.compactRules t now) (Members.documents texts) =
      .ok () := by
    unfold MintRequest.checkWhitelist
    have scope : (i.compactRules t now).hasScope .list = (t.scope == .list) := rfl
    rw [scope]
    by_cases list : t.scope = .list
    · have some : (Members.documents texts).isEmpty = false := by
        rw [List.isEmpty_eq_false_iff]
        exact fun none => filled.mp list (List.map_eq_nil_iff.mp none)
      rw [if_pos (by simp [list]), some, if_neg Bool.false_ne_true]
    · rw [if_neg (by simp [list]), of_not_not (mt filled.mpr list)]
      rfl
  have legacy : MintRequest.checkLegacy (i.compactRules t now) compiled.digest = .ok () := by
    have current : (i.compactRules t now).isLegacy = false := rfl
    unfold MintRequest.checkLegacy
    rw [current]
    rfl
  have digest : Text.isDigest compiled.digest = true := by
    rw [written]
    exact Sha256.isDigest_ofBytes message
  have kind : MintRequest.checkKind i.kind = .ok t.kind := by
    rw [members.kind]
    rfl
  unfold MintRequest.check
  simp only [mintRequest, made, MintRequest.required, identity?_of_not_blank named,
    identity?_of_not_blank placed, digest, kind, checkRules_compactRules sound start, whitelist,
    legacy, ok_bind, if_true]
  rfl

/-! ## Rules and standing against the policy -/

/-- Whether something was minted from an intent that was compiled at a moment. -/
structure Mints (i : Intent) (t : Terms) (creator : String) (start : Int) (m : Minting) : Prop where
  creator : m.creator = creator
  rules : m.rules = i.compactRules t start
  whitelist : t.scope = .list → ∀ actor, m.whitelist.contains (.text actor) = true ↔ i.Lists actor

section Mints

variable {creator : String} {start : Int} {m : Minting}

theorem Mints.isPlain (mints : i.Mints t creator start m) : m.rules.IsPlain := by
  rw [mints.rules]
  exact ⟨rfl, rfl⟩

theorem Mints.outOfScope?_iff (mints : i.Mints t creator start m) (actor : String) :
    m.outOfScope? actor = none ↔ i.InScope t creator actor := by
  have scope : ∀ s, m.rules.hasScope s = (t.scope == s) := by
    intro s
    rw [mints.rules]
    rfl
  unfold Minting.outOfScope? InScope
  rw [scope, scope, mints.creator]
  by_cases list : t.scope = .list
  · have listed := mints.whitelist list actor
    simp only [list, beq_self_eq_true, if_true, true_implies, reduceCtorEq, false_implies, and_true,
      ← listed]
    cases m.whitelist.contains (.text actor) <;> simp
  · rw [if_neg (by simpa using list)]
    by_cases only : t.scope = .creatorOnly
    · by_cases same : creator = actor <;> simp [only, same, eq_comm]
    · simp [list, only]

theorem Mints.isOver_iff (mints : i.Mints t creator start m) (sound : i.Sound t.scope)
    (nonneg : 0 ≤ start) (now : Int) : m.rules.isOver now = false ↔ i.InTime start now := by
  have seconds := sound.expirySeconds_nonneg
  unfold CompactRules.isOver InTime
  rw [mints.rules]
  simp only [compactRules, Document.value_integer]
  split_ifs with positive
  · rw [Bool.and_eq_false_iff, bne_eq_false_iff_eq, decide_eq_false_iff_not]
    omega
  · have never : i.expirySeconds.value = 0 := by omega
    simp [never]

theorem Mints.forbids_iff (mints : i.Mints t creator start m) (action : Action) :
    m.rules.forbids action = true ↔ t.Forbids action := by
  rw [mints.rules]
  cases action <;>
    simp [CompactRules.forbids, compactRules, Document.isTrue, Terms.Forbids]

theorem Mints.violates_iff (mints : i.Mints t creator start m) (sound : i.Sound t.scope)
    (nonneg : 0 ≤ start) (now : Int) (req : Request) :
    m.violates now req = true ↔
      i.InScope t creator req.actor ∧ i.InTime start now ∧ t.Forbids req.action := by
  unfold Minting.violates
  rw [Bool.and_eq_true, Bool.and_eq_true, Option.isNone_iff_eq_none, Bool.not_eq_true',
    mints.outOfScope?_iff, mints.isOver_iff sound nonneg, mints.forbids_iff, and_assoc]

theorem Mints.limitsUses_iff (mints : i.Mints t creator start m) :
    m.rules.limitsUses = true ↔ i.budget t ≠ 0 := by
  rw [mints.isPlain.limitsUses_eq, mints.rules]
  simp [compactRules]

/-- After the same verdicts, the registry decides as the policy does. -/
theorem Mints.refusal?_eq_none_iff (mints : i.Mints t creator start m) (sound : i.Sound t.scope)
    (nonneg : 0 ≤ start) {st : Standing} {vs : List Verdict} (decided : Decided m st vs) (now : Int)
    (action : Action) (actor : String) :
    m.refusal? st now action actor = none ↔ i.Permits t creator start vs now action actor := by
  have locks : m.rules.lockOnViolation.isTrue = true ↔ t.response = .lock := by
    rw [mints.rules]
    exact decide_eq_true_iff
  have unlocked : st.locked = false ↔ t.response ≠ .lock ∨ ∀ v ∈ vs, ¬ (i.InScope t creator
      v.request.actor ∧ i.InTime start v.now ∧ t.Forbids v.request.action) := by
    rw [decided.locked_eq, Bool.and_eq_false_iff, List.any_eq_false, ← Bool.not_eq_true, locks]
    simp only [mints.violates_iff sound nonneg]
  have left : (m.rules.limitsUses = true → 0 < st.uses) ↔
      i.budget t = 0 ∨ (vs.countP Verdict.isAllowed : Int) < i.budget t := by
    have uses : m.rules.maxUses.value = i.budget t := by
      rw [mints.rules]
      rfl
    rw [decided.uses_eq, uses]
    by_cases limited : m.rules.limitsUses = true
    · have some := mints.limitsUses_iff.mp limited
      rw [if_pos limited]
      simp only [limited, true_implies, some, false_or]
      omega
    · have none : i.budget t = 0 := by
        by_contra some
        exact limited (mints.limitsUses_iff.mpr some)
      simp [limited, none]
  rw [m.refusal?_eq_none_iff, unlocked, mints.outOfScope?_iff, mints.isOver_iff sound nonneg, left,
    ← Bool.not_eq_true, mints.forbids_iff]
  exact ⟨fun ⟨a, b, c, d, e⟩ => ⟨a, b, c, d, e⟩, fun ⟨a, b, c, d, e⟩ => ⟨a, b, c, d, e⟩⟩

end Mints

/-- Every request on an object that was minted from an accepted intent is decided, after any run
that came before it, and it is allowed exactly if the intent permits it after the verdicts so far.
The caller is told this verdict, unless its event cannot be recorded. -/
theorem allowed_iff_permits (members : i.HasTerms t) {warnings : List String}
    (accepted : i.review = .ok (.accepted i warnings)) {start : Int} (nonneg : 0 ≤ start)
    {compiled : CompiledRules} (compiles : i.compile (.integer start) = .ok compiled)
    {creator pointer : String} (named : Text.isBlankText creator = false)
    (placed : Text.isBlankText pointer = false) (st : Registry.State) (s : Surroundings)
    (later : List Registry.Step) :
    ∃ rules, compiled.sheet.toCompact = .ok rules ∧
      let mint := i.mintRequest compiled rules creator pointer
      let id := st.registry.nextId
      let minted := (st.step ⟨s, .create mint⟩).1
      let reached := minted.run later
      mint.check.isOk = true ∧ ∀ (s' : Surroundings) (action : Document) (context : Given Bytes)
        (actor : Document) (req : Request), Request.check action context actor = .ok req →
        let asked : Registry.Step := ⟨s', .request (.integer id) action context actor⟩
        ∃ refusal event, reached.deed? asked = some ⟨id, s'.now, .verdict req refusal, event⟩ ∧
          (refusal = none ↔ i.Permits t creator start (minted.verdictsOn id later) s'.now req.action
            req.actor) ∧
          ((∃ reference, (reached.step asked).2 =
              .decided (.ok ⟨id, req.actor, req.action, refusal, reference, event⟩)) ∨
            (Registry.isRecordable id event = false ∧
              ∃ f, (reached.step asked).2 = .decided (.error f))) := by
  have sound := sound_of_accepted members.scope accepted
  obtain ⟨compact, message, written⟩ := toCompact_of_compile members sound compiles
  refine ⟨i.compactRules t start, compact, ?_⟩
  obtain ⟨texts, checked, listed⟩ :=
    check_mintRequest members sound nonneg written named placed
  intro mint id minted reached
  refine ⟨by rw [checked]; rfl, fun s' action context actor req form => ?_⟩
  have mints : i.Mints t creator start ⟨creator, t.kind, compiled.digest, i.compactRules t start,
      pointer, Members.documents texts⟩ := by
    refine ⟨rfl, rfl, fun list actor => ?_⟩
    rw [Members.contains_documents, decide_eq_true_iff]
    exact listed actor
  generalize (⟨creator, t.kind, compiled.digest, i.compactRules t start, pointer,
    Members.documents texts⟩ : Minting) = m at checked mints
  obtain ⟨standing, found, decided⟩ :=
    st.exists_standing_of_create s checked mints.isPlain later
  intro asked
  have deed := reached.deed?_request s' form found (Minting.refusal?_recordAt mints.isPlain ..)
    (Minting.after_recordAt ..)
  refine ⟨_, _, deed, mints.refusal?_eq_none_iff sound nonneg decided .., ?_⟩
  have bears : ∀ r, reached.registry.record? id = some r → r.id = .integer id := by
    intro r found'
    rw [Option.some.inj (found'.symm.trans found)]
    rfl
  rcases Registry.State.answer_of_verdict deed rfl bears with
    ⟨reference, -, -, answer⟩ | ⟨f, unrecorded, answer⟩
  · exact .inl ⟨reference, answer⟩
  · exact .inr ⟨unrecorded, f, answer⟩

/-! ## A note for one reader -/

/-- A note that one reader may read once. -/
def oneReader : Intent where
  kind := .member .message
  name := .text "Note"
  payload := .message (.text "For one reader")
  scope := .member .list
  onViolation := .text "LOCK"
  maxUses := .integer 1
  whitelist := .ofTexts ["bob"]

/-- What the note says in terms of the vocabularies. -/
def oneReaderTerms : Terms := ⟨.message, .list, [.forward], .lock, .never⟩

/-- The sheet of the note. -/
def oneReaderSheet : RuleSheet where
  kind := .message
  payload := .ofFields [("text", .text "For one reader")]
  scope := .list
  forbidden := [.text "FORWARD"]
  expiry := 0
  maxUses := 1
  lockOnViolation := true
  identity := .never

theorem oneReaderSheet_toDocument : oneReaderSheet.toDocument =
    .object [("v", .integer 1), ("type", .text "MESSAGE"),
      ("payload", .object [("text", .text "For one reader")]),
      ("rules", .object [("access_scope", .text "LIST"), ("forbidden", .list [.text "FORWARD"]),
        ("expiry", .integer 0), ("max_uses", .integer 1), ("lock_on_violation", .bool true),
        ("require_identity", .text "NEVER")])] := by
  rfl

theorem exists_compile_oneReader : ∃ compiled, oneReader.compile (.integer 0) = .ok compiled := by
  have made : oneReader.sheet (.integer 0) = .ok oneReaderSheet := by rfl
  have textual : oneReaderSheet.canonical = oneReaderSheet.toDocument.canonical := by
    unfold RuleSheet.canonical
    rw [if_pos (by decide)]
  have written := (Document.canonical_eq_ok_iff oneReaderSheet.toDocument _).mpr ⟨⟨?_, ?_, ?_⟩, rfl⟩
  · exact ⟨⟨_, _, _⟩, by rw [compile, made, ok_bind, textual, written]; rfl⟩
  · simp [oneReaderSheet_toDocument, Document.IsExact]
  · simp [oneReaderSheet_toDocument]
  · simp [oneReaderSheet_toDocument, Document.HasWholeTexts]
    decide

/-- The reader of the note is allowed to read it. -/
theorem oneReader_allowed_to_read :
    ∃ compiled rules, oneReader.compile (.integer 0) = .ok compiled ∧
      compiled.sheet.toCompact = .ok rules ∧
      let s : Surroundings := ⟨0, "", .null, .numbered⟩
      let mint := oneReader.mintRequest compiled rules "alice" "shelf"
      ∃ event, (Registry.State.step {} ⟨s, .create mint⟩).1.deed?
          ⟨s, .request (.integer 1) (.text "READ") (.member []) (.text "bob")⟩ =
        some ⟨1, 0, .verdict ⟨.read, [], "bob"⟩ none, event⟩ := by
  obtain ⟨compiled, compiles⟩ := exists_compile_oneReader
  have members : oneReader.HasTerms oneReaderTerms := ⟨rfl, rfl, rfl, rfl, rfl⟩
  have accepted : oneReader.review = .ok (.accepted oneReader []) := by decide +kernel
  obtain ⟨rules, compact, -, decides⟩ := allowed_iff_permits members accepted (Int.le_refl 0)
    compiles (by decide : Text.isBlankText "alice" = false)
    (by decide : Text.isBlankText "shelf" = false)
    {} ⟨0, "", .null, .numbered⟩ []
  obtain ⟨refusal, event, deed, allowed, -⟩ := decides ⟨0, "", .null, .numbered⟩ (.text "READ")
    (.member []) (.text "bob") ⟨.read, [], "bob"⟩ (by decide +kernel)
  have permits : oneReader.Permits oneReaderTerms "alice" 0 [] 0 .read "bob" :=
    ⟨.inr (by simp), ⟨fun _ => ⟨_, rfl, by simp⟩, by decide⟩, .inl rfl, id,
      .inr (by decide)⟩
  rw [allowed.mpr permits] at deed
  exact ⟨compiled, rules, compiles, compact, event, deed⟩

end Intent

end RuleBound
