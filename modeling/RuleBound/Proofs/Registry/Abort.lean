import RuleBound.Proofs.Registry.Interference
import RuleBound.Proofs.Registry.Legacy
import RuleBound.Proofs.Registry.Regular
import RuleBound.Proofs.Registry.Traceless

/-!
What aborts a call. A call on the registry is to fail only because something is malformed or not
found. A few other faults get out: of a whitelist that is no sequence, of numbers that are too long to
be shown in a message, of a legacy expiry that does not fit its encoding, and of events that cannot be
told. `State.Escapes` says of which steps. Every other mint is answered with the next identifier and
every other request with an outcome, unless something is malformed or not found.
-/

namespace RuleBound

open Document (Every IsShort)

theorem Fault.IsUntold.not_isHard {f : Fault} (untold : f.IsUntold) : ¬ f.IsHard := by
  cases untold <;> exact nofun

/-! ## What derails the checks of a mint -/

namespace MintRequest

/-- Why a whitelist cannot be made into a set of texts: it is no sequence, or an item cannot be
shown. -/
inductive Unlistable (whitelist : Document) : Fault → Prop
  | bare (filled : whitelist.isTrue = true) (other : whitelist.toItems = .error .wrongType) :
    Unlistable whitelist .wrongType
  | item {items : List Document} {d : Document} (filled : whitelist.isTrue = true)
    (sequence : whitelist.toItems = .ok items) (mem : d ∈ items) (long : d.hasLongNumeral = true) :
    Unlistable whitelist (.numeralTooLong none)

theorem members_eq_error_iff {whitelist : Document} {f : Fault} :
    members whitelist = .error f ↔ Unlistable whitelist f := by
  unfold members
  constructor
  · intro failed
    split_ifs at failed with filled
    rcases whitelist.toItems_cases with ⟨items, sequence⟩ | other
    · rw [sequence, ok_bind] at failed
      rcases Members.mapM_spelled_cases items with ⟨texts, shown, -⟩ | ⟨long, d, mem, here⟩
      · have listed : distinctMembers (texts.map .text) = .ok _ :=
          Members.distinctMembers_documents texts
        rw [shown, ok_bind, listed] at failed
        cases failed
      · rw [long] at failed
        cases failed
        exact .item filled sequence mem here
    · rw [other] at failed
      cases failed
      exact .bare filled other
  · intro unlistable
    cases unlistable with
    | bare filled other => rw [if_pos filled, other, error_bind]
    | @item items d filled sequence mem long =>
      rw [if_pos filled, sequence, ok_bind]
      rcases Members.mapM_spelled_cases items with ⟨-, -, short⟩ | ⟨failed, -⟩
      · cases long.symm.trans (short d mem)
      · rw [failed, error_bind]

/-- Whether the first checks pass: of the whitelist, of the creator and of the form of the hash. -/
structure IsNamed (m : MintRequest) : Prop where
  whitelist : ∃ listed, members m.whitelist = .ok listed
  creator : ∃ name, Request.identity? m.creator = some name
  rulesHash : ∃ hash, m.rulesHash = .text hash ∧ Text.isDigest hash = true

/-- What keeps the checks of a mint request from telling whether it is well-formed, with the fault
that is told instead. -/
inductive Derails (m : MintRequest) : Fault → Prop
  /-- The whitelist is none. -/
  | whitelist {f : Fault} (unlistable : Unlistable m.whitelist f) : Derails m f
  /-- The message on the kind would show a number that cannot be written. -/
  | kind {d : Document} (named : m.IsNamed) (given : m.kind = .other d)
    (long : d.hasLongNumeral = true) : Derails m (.numeralTooLong none)
  /-- The message on the version would. -/
  | version {k : ObjectKind} {rules : CompactRules} (named : m.IsNamed)
    (kind : ObjectKind.ofGiven m.kind = .ok k) (given : m.rules = .member rules)
    (long : rules.version.hasLongNumeral = true) : Derails m (.numeralTooLong none)
  /-- The expiry of legacy rules does not fit into 32 bytes. -/
  | expiry {k : ObjectKind} {rules : CompactRules} {place : String} (named : m.IsNamed)
    (kind : ObjectKind.ofGiven m.kind = .ok k) (given : m.rules = .member rules)
    (pointer : Request.identity? m.pointer = some place) (unlisted : members m.whitelist = .ok [])
    (shaped : rules.isLegacyShaped = true) (late : 2 ^ (256 : Nat) ≤ rules.expiry.value) :
    Derails m .outOfRange

variable {m : MintRequest} {f : Fault}

theorem Derails.not_isHard (derails : m.Derails f) : ¬ f.IsHard := by
  cases derails with
  | whitelist unlistable => cases unlistable <;> exact nofun
  | _ => exact nofun

/-! ### The checks one by one -/

theorem required_of_identity? {field message name : String} {d : Document}
    (given : Request.identity? d = some name) : required field message d = .ok name := by
  rw [required, given]

theorem checkKind_eq_ok_iff {kind : Given ObjectKind} {k : ObjectKind} :
    checkKind kind = .ok k ↔ ObjectKind.ofGiven kind = .ok k := by
  unfold checkKind
  split
  · next same => rw [same, Except.ok.injEq]
  · next failed =>
    rw [failed]
    exact ⟨nofun, nofun⟩
  · next failed => cases failed

theorem failsBy_checkKind (kind : Given ObjectKind) :
    FailsBy (fun f => f.IsHard ∨ f = .numeralTooLong none ∧
      ∃ d, kind = .other d ∧ d.hasLongNumeral = true) (checkKind kind) := by
  unfold checkKind
  split
  · exact failsBy_ok _
  · exact failsBy_faultShowing (.inl (.malformed ..)) fun long => .inr ⟨rfl, _, rfl, long⟩
  · next failed => cases failed

theorem checkKind_of_hasLongNumeral {d : Document} (long : d.hasLongNumeral = true) :
    checkKind (.other d) = .error (.numeralTooLong none) := by
  unfold checkKind
  split
  · next k known =>
    change byNumber _ _ _ d = .ok k at known
    unfold byNumber at known
    split at known
    · next k' found =>
      have number : d.isNumber k'.number = true :=
        List.find?_some (p := fun k : ObjectKind => d.isNumber k.number) found
      have digit : (k'.number : Int).natAbs < 10 := by cases k' <;> decide
      cases long.symm.trans (Document.hasLongNumeral_of_isNumber number digit)
    · cases known
  · next same =>
    cases same
    rw [Document.faultShowing, if_pos long]
  · next same => cases same

theorem checkRules_of_hasLongNumeral {rules : CompactRules}
    (long : rules.version.hasLongNumeral = true) :
    checkRules (.member rules) = .error (.numeralTooLong none) := by
  have unknown : ∀ n : Int, n.natAbs < 10 → rules.version.isNumber n = false := by
    intro n digit
    rw [← Bool.not_eq_true]
    intro number
    cases long.symm.trans (Document.hasLongNumeral_of_isNumber number digit)
  unfold checkRules
  dsimp only
  rw [unknown 0 (by decide), unknown 1 (by decide), Document.faultShowing, if_pos long]
  rfl

variable {rules : CompactRules}

theorem parts_of_isLegacyShaped (shaped : rules.isLegacyShaped = true) :
    rules.hasScope .any = true ∧ rules.maxUses.isNumber 0 = true ∧ rules.isLegacy = true := by
  simp only [CompactRules.isLegacyShaped, CompactRules.limitsUses, Bool.and_eq_true,
    Bool.not_not] at shaped
  exact ⟨shaped.1.1.1.1.2, shaped.1.1.1.2, shaped.2⟩

/-- Legacy rules pass their check if their expiry is not negative. -/
theorem checkRules_of_isLegacyShaped (plain : rules.IsPlain) (shaped : rules.isLegacyShaped = true)
    (least : 0 ≤ rules.expiry.value) : checkRules (.member rules) = .ok rules := by
  obtain ⟨-, unlimited, legacy⟩ := parts_of_isLegacyShaped shaped
  have known : rules.version.isNumber 0 = true := legacy
  have expiry : rules.expiry.isBelow (.integer 0) = .ok false := by
    rw [plain.expiry, Document.isBelow_integer, decide_eq_false (not_lt.mpr least)]
  have maxUses : rules.maxUses.isBelow (.integer 0) = .ok false := by
    rw [plain.maxUses, Document.isNumber_integer] at unlimited
    rw [plain.maxUses, eq_of_beq unlimited, Document.isBelow_integer, decide_eq_false (by decide)]
  unfold checkRules
  dsimp only
  rw [known, expiry, maxUses]
  rfl

theorem checkWhitelist_of_isLegacyShaped (shaped : rules.isLegacyShaped = true)
    (listed : List Document) : checkWhitelist rules listed = .ok () ↔ listed = [] := by
  have any := (parts_of_isLegacyShaped shaped).1
  have unlisted : ¬ rules.hasScope .list = true :=
    fun list => nomatch CompactRules.eq_of_hasScope any list
  rw [checkWhitelist, if_neg unlisted, ← List.isEmpty_iff]
  split_ifs with empty
  · exact iff_of_true rfl empty
  · exact iff_of_false nofun empty

theorem legacySheet_of_isPlain (plain : rules.IsPlain) :
    rules.legacySheet = .ok ⟨rules.expiry.value, !rules.forbidForward.isTrue⟩ := by
  have expiry : rules.expiry.toInteger = .ok rules.expiry.value := by
    rw [plain.expiry]
    rfl
  rw [CompactRules.legacySheet, expiry]
  rfl

theorem failsBy_checkLegacy (plain : rules.IsPlain) (least : 0 ≤ rules.expiry.value) {hash : String}
    (digest : Text.isDigest hash = true) :
    FailsBy (fun f => f.IsHard ∨ f = .outOfRange ∧ rules.isLegacyShaped = true ∧
      2 ^ (256 : Nat) ≤ rules.expiry.value) (checkLegacy rules hash) := by
  unfold checkLegacy
  split_ifs with current other
  · exact failsBy_ok _
  · exact failsBy_error (.inl (.malformed ..))
  · rw [legacySheet_of_isPlain plain, ok_bind]
    by_cases small : rules.expiry.value < 2 ^ (256 : Nat)
    · obtain ⟨packed, encoded⟩ :=
        LegacySheet.exists_packed (s := ⟨rules.expiry.value, !rules.forbidForward.isTrue⟩) least small
      obtain ⟨same, compared⟩ := exists_sameDigest_iff.mpr
        ⟨(Sha256.isHex_ofBytes packed).isAscii, Text.isAscii_of_isDigest digest⟩
      rw [LegacySheet.digest_eq_of_packed encoded, ok_bind, compared, ok_bind]
      split
      · exact failsBy_ok _
      · exact failsBy_error (.inl (.malformed ..))
    · rw [LegacySheet.digest, LegacySheet.packed, if_neg fun within => small within.2]
      exact failsBy_error (.inr ⟨rfl, by simpa using other, not_lt.mp small⟩)

theorem checkLegacy_of_late (plain : rules.IsPlain) (shaped : rules.isLegacyShaped = true)
    (late : 2 ^ (256 : Nat) ≤ rules.expiry.value) (hash : String) :
    checkLegacy rules hash = .error .outOfRange := by
  have legacy := (parts_of_isLegacyShaped shaped).2.2
  have encoding : LegacySheet.packed ⟨rules.expiry.value, !rules.forbidForward.isTrue⟩ =
      .error .outOfRange := if_neg fun within => not_lt.mpr late within.2
  rw [checkLegacy, legacy, shaped, legacySheet_of_isPlain plain, ok_bind, LegacySheet.digest,
    encoding]
  rfl

/-! ### All checks -/

/-- Once the first checks have passed, the others follow. -/
theorem check_of_isNamed (named : m.IsNamed) :
    ∃ listed creator hash, members m.whitelist = .ok listed ∧ m.check = do
      let kind ← checkKind m.kind
      let rules ← checkRules m.rules
      let pointer ← required "metadata_pointer" "metadata pointer is required" m.pointer
      checkWhitelist rules listed
      checkLegacy rules hash
      return ⟨creator, kind, hash, rules, pointer, listed⟩ := by
  obtain ⟨⟨listed, lists⟩, ⟨creator, creates⟩, hash, cites, digest⟩ := named
  refine ⟨listed, creator, hash, lists, ?_⟩
  rw [check, lists, ok_bind, required_of_identity? creates, ok_bind, cites]
  dsimp only
  rw [if_pos digest]
  rfl

theorem Derails.check_eq (plain : ∀ rules, m.rules = .member rules → rules.IsPlain)
    (derails : m.Derails f) : m.check = .error f := by
  cases derails with
  | whitelist unlistable => rw [check, members_eq_error_iff.mpr unlistable, error_bind]
  | kind named given long =>
    obtain ⟨listed, creator, hash, -, rest⟩ := check_of_isNamed named
    rw [rest, given, checkKind_of_hasLongNumeral long, error_bind]
  | version named kind given long =>
    obtain ⟨listed, creator, hash, -, rest⟩ := check_of_isNamed named
    rw [rest, checkKind_eq_ok_iff.mpr kind, ok_bind, given, checkRules_of_hasLongNumeral long,
      error_bind]
  | @expiry k rules place named kind given pointer unlisted shaped late =>
    obtain ⟨listed, creator, hash, lists, rest⟩ := check_of_isNamed named
    cases unlisted.symm.trans lists
    have limits := plain rules given
    have least : 0 ≤ rules.expiry.value := le_trans (by decide) late
    rw [rest, checkKind_eq_ok_iff.mpr kind, ok_bind, given,
      checkRules_of_isLegacyShaped limits shaped least, ok_bind, required_of_identity? pointer, ok_bind,
      (checkWhitelist_of_isLegacyShaped shaped []).mpr rfl, ok_bind,
      checkLegacy_of_late limits shaped late, error_bind]

/-- The checks of a mint request with whole numbers for limits fail because something is malformed,
or are derailed. -/
theorem failsBy_check (plain : ∀ rules, m.rules = .member rules → rules.IsPlain) :
    FailsBy (fun f => f.IsHard ∨ m.Derails f) m.check := by
  unfold check
  refine FailsBy.bind ⟨fun f failed => .inr (.whitelist (members_eq_error_iff.mp failed))⟩
    fun listed lists => ((failsBy_required ..).mono fun _ => .inl).bind fun creator creates => ?_
  extract_lets rest
  have hashed : ∀ hash, m.rulesHash = .text hash → Text.isDigest hash = true →
      FailsBy (fun f => f.IsHard ∨ m.Derails f) (rest hash) := by
    intro hash cites digest
    have named : m.IsNamed :=
      ⟨⟨listed, lists⟩, ⟨creator, identity?_of_required creates⟩, hash, cites, digest⟩
    refine ((failsBy_checkKind m.kind).mono ?_).bind fun kind sorted => ?_
    · rintro f (hard | ⟨rfl, d, given, long⟩)
      · exact .inl hard
      · exact .inr (.kind named given long)
    rw [checkKind_eq_ok_iff] at sorted
    cases given : m.rules with
    | other d => exact failsBy_error (.inl (.malformed ..))
    | member rules =>
      have limits := plain rules given
      refine ((failsBy_checkRules limits).mono ?_).bind fun rules' checked => ?_
      · rintro f (hard | ⟨rfl, long⟩)
        · exact .inl hard
        · exact .inr (.version named sorted given long)
      obtain ⟨same, -, expiry, -⟩ := eq_of_checkRules checked
      cases same
      have least : 0 ≤ rules.expiry.value := by
        rw [limits.expiry, Document.isBelow_integer] at expiry
        exact not_lt.mp (of_decide_eq_false (Except.ok.inj expiry))
      refine ((failsBy_required ..).mono fun _ => .inl).bind fun place points =>
        ((failsBy_checkWhitelist ..).mono fun _ => .inl).bind fun _ placed =>
          FailsBy.bind ((failsBy_checkLegacy limits least digest).mono ?_) fun _ _ => failsBy_ok _
      rintro f (hard | ⟨rfl, shaped, late⟩)
      · exact .inl hard
      · obtain rfl := (checkWhitelist_of_isLegacyShaped shaped listed).mp placed
        exact .inr (.expiry named sorted given (identity?_of_required points) lists shaped late)
  split
  · next hash cites =>
    split
    · next digest => exact hashed hash cites digest
    · exact failsBy_error (.inl (.malformed ..))
  · exact failsBy_error (.inl (.malformed ..))

end MintRequest

/-! ## What gets out of a call -/

namespace Registry

variable {reg : Registry} {d : Deed}

/-- What keeps a request from being decided: a message would show a number that cannot be written,
of the action or of the object, of which there is no record. -/
inductive DerailsRequest (reg : Registry) (id action : Document) (context : Given Bytes)
    (actor : Document) : Prop
  | action (long : action.hasLongNumeral = true) : DerailsRequest reg id action context actor
  | object {req : Request} (checked : Request.check action context actor = .ok req)
    (long : id.hasLongNumeral = true) (unknown : ∀ n, id = .integer n → reg.record? n = none) :
    DerailsRequest reg id action context actor

/-- Whether a step fails otherwise than because something is malformed or not found. -/
inductive State.Escapes (st : State) (x : Step) : Prop
  /-- The checks of a mint are derailed. -/
  | mint {m : MintRequest} {f : Fault} (call : x.call = .create m) (derails : m.Derails f) :
    Escapes st x
  /-- A request is not decided. -/
  | request {id action : Document} {context : Given Bytes} {actor : Document}
    (call : x.call = .request id action context actor)
    (derails : DerailsRequest st.registry id action context actor) : Escapes st x
  /-- The event of what has been brought about cannot be told: the object has too long a number for
  the name of a stream, or a field of the event has no canonical text. -/
  | event {d : Deed} (deed : st.deed? x = some d)
    (untold : ¬ (IsShort (.integer d.objectId) ∧
      ∀ f ∈ d.event.fields, ∃ text, f.2.canonical = .ok text)) : Escapes st x

variable {st : State} {x : Step}

/-- A step that has brought something about fails only because the event cannot be told. -/
theorem State.isUntold_of_deed {f : Fault} (deed : st.deed? x = some d)
    (failed : (st.step x).2 = .created (.error f) ∨ (st.step x).2 = .decided (.error f)) :
    f.IsUntold := by
  have stepped := st.stepped x
  rw [deed] at stepped
  generalize (st.step x).2 = answer at stepped failed
  generalize (st.step x).1.registry = reg' at stepped
  cases stepped with
  | mint checked stamp =>
    rw [mint_snd, Answer.created.injEq, map_eq_error_iff] at failed
    exact isUntold_of_emit (failed.resolve_right nofun)
  | verdict found breaks after correlation stamp =>
    rw [conclude_snd, Answer.decided.injEq, map_eq_error_iff] at failed
    exact isUntold_of_emit (failed.resolve_left nofun)

theorem State.step_create_of_error {s : Surroundings} {m : MintRequest} {f : Fault}
    (failed : m.check = .error f) : (st.step ⟨s, .create m⟩).2 = .created (.error f) := by
  simp only [step, create, failed]

/-- A mint under whole limits is answered with the next identifier, or is malformed, exactly if no
other fault gets out. -/
theorem State.create_answers_iff (st : State) (s : Surroundings) {m : MintRequest}
    (plain : ∀ rules, m.rules = .member rules → rules.IsPlain) :
    ((∃ event, (st.step ⟨s, .create m⟩).2 = .created (.ok (st.registry.nextId, event))) ∨
      ∃ f, f.IsHard ∧ (st.step ⟨s, .create m⟩).2 = .created (.error f)) ↔
    ¬ st.Escapes ⟨s, .create m⟩ := by
  constructor
  · intro answers escapes
    have other : ∀ f, ¬ f.IsHard → (st.step ⟨s, .create m⟩).2 ≠ .created (.error f) := by
      intro f soft failed
      rw [failed] at answers
      rcases answers with ⟨event, answer⟩ | ⟨g, hard, answer⟩
      · cases answer
      · cases answer
        exact soft hard
    cases escapes with
    | mint call derails =>
      cases call
      exact other _ derails.not_isHard (step_create_of_error (derails.check_eq plain))
    | request call => cases call
    | @event d deed untold =>
      rw [← isRecordable_iff_fields] at untold
      cases checked : m.check with
      | error f =>
        simp only [deed?, checked] at deed
        cases deed
      | ok minting =>
        have made := st.deed?_create s checked
        cases deed.symm.trans made
        rcases answer_of_mint made rfl with ⟨recorded, -⟩ | ⟨f, -, failed⟩
        · exact untold recorded
        · exact other f (isUntold_of_deed made (.inl failed)).not_isHard failed
  · intro steady
    cases checked : m.check with
    | error f =>
      have hard := ((MintRequest.failsBy_check plain).reason f checked).resolve_right
        fun derails => steady (.mint rfl derails)
      exact .inr ⟨f, hard, step_create_of_error checked⟩
    | ok minting =>
      have made := st.deed?_create s checked
      rcases answer_of_mint made rfl with ⟨-, answer⟩ | ⟨f, unrecorded, -⟩
      · exact .inl ⟨_, answer⟩
      · refine absurd (.event made fun told => ?_) steady
        rw [← isRecordable_iff_fields] at told
        cases unrecorded.symm.trans told

section Requests

variable {s : Surroundings} {id action : Document} {context : Given Bytes} {actor : Document}
  {f : Fault}

theorem State.step_request_of_error (failed : Request.check action context actor = .error f) :
    (st.step ⟨s, .request id action context actor⟩).2 = .decided (.error f) := by
  simp only [step, Registry.request, failed]

theorem State.step_request_of_unfound {req : Request}
    (checked : Request.check action context actor = .ok req)
    (failed : st.registry.find id = .error f) :
    (st.step ⟨s, .request id action context actor⟩).2 = .decided (.error f) := by
  simp only [step, Registry.request, checked, requestChecked, verdict, failed, error_bind]

theorem actionOfDocument_of_hasLongNumeral (long : action.hasLongNumeral = true) :
    Action.ofDocument action = .error (.numeralTooLong none) := by
  unfold Action.ofDocument
  split
  · cases long
  · split
    · next n _ a found =>
      have is := List.find?_some (p := fun a : Action => (a.number : Int) == n) found
      have number : (Document.integer n).isNumber a.number = true := by
        rw [Document.isNumber_integer, ← eq_of_beq is, beq_self_eq_true]
      have digit : (a.number : Int).natAbs < 10 := by cases a <;> decide
      cases long.symm.trans (Document.hasLongNumeral_of_isNumber number digit)
    · rw [Document.faultShowing, if_pos long]
  · rw [Document.faultShowing, if_pos long]

theorem find_of_hasLongNumeral (long : id.hasLongNumeral = true)
    (unknown : ∀ n, id = .integer n → reg.record? n = none) :
    reg.find id = .error (.numeralTooLong none) := by
  unfold find
  split
  · rw [unknown _ rfl]
    dsimp only
    rw [Document.faultShowing, if_pos long]
  · rw [Document.faultShowing, if_pos long]

theorem DerailsRequest.answer_eq (derails : DerailsRequest st.registry id action context actor) :
    (st.step ⟨s, .request id action context actor⟩).2 = .decided (.error (.numeralTooLong none)) := by
  cases derails with
  | action long =>
    refine State.step_request_of_error ?_
    rw [Request.check, actionOfDocument_of_hasLongNumeral long, error_bind]
  | object checked long unknown =>
    exact State.step_request_of_unfound checked (find_of_hasLongNumeral long unknown)

/-- A request on a record that verdicts can be passed on is decided. -/
theorem State.exists_deed_of_request (ruled : st.registry.IsRuled) {req : Request}
    (checked : Request.check action context actor = .ok req) {n : Int} {r : Record}
    (found : st.registry.find id = .ok (n, r)) :
    ∃ d refusal, st.deed? ⟨s, .request id action context actor⟩ = some d ∧
      d.act = .verdict req refusal := by
  obtain ⟨rfl, there⟩ := eq_of_find found
  have fine := ruled _ (mem_of_record? there)
  obtain ⟨refusal, breaks⟩ := fine.exists_refusal? s.now req.action req.actor
  obtain ⟨r', after, -⟩ := fine.exists_after refusal
  exact ⟨_, refusal, deed?_request st s checked there breaks after, rfl⟩

/-- What a request brings about is a verdict. -/
theorem State.exists_verdict_of_deed
    (deed : st.deed? ⟨s, .request id action context actor⟩ = some d) :
    ∃ req refusal, d.act = .verdict req refusal := by
  cases checked : Request.check action context actor with
  | error f =>
    simp only [deed?, checked] at deed
    cases deed
  | ok req =>
    cases decided : st.registry.verdict s.now id req with
    | error f =>
      simp only [deed?, checked, decided] at deed
      cases deed
    | ok v =>
      simp only [deed?, checked, decided] at deed
      cases deed
      exact ⟨req, v.2.1, rfl⟩

/-- A request is answered with an outcome, or is malformed or names no object, exactly if no other
fault gets out. -/
theorem State.request_answers_iff (keyed : st.registry.IsKeyed) (ruled : st.registry.IsRuled)
    (s : Surroundings) (id action : Document) (context : Given Bytes) (actor : Document) :
    ((∃ o, (st.step ⟨s, .request id action context actor⟩).2 = .decided (.ok o)) ∨
      ∃ f, f.IsHard ∧ (st.step ⟨s, .request id action context actor⟩).2 = .decided (.error f)) ↔
    ¬ st.Escapes ⟨s, .request id action context actor⟩ := by
  constructor
  · intro answers escapes
    have other : ∀ f, ¬ f.IsHard →
        (st.step ⟨s, .request id action context actor⟩).2 ≠ .decided (.error f) := by
      intro f soft failed
      rw [failed] at answers
      rcases answers with ⟨o, answer⟩ | ⟨g, hard, answer⟩
      · cases answer
      · cases answer
        exact soft hard
    cases escapes with
    | mint call => cases call
    | request call derails =>
      cases call
      exact other (.numeralTooLong none) nofun derails.answer_eq
    | @event d deed untold =>
      rw [← isRecordable_iff_fields] at untold
      obtain ⟨req, refusal, act⟩ := exists_verdict_of_deed deed
      rcases answer_of_verdict deed act (keyed d.objectId) with ⟨-, recorded, -⟩ | ⟨f, -, failed⟩
      · exact untold recorded
      · exact other f (isUntold_of_deed deed (.inr failed)).not_isHard failed
  · intro steady
    cases checked : Request.check action context actor with
    | error f =>
      rcases (failsBy_requestCheck action context actor).reason f checked with hard | ⟨-, long⟩
      · exact .inr ⟨f, hard, step_request_of_error checked⟩
      · exact absurd (.request rfl (.action long)) steady
    | ok req =>
      cases found : st.registry.find id with
      | error f =>
        rcases (st.registry.failsBy_find id).reason f found with hard | ⟨-, long⟩
        · exact .inr ⟨f, hard, step_request_of_unfound checked found⟩
        · refine absurd (.request rfl (.object checked long fun n is => ?_)) steady
          subst is
          cases there : st.registry.record? n with
          | none => rfl
          | some r =>
            simp only [find, there] at found
            cases found
      | ok entry =>
        obtain ⟨d, refusal, deed, act⟩ := exists_deed_of_request (s := s) ruled checked found
        rcases answer_of_verdict deed act (keyed d.objectId) with
          ⟨reference, -, -, answer⟩ | ⟨f, unrecorded, -⟩
        · exact .inl ⟨_, answer⟩
        · refine absurd (.event deed fun told => ?_) steady
          rw [← isRecordable_iff_fields] at told
          cases unrecorded.symm.trans told

end Requests

/-- In every state that calls lead to from an empty registry or one that was read from a snapshot, a
mint under rules with whole numbers for limits is answered with the next identifier unless something
is malformed, and a request is answered with an outcome unless something is malformed or not found,
exactly if nothing escapes. -/
theorem calls_answer_iff {start : State}
    (origin : start.registry = {} ∨
      ∃ s drawn drawn' d, restore s drawn d = (drawn', .ok start.registry)) (before : List Step)
    (s : Surroundings) :
    let st := start.run before
    (∀ m : MintRequest, (∀ rules, m.rules = .member rules → rules.IsPlain) →
      (((∃ event, (st.step ⟨s, .create m⟩).2 = .created (.ok (st.registry.nextId, event))) ∨
        ∃ f, f.IsHard ∧ (st.step ⟨s, .create m⟩).2 = .created (.error f)) ↔
      ¬ st.Escapes ⟨s, .create m⟩)) ∧
    ∀ id action context actor,
      ((∃ o, (st.step ⟨s, .request id action context actor⟩).2 = .decided (.ok o)) ∨
        ∃ f, f.IsHard ∧ (st.step ⟨s, .request id action context actor⟩).2 = .decided (.error f)) ↔
      ¬ st.Escapes ⟨s, .request id action context actor⟩ := by
  intro st
  have keyed : st.registry.IsKeyed := (isKeyed_of_origin origin).run before
  have ruled : st.registry.IsRuled := (isRuled_of_origin origin).run before
  exact ⟨fun m plain => st.create_answers_iff s plain,
    fun id action context actor => State.request_answers_iff keyed ruled s id action context actor⟩

/-- Nothing escapes from the first mint under rules that allow one use. -/
theorem calls_answer_once :
    let s : Surroundings := ⟨0, "", .null, .numbered⟩
    ¬ State.Escapes {} ⟨s, .create (onceRequest "alice")⟩ := by
  intro s
  have written : s.IsWritten := Source.isWritten_numbered 0 .null
  have first : ({} : State).registry = {} ∨ ∃ s drawn drawn' d,
      restore s drawn d = (drawn', .ok ({} : State).registry) := .inl rfl
  have plain : ∀ rules, (onceRequest "alice").rules = .member rules → rules.IsPlain := by
    rintro rules ⟨⟩
    exact ⟨rfl, rfl⟩
  exact ((calls_answer_iff first [] s).1 (onceRequest "alice") plain).mp
    (.inl (created_onceRequest written {} (by decide)))

/-- What is handed in to mint an object under legacy rules with the least expiry that their encoding
has no place for. -/
def lateRequest : MintRequest where
  creator := .text "alice"
  kind := .member .message
  rulesHash := .text (String.ofList (List.replicate 64 'a'))
  rules := .member { expiry := .integer (2 ^ (256 : Nat)), version := .integer 0 }
  pointer := .text "p"
  whitelist := .null

/-- Nothing is said of the hash: the expiry is out of the range of the encoding. -/
theorem not_isHard_late :
    let s : Surroundings := ⟨0, "", .null, .numbered⟩
    (∀ rules, lateRequest.rules = .member rules → rules.IsPlain) ∧
      (State.step {} ⟨s, .create lateRequest⟩).2 = .created (.error .outOfRange) ∧
      Fault.outOfRange.code = "OverflowError" ∧
      ¬ ((∃ event, (State.step {} ⟨s, .create lateRequest⟩).2 = .created (.ok (1, event))) ∨
        ∃ f, f.IsHard ∧ (State.step {} ⟨s, .create lateRequest⟩).2 = .created (.error f)) := by
  intro s
  have plain : ∀ rules, lateRequest.rules = .member rules → rules.IsPlain := by
    rintro rules ⟨⟩
    exact ⟨rfl, rfl⟩
  have failed : (State.step {} ⟨s, .create lateRequest⟩).2 = .created (.error .outOfRange) :=
    State.step_create_of_error (by rfl)
  refine ⟨plain, failed, rfl, ?_⟩
  rintro (⟨event, answer⟩ | ⟨f, hard, answer⟩)
  · cases failed.symm.trans answer
  · cases failed.symm.trans answer
    cases hard

end Registry

end RuleBound
