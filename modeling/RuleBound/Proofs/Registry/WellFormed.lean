import RuleBound.Proofs.Registry.Binding
import RuleBound.Proofs.Registry.Growth
import RuleBound.Proofs.Registry.Reload
import RuleBound.Proofs.Text.Blank

/-!
Well-formed records. Every record of a registry was made by a mint whose request had passed the
checks, and verdicts and reloads change nothing that the checks have seen. What the checks leave
open is how a hash ends: a line feed behind its digits counts as the end of the text.
-/

namespace RuleBound

/-! ## What a record has to be -/

/-- Whether rules are ones that a registry keeps: of a version that is known, with limits that are
not negative, and of version 0 only if nothing but the expiry and the policy on forwarding is set. -/
structure CompactRules.IsFit (r : CompactRules) : Prop where
  version : r.version = .integer 0 ∨ r.version = .integer 1
  expiry : ∃ n, r.expiry = .integer n ∧ 0 ≤ n
  maxUses : ∃ n, r.maxUses = .integer n ∧ 0 ≤ n
  legacy : r.version = .integer 0 →
    r = { expiry := r.expiry, forbidForward := r.forbidForward, version := .integer 0 }

/-- Whether a record says who made what under which rules, for whom and where it is, with a hash
that is written as one should be. -/
structure Record.HasForm (r : Record) (IsHash : String → Prop) : Prop where
  rulesHash : ∃ hash, r.rulesHash = .text hash ∧ IsHash hash
  creator : ∃ s, r.creator = .text s ∧ Text.isBlankText s = false
  pointer : ∃ s, r.pointer = .text s ∧ Text.isBlankText s = false
  kind : ∃ kind, r.kind = .member kind
  policy : ∃ rules members, r.rules = .member rules ∧ r.whitelist = .member members ∧
    rules.IsFit ∧ (members ≠ [] ↔ rules.scope = .member .list)

/-- Whether a record is well formed: its hash, in particular, is 64 digits and nothing else. -/
def Record.IsWellFormed (r : Record) : Prop := r.HasForm Text.IsDigits

/-! ## What the checks of a mint ensure -/

theorem Request.not_blank_of_identity? {d : Document} {s : String}
    (named : Request.identity? d = some s) : Text.isBlankText s = false := by
  cases d with
  | text t =>
    cases eq_of_identity? named
    rw [Request.identity?] at named
    by_contra blank
    rw [if_pos (by simpa using blank)] at named
    cases named
  | _ => cases named

namespace MintRequest

/-- There is a whitelist exactly if the scope is a list. -/
theorem ne_nil_iff_of_checkWhitelist {rules : CompactRules} {whitelist : List Document}
    (listed : checkWhitelist rules whitelist = .ok ()) :
    whitelist ≠ [] ↔ rules.hasScope .list = true := by
  unfold checkWhitelist at listed
  cases scope : rules.hasScope .list with
  | true =>
    rw [scope, if_pos rfl] at listed
    cases whitelist with
    | nil => cases listed
    | cons d rest => simp
  | false =>
    rw [scope, if_neg Bool.false_ne_true] at listed
    cases whitelist with
    | nil => simp
    | cons d rest => cases listed

/-- Legacy rules pass their check only under the digest of a legacy sheet. -/
theorem of_checkLegacy {r : CompactRules} {hash : String} (legacy : r.isLegacy = true)
    (checked : checkLegacy r hash = .ok ()) : r.isLegacyShaped = true ∧ Text.IsDigits hash := by
  unfold checkLegacy at checked
  rw [legacy, Bool.not_true, if_neg Bool.false_ne_true] at checked
  cases shaped : r.isLegacyShaped with
  | false =>
    rw [shaped] at checked
    cases checked
  | true =>
    rw [shaped, Bool.not_true, if_neg Bool.false_ne_true] at checked
    obtain ⟨sheet, -, checked⟩ := bind_eq_ok_iff.mp checked
    obtain ⟨expected, digested, checked⟩ := bind_eq_ok_iff.mp checked
    obtain ⟨same, compared, checked⟩ := bind_eq_ok_iff.mp checked
    obtain ⟨bytes, -, rfl⟩ := map_eq_ok_iff.mp digested
    cases same with
    | false => cases checked
    | true =>
      rw [← Registry.eq_of_sameDigest compared]
      exact ⟨rfl, Sha256.isDigits_ofBytes bytes⟩

end MintRequest

namespace CompactRules

variable {r : CompactRules}

theorem IsTyped.hasScope_iff (typed : r.IsTyped) (scope : AccessScope) :
    r.hasScope scope = true ↔ r.scope = .member scope := by
  obtain ⟨mine, is⟩ := typed.scope
  simp [hasScope, is]

theorem eq_of_isLegacyShaped (typed : r.IsTyped) (shaped : r.isLegacyShaped = true) :
    r = { expiry := r.expiry, forbidForward := r.forbidForward, version := .integer 0 } := by
  have unset : ∀ {d : Document}, (∃ b, d = .bool b) → d.isNumber 0 = true → d = .bool false := by
    rintro _ ⟨b, rfl⟩ zero
    cases b with
    | false => rfl
    | true => cases zero
  have nought : ∀ {d : Document}, (∃ n, d = .integer n) → d.isNumber 0 = true → d = .integer 0 := by
    rintro _ ⟨n, rfl⟩ zero
    rw [Document.isNumber_integer, beq_iff_eq] at zero
    rw [zero]
  simp only [isLegacyShaped, Bool.and_eq_true, limitsUses, Bool.not_not, isLegacy] at shaped
  obtain ⟨⟨⟨⟨⟨⟨copies, exports⟩, anyone⟩, unlimited⟩, locks⟩, identifies⟩, version⟩ := shaped
  have copies := unset typed.forbidCopy copies
  have exports := unset typed.forbidExport exports
  have anyone := (typed.hasScope_iff .any).mp anyone
  have unlimited := nought ⟨_, typed.maxUses⟩ unlimited
  have locks := unset typed.lockOnViolation locks
  have identifies := unset typed.requireIdentity identifies
  have version := nought typed.version version
  cases r
  simp_all

end CompactRules

namespace Minting

/-- Whether something to be minted makes a well-formed record, but perhaps for the end of its
hash. -/
structure IsFit (m : Minting) : Prop where
  rulesHash : Text.IsDigits m.rulesHash ∨ m.rules.version = .integer 1 ∧
    ∃ digits, Text.IsDigits digits ∧ m.rulesHash = digits ++ "\n"
  creator : Text.isBlankText m.creator = false
  pointer : Text.isBlankText m.pointer = false
  rules : m.rules.IsFit
  listed : m.whitelist ≠ [] ↔ m.rules.scope = .member .list

variable {m : Minting}

/-- What has passed the checks of a mint request under typed rules is fit to be minted. -/
theorem IsChecked.isFit (checked : m.IsChecked) (typed : m.rules.IsTyped) : m.IsFit := by
  obtain ⟨request, checked⟩ := checked
  have passes := MintRequest.passes_of_check checked
  obtain ⟨-, known, expiry, maxUses⟩ := MintRequest.eq_of_checkRules passes.rules
  have limit : ∀ {d : Document}, d = .integer d.value → d.isBelow (.integer 0) = .ok false →
      ∃ n, d = .integer n ∧ 0 ≤ n := by
    intro d whole above
    refine ⟨d.value, whole, ?_⟩
    rw [whole, Document.isBelow_integer] at above
    exact not_lt.mp (of_decide_eq_false (Except.ok.inj above))
  have version : m.rules.version = .integer 0 ∨ m.rules.version = .integer 1 := by
    obtain ⟨n, is⟩ := typed.version
    simpa [is] using known
  have old : m.rules.version = .integer 0 →
      m.rules.isLegacyShaped = true ∧ Text.IsDigits m.rulesHash := by
    intro zero
    exact MintRequest.of_checkLegacy (by rw [CompactRules.isLegacy, zero]; rfl) passes.legacy
  refine ⟨?_, ?_, ?_, ⟨version, limit typed.expiry expiry, limit typed.maxUses maxUses, ?_⟩, ?_⟩
  · rcases Text.isDigest_iff.mp passes.digest with digits | longer
    · exact .inl digits
    · exact version.imp (fun zero => (old zero).2) (fun one => ⟨one, longer⟩)
  · exact Request.not_blank_of_identity? (MintRequest.identity?_of_required passes.creator)
  · exact Request.not_blank_of_identity? (MintRequest.identity?_of_required passes.pointer)
  · exact fun zero => CompactRules.eq_of_isLegacyShaped typed (old zero).1
  · rw [MintRequest.ne_nil_iff_of_checkWhitelist passes.listed, typed.hasScope_iff]

/-- What is fit to be minted still is when it is read back. -/
theorem IsFit.reread (fit : m.IsFit) (typed : m.IsTyped) : m.reread.IsFit where
  rulesHash := fit.rulesHash
  creator := (Text.isBlankText_reread m.creator).trans fit.creator
  pointer := (Text.isBlankText_reread m.pointer).trans fit.pointer
  rules := fit.rules
  listed := by
    obtain ⟨texts, -, whitelist⟩ := typed.whitelist
    rw [whitelist_reread whitelist]
    refine Iff.trans (not_congr ?_) fit.listed
    have none : Members.distinct ((Members.sorted texts).map (Text.reread true)) = [] ↔
        texts = [] := by
      simp only [List.eq_nil_iff_forall_not_mem, Members.mem_distinct]
      simp [Members.sorted]
    rw [whitelist, Members.documents, List.map_eq_nil_iff, none, Members.documents,
      List.map_eq_nil_iff]

/-- The record of something that was fit to be minted has the form of one, with the hash that was
handed in. -/
theorem IsFit.hasForm (fit : m.IsFit) {IsHash : String → Prop} (hash : IsHash m.rulesHash)
    (id born : Int) (st : Standing) : (m.recordAt id born st).HasForm IsHash where
  rulesHash := ⟨_, rfl, hash⟩
  creator := ⟨_, rfl, fit.creator⟩
  pointer := ⟨_, rfl, fit.pointer⟩
  kind := ⟨_, rfl⟩
  policy := ⟨_, _, rfl, rfl, fit.rules, fit.listed⟩

theorem eq_of_recordAt {m' : Minting} {id born id' born' : Int} {st st' : Standing}
    (same : m.recordAt id born st = m'.recordAt id' born' st') : m = m' := by
  obtain ⟨_, _, _, _, _, _⟩ := m
  obtain ⟨_, _, _, _, _, _⟩ := m'
  simp only [recordAt, Registry.newRecord, Record.mk.injEq, Document.text.injEq,
    Given.member.injEq] at same
  obtain ⟨-, rfl, rfl, rfl, rfl, rfl, rfl, -⟩ := same
  rfl

end Minting

namespace Registry

/-! ## The records behind some deeds -/

/-- The hash under which a deed has minted an object. -/
def Deed.mintedHash? (d : Deed) : Option String :=
  match d.act with
  | .mint m => some m.rulesHash
  | .verdict _ _ => none

/-- Whether the records of a registry are of things that were fit to be minted, and bear the hashes
under which some deeds have minted them, in order. -/
structure IsStocked (reg : Registry) (ds : List Deed) : Prop where
  fit : ∀ e ∈ reg.records, ∃ m id born st, e.2 = Minting.recordAt m id born st ∧ m.IsFit
  hashes : reg.records.map (fun e => e.2.rulesHash) =
    (ds.filterMap Deed.mintedHash?).map .text

variable {reg reg' : Registry} {es : List Entry} {ds : List Deed} {d : Deed}

theorem map_putRecord {β : Type} {f : Int × Record → β} {records : List (Int × Record)} {id : Int}
    {s : Int × Record} (found : records.find? (fun s => s.1 == id) = some s) {r : Record}
    (same : f (id, r) = f s) : (putRecord records id r).map f = records.map f := by
  induction records with
  | nil => cases found
  | cons t records ih =>
    rw [putRecord]
    by_cases here : t.1 = id
    · rw [List.find?_cons_of_pos (by simpa using here)] at found
      cases found
      rw [if_pos here, List.map_cons, List.map_cons, same]
    · rw [List.find?_cons_of_neg (by simpa using here)] at found
      rw [if_neg here, List.map_cons, List.map_cons, ih found]

theorem mem_of_record? {id : Int} {r : Record} (found : reg.record? id = some r) :
    (id, r) ∈ reg.records := by
  obtain ⟨s, there, rfl⟩ := Option.map_eq_some_iff.mp found
  have named : s.1 = id := by simpa using List.find?_some there
  exact named ▸ List.mem_of_find?_eq_some there

/-- What is minted stands behind what has been, and a verdict changes no hash. -/
theorem IsStocked.happens (stocked : reg.IsStocked ds) (holds : reg.Holds es)
    (happens : Happens reg d reg') (typed : d.IsTyped) : reg'.IsStocked (ds ++ [d]) := by
  cases happens with
  | @mint now m checked stamp =>
    have rules := typed.rules m rfl
    have numbered : reg.IsNumbered := by
      rw [IsNumbered, holds.records]
      exact List.forall_mem_map.mpr holds.given
    constructor
    · rw [emit_records]
      intro e mem
      rcases mem_putRecord mem with rfl | known
      · exact ⟨m, reg.nextId, now, .initial m.rules, m.newRecord_eq rules.toIsPlain ..,
          checked.isFit rules⟩
      · exact stocked.fit e known
    · rw [emit_records, List.filterMap_append]
      change (putRecord reg.records reg.nextId (newRecord reg.nextId now m)).map _ = _
      rw [putRecord_of_not_mem _ numbered.nextId_not_mem, List.map_append, stocked.hashes,
        List.map_append]
      rfl
  | @verdict id now req refusal r r' found breaks after correlation stamp =>
    obtain ⟨s, there, rfl⟩ := Option.map_eq_some_iff.mp found
    obtain ⟨m, key, born, st, record, fit⟩ := stocked.fit s (List.mem_of_find?_eq_some there)
    rw [record, Minting.after_recordAt] at after
    cases after
    constructor
    · rw [emit_records]
      intro e mem
      rcases mem_putRecord mem with rfl | known
      · exact ⟨m, key, born, _, rfl, fit⟩
      · exact stocked.fit e known
    · rw [emit_records, List.filterMap_append]
      change (putRecord reg.records id _).map _ = _
      rw [map_putRecord there (by rw [record]; rfl), stocked.hashes]
      simp [Deed.mintedHash?]

theorem IsStocked.reread (stocked : reg.IsStocked ds) (holds : reg.Holds es) :
    (reg.reread es).IsStocked ds := by
  constructor
  · intro e mem
    obtain ⟨f, within, rfl⟩ := List.mem_map.mp mem
    have stands : (f.id, f.record) ∈ reg.records := by
      rw [holds.records]
      exact List.mem_map_of_mem within
    obtain ⟨m, id, born, st, record, fit⟩ := stocked.fit _ stands
    have mine : f.minting = m := Minting.eq_of_recordAt record
    exact ⟨_, _, _, _, rfl, (mine ▸ fit : f.minting.IsFit).reread (holds.typed f within)⟩
  · rw [← stocked.hashes, holds.records, Registry.reread, List.map_map, List.map_map]
    rfl

/-- After typed moves from the start, the records are those of what has been minted. -/
theorem isStocked_moves {ms : List Move} (typed : ∀ mv ∈ ms, mv.IsTyped) :
    (State.moves {} ms).registry.IsStocked (State.moveDeeds {} ms) := by
  have start : ({} : State).registry.IsStocked [] := ⟨List.forall_mem_nil _, rfl⟩
  have all := (State.moves_induction IsStocked IsStocked.happens IsStocked.reread holds_empty []
    start typed).1
  rwa [List.nil_append] at all

/-- After any calls with typed rules, and any reloads in between, every record is well formed, or it
would be but for a line feed behind its hash; that record's rules are of version 1. All are well
formed exactly if no object was minted under such a hash. -/
theorem records_wellFormed_iff {ms : List Move} (typed : ∀ mv ∈ ms, mv.IsTyped) :
    (∀ e ∈ (State.moves {} ms).registry.records, e.2.IsWellFormed ∨
      e.2.HasForm (fun hash => ∃ digits, Text.IsDigits digits ∧ hash = digits ++ "\n") ∧
        ∃ rules, e.2.rules = .member rules ∧ rules.version = .integer 1) ∧
    ((∀ e ∈ (State.moves {} ms).registry.records, e.2.IsWellFormed) ↔
      ∀ d ∈ State.moveDeeds {} ms, ∀ m, d.act = .mint m → '\n' ∉ m.rulesHash.toList) := by
  have stocked := isStocked_moves typed
  have each : ∀ e ∈ (State.moves {} ms).registry.records, e.2.IsWellFormed ∨
      e.2.HasForm (fun hash => ∃ digits, Text.IsDigits digits ∧ hash = digits ++ "\n") ∧
        ∃ rules, e.2.rules = .member rules ∧ rules.version = .integer 1 := by
    intro e mem
    obtain ⟨m, id, born, st, record, fit⟩ := stocked.fit e mem
    rw [record]
    rcases fit.rulesHash with digits | ⟨one, longer⟩
    · exact .inl (fit.hasForm digits ..)
    · exact .inr ⟨fit.hasForm longer .., m.rules, rfl, one⟩
  have borne : ∀ hash, (∃ e ∈ (State.moves {} ms).registry.records, e.2.rulesHash = .text hash) ↔
      ∃ d ∈ State.moveDeeds {} ms, ∃ m, d.act = .mint m ∧ m.rulesHash = hash := by
    intro hash
    have hashes := congrArg (fun ds => Document.text hash ∈ ds) stocked.hashes
    simp only [List.mem_map, Document.text.injEq, exists_eq_right, List.mem_filterMap] at hashes
    rw [hashes]
    refine exists_congr fun d => and_congr_right fun _ => ?_
    cases act : d.act with
    | mint m => simp [Deed.mintedHash?, act]
    | verdict req refusal => simp [Deed.mintedHash?, act]
  refine ⟨each, fun all d mem m act newline => ?_, fun clean e mem => ?_⟩
  · obtain ⟨e, stands, hash⟩ := (borne m.rulesHash).mpr ⟨d, mem, m, act, rfl⟩
    obtain ⟨hash', is, digits⟩ := (all e stands).rulesHash
    cases hash.symm.trans is
    exact digits.not_mem_newline newline
  · rcases each e mem with fine | ⟨form, -⟩
    · exact fine
    · obtain ⟨hash, is, digits, -, rfl⟩ := form.rulesHash
      obtain ⟨d, done, m, act, same⟩ := (borne _).mp ⟨e, mem, is⟩
      exact absurd (by simp [same]) (clean d done m act)

/-- An object that is minted under a hash of digits has a well-formed record. -/
theorem isWellFormed_onceRequest :
    let mint : Move := .call ⟨⟨0, "", .null, .numbered⟩, .create (onceRequest "alice")⟩
    mint.IsTyped ∧ ∃ r, (State.moves {} [mint]).registry.record? 1 = some r ∧ r.IsWellFormed := by
  intro mint
  have typed : mint.IsTyped :=
    Step.isTyped_onceRequest (by simp [Document.HasDistinctNames]) "alice"
  have moved : State.moves {} [mint] = (State.step {} ⟨⟨0, "", .null, .numbered⟩,
    .create (onceRequest "alice")⟩).1 := rfl
  have found := record?_onceRequest ⟨0, "", .null, .numbered⟩ (.inl rfl)
  rw [← moved] at found
  have stands := mem_of_record? found
  refine ⟨typed, _, found, ?_⟩
  refine (records_wellFormed_iff (List.forall_mem_singleton.mpr typed)).2.mpr ?_ _ stands
  intro d mem m act
  rw [State.moveDeeds, State.moveDeeds, List.append_nil, Option.mem_toList] at mem
  cases (State.deed?_create {} _ (check_onceRequest (.inl rfl))).symm.trans mem
  cases act
  decide

/-- A mint request whose hash ends in a line feed. -/
def longRequest : MintRequest :=
  { onceRequest "alice" with rulesHash := .text (String.ofList (List.replicate 64 'a') ++ "\n") }

/-- An object that is minted under a hash with a line feed behind its digits has a record that is
not well formed. -/
theorem not_isWellFormed_longRequest :
    let mint : Move := .call ⟨⟨0, "", .null, .numbered⟩, .create longRequest⟩
    mint.IsTyped ∧ ∃ r, (State.moves {} [mint]).registry.record? 1 = some r ∧
      (1, r) ∈ (State.moves {} [mint]).registry.records ∧ ¬ r.IsWellFormed := by
  intro mint
  have typed : mint.IsTyped := by
    refine ⟨fun m rules is ruled => ?_, by simp [Document.HasDistinctNames]⟩
    cases is
    exact (Step.isTyped_onceRequest (s := ⟨0, "", .null, .numbered⟩)
      (by simp [Document.HasDistinctNames]) "alice").rules _ _ rfl ruled
  have checked : longRequest.check = .ok { onceMinting "alice" with
      rulesHash := String.ofList (List.replicate 64 'a') ++ "\n" } := by decide +kernel
  have moved : State.moves {} [mint] = (State.step {} ⟨⟨0, "", .null, .numbered⟩,
    .create longRequest⟩).1 := rfl
  have found := State.record?_of_create {} ⟨0, "", .null, .numbered⟩ checked
  rw [← moved] at found
  have stands := mem_of_record? found
  refine ⟨typed, _, found, stands, fun formed => ?_⟩
  obtain ⟨hash, is, digits⟩ := formed.rulesHash
  cases is
  exact digits.not_mem_newline (by decide)

end Registry

end RuleBound
