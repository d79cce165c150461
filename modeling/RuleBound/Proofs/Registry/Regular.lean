import RuleBound.Proofs.Guard
import RuleBound.Proofs.Registry.Recheck
import RuleBound.Proofs.Registry.WellFormed

/-!
Regular registries. Whatever a snapshot says, the records that are read from it are ones of objects
that could have been minted under typed rules; only their whitelists need not have an order. A registry
whose records have one as well is regular. It decides and mints for foreseen reasons only, stays
regular, and can be written.

A verdict needs less: an expiry and counts that are numbers. All records have them, whatever has been
called, for the checks of a mint compare the limits of its rules with zero.
-/

namespace RuleBound

/-! ## Faults -/

namespace Fault

variable {f : Fault}

/-- The faults that are to abort a call on the registry. -/
inductive IsHard : Fault → Prop
  | malformed (field message : String) : IsHard (.malformed field message)
  | notFound (id : Document) : IsHard (.notFound id)

/-- Whether a fault is one of these, or takes the place of one whose message would show a number in
a document that is too long to be written. -/
def IsHardShowing (d : Document) (f : Fault) : Prop :=
  f.IsHard ∨ f = .numeralTooLong none ∧ d.hasLongNumeral = true

theorem IsHard.isForeseen (hard : f.IsHard) : f.isForeseen = true := by
  cases hard <;> rfl

theorem IsHardShowing.isForeseen {d : Document} (hard : f.IsHardShowing d) : f.isForeseen = true := by
  rcases hard with hard | ⟨rfl, -⟩
  · exact hard.isForeseen
  · rfl

theorem failsBy_isHardShowing {α : Type} (d : Document) (hard : f.IsHard) :
    FailsBy (IsHardShowing d) (.error (d.faultShowing f) : Except Fault α) :=
  failsBy_faultShowing (.inl hard) fun long => .inr ⟨rfl, long⟩

end Fault

/-! ## Records that verdicts can be passed on -/

theorem AccessScope.ofNumber_number (scope : AccessScope) :
    ofNumber (.integer scope.number) = .ok scope := by
  cases scope <;> rfl

/-- Rules have one scope at most, whether it is a member or a number. -/
theorem CompactRules.eq_of_hasScope {rules : CompactRules} {a b : AccessScope}
    (has : rules.hasScope a = true) (has' : rules.hasScope b = true) : a = b := by
  unfold hasScope at has has'
  generalize rules.scope = scope at has has'
  cases scope with
  | member t => exact (eq_of_beq has).symm.trans (eq_of_beq has')
  | other d =>
    have number : (a.number : Int) = b.number := Document.eq_of_isNumber has has'
    have named := AccessScope.ofNumber_number a
    rw [number, AccessScope.ofNumber_number b] at named
    exact (Except.ok.inj named).symm

theorem CompactRules.exists_hasExpired {rules : CompactRules}
    (number : rules.expiry.numeric?.isSome = true) (now : Int) :
    ∃ b, rules.hasExpired (.integer now) = .ok b := by
  unfold hasExpired
  split_ifs
  · exact ⟨false, rfl⟩
  · exact Document.exists_isAtMost number now

namespace Record

/-- Whether a record holds what verdicts need: rules with a number for an expiry, a set for a
whitelist, and numbers for counts. -/
structure IsRuled (r : Record) : Prop where
  rules : ∃ rules, r.rules = .member rules ∧ rules.expiry.numeric?.isSome = true
  whitelist : ∃ listed, r.whitelist = .member listed
  violations : r.violations.numeric?.isSome = true
  uses : r.usesRemaining.numeric?.isSome = true

variable {r : Record}

theorem IsRuled.exists_outOfScope? (ruled : r.IsRuled) (rules : CompactRules) (actor : String) :
    ∃ why, r.outOfScope? rules actor = .ok why := by
  obtain ⟨listed, is⟩ := ruled.whitelist
  unfold outOfScope? lists
  rw [is]
  split_ifs <;> exact ⟨_, rfl⟩

theorem IsRuled.exists_refusalInScope? (ruled : r.IsRuled) {rules : CompactRules}
    (number : rules.expiry.numeric?.isSome = true) (now : Int) (action : Action) :
    ∃ why, r.refusalInScope? rules now action = .ok why := by
  obtain ⟨expired, past⟩ := CompactRules.exists_hasExpired number now
  obtain ⟨spent, used⟩ := Document.exists_isAtMost ruled.uses 0
  unfold refusalInScope?
  rw [past, ok_bind, used]
  split_ifs <;> exact ⟨_, rfl⟩

/-- A verdict is passed on every request. -/
theorem IsRuled.exists_refusal? (ruled : r.IsRuled) (now : Int) (action : Action) (actor : String) :
    ∃ refusal, r.refusal? now action actor = .ok refusal := by
  obtain ⟨rules, is, number⟩ := ruled.rules
  have given : r.compactRules = .ok rules := by rw [compactRules, is]
  obtain ⟨out, scope⟩ := ruled.exists_outOfScope? rules actor
  unfold refusal?
  rw [given, ok_bind, scope, ok_bind]
  split_ifs
  · exact ⟨_, rfl⟩
  · cases out with
    | some why => exact ⟨_, rfl⟩
    | none => exact ruled.exists_refusalInScope? number now action

/-- And it leaves a record that verdicts can be passed on. -/
theorem IsRuled.exists_after (ruled : r.IsRuled) (refusal : Option Refusal) :
    ∃ r', r.after refusal = .ok r' ∧ r'.IsRuled := by
  obtain ⟨rules, is, number⟩ := ruled.rules
  cases refusal with
  | none =>
    have given : r.compactRules = .ok rules := by rw [compactRules, is]
    obtain ⟨uses, counted, number'⟩ :=
      Document.exists_calculate_one (· - ·) Binary64.sub ruled.uses
    have counted : r.usesRemaining.minus (.integer 1) = .ok uses := counted
    unfold after
    rw [given, ok_bind, counted]
    split_ifs
    · exact ⟨_, rfl, ⟨rules, is, number⟩, ruled.whitelist, ruled.violations, number'⟩
    · exact ⟨r, rfl, ruled⟩
  | some why =>
    cases why with
    | forbidden action legacy locks =>
      obtain ⟨violations, counted, number'⟩ :=
        Document.exists_calculate_one (· + ·) Binary64.add ruled.violations
      have counted : r.violations.plus (.integer 1) = .ok violations := counted
      unfold after
      rw [counted]
      exact ⟨_, rfl, ⟨rules, is, number⟩, ruled.whitelist, number', ruled.uses⟩
    | _ => exact ⟨r, rfl, ruled⟩

end Record

theorem Minting.IsChecked.isRuled_newRecord {m : Minting} (checked : m.IsChecked) (id now : Int) :
    (Registry.newRecord id now m).IsRuled := by
  obtain ⟨request, checked⟩ := checked
  obtain ⟨-, -, expiry, uses⟩ :=
    MintRequest.eq_of_checkRules (MintRequest.passes_of_check checked).rules
  exact ⟨⟨m.rules, rfl, Document.isSome_numeric?_of_isBelow expiry⟩, ⟨m.whitelist, rfl⟩, rfl,
    Document.isSome_numeric?_of_isBelow uses⟩

/-! ## Records that could have been minted -/

namespace Record

/-- Whether a record is one of something that could have been minted under typed rules. -/
def IsMade (r : Record) : Prop := ∃ m id born st, r = Minting.recordAt m id born st ∧ m.rules.IsTyped

/-- Whether a record is one of something that could have been minted under typed rules, with a
whitelist that has an order. -/
structure IsRegular (r : Record) : Prop where
  made : r.IsMade
  ordered : ∃ members, r.sortedWhitelist = .ok members

variable {r : Record}

theorem IsMade.exists_pointer (made : r.IsMade) : ∃ pointer, r.pointer = .text pointer := by
  obtain ⟨m, id, born, st, rfl, -⟩ := made
  exact ⟨_, rfl⟩

theorem IsMade.exists_id (made : r.IsMade) : ∃ id, r.id = .integer id := by
  obtain ⟨m, id, born, st, rfl, -⟩ := made
  exact ⟨_, rfl⟩

theorem IsMade.isRuled (made : r.IsMade) : r.IsRuled := by
  obtain ⟨m, id, born, st, rfl, typed⟩ := made
  refine ⟨⟨m.rules, rfl, ?_⟩, ⟨m.whitelist, rfl⟩, rfl, rfl⟩
  rw [typed.expiry]
  rfl

theorem IsMade.exists_refusal? (made : r.IsMade) (now : Int) (action : Action) (actor : String) :
    ∃ refusal, r.refusal? now action actor = .ok refusal :=
  made.isRuled.exists_refusal? now action actor

/-- A verdict leaves a regular record regular. -/
theorem IsRegular.exists_after (regular : r.IsRegular) (refusal : Option Refusal) :
    ∃ r', r.after refusal = .ok r' ∧ r'.IsRegular := by
  obtain ⟨⟨m, id, born, st, rfl, typed⟩, ordered⟩ := regular
  exact ⟨_, Minting.after_recordAt id born st refusal, ⟨m, id, born, _, rfl, typed⟩, ordered⟩

theorem IsRegular.exists_toDocument (regular : r.IsRegular) :
    ∃ fields, r.toDocument = .ok (.object fields) := by
  obtain ⟨⟨m, id, born, st, rfl, typed⟩, members, ordered⟩ := regular
  obtain ⟨rules, written, -⟩ := typed.exists_document
  have kind : (m.recordAt id born st).kind.nameOf ObjectKind.name = .ok m.kind.name := rfl
  have ruled : (m.recordAt id born st).compactRules = .ok m.rules := rfl
  rw [toDocument, kind, ok_bind, ruled, ok_bind, written, ok_bind, ordered]
  exact ⟨_, rfl⟩

theorem IsMade.exists_status (made : r.IsMade) (now : Int) :
    ∃ status, r.status (.integer now) = .ok status := by
  obtain ⟨m, id, born, st, rfl, typed⟩ := made
  have rules : (m.recordAt id born st).compactRules = .ok m.rules := rfl
  unfold status
  rw [rules, ok_bind, typed.toIsPlain.hasExpired_eq]
  split
  · exact ⟨_, rfl⟩
  · rw [ok_bind]
    split <;> exact ⟨_, rfl⟩

end Record

/-- The record of a new object is regular. -/
theorem Minting.isRegular_newRecord {m : Minting} (typed : m.IsTyped) (id now : Int) :
    (Registry.newRecord id now m).IsRegular := by
  obtain ⟨texts, -, listed⟩ := typed.whitelist
  refine ⟨⟨m, id, now, _, newRecord_eq typed.rules.toIsPlain id now, typed.rules⟩, ?_⟩
  change ∃ members, sortedMembers m.whitelist = .ok members
  rw [listed]
  exact ⟨_, Members.sortedMembers_documents texts⟩

/-! ## Mint requests -/

namespace MintRequest

/-- Whether a mint request hands in a kind, typed rules of the current version, and a whitelist that
could be one. -/
structure IsPresentable (m : MintRequest) : Prop where
  kind : ∃ kind, m.kind = .member kind
  rules : ∃ rules, m.rules = .member rules ∧ rules.IsTyped ∧ rules.isLegacy = false
  whitelist : Guarded (members m.whitelist)

theorem failsBy_required (field message : String) (d : Document) :
    FailsBy Fault.IsHard (required field message d) := by
  unfold required
  split
  · exact failsBy_ok _
  · exact failsBy_error (.malformed ..)

theorem failsBy_checkRules {r : CompactRules} (plain : r.IsPlain) :
    FailsBy (Fault.IsHardShowing r.version) (checkRules (.member r)) := by
  have expiry := plain.expiry
  have maxUses := plain.maxUses
  generalize r.expiry.value = moment at expiry
  generalize r.maxUses.value = uses at maxUses
  unfold checkRules
  dsimp only
  rw [expiry, maxUses, Document.isBelow_integer, Document.isBelow_integer, ok_bind, ok_bind]
  split
  · exact Fault.failsBy_isHardShowing _ (.malformed ..)
  · split
    · exact failsBy_error (.inl (.malformed ..))
    · split
      · exact failsBy_error (.inl (.malformed ..))
      · exact failsBy_ok _

theorem failsBy_checkWhitelist (rules : CompactRules) (whitelist : List Document) :
    FailsBy Fault.IsHard (checkWhitelist rules whitelist) := by
  unfold checkWhitelist
  split_ifs
  all_goals first | exact failsBy_ok _ | exact failsBy_error (.malformed ..)

/-- A presentable request is turned down for foreseen reasons only. -/
theorem IsPresentable.guarded_check {m : MintRequest} (fine : m.IsPresentable) :
    Guarded m.check := by
  obtain ⟨⟨kind, named⟩, ⟨rules, ruled, typed, current⟩, whitelist⟩ := fine
  unfold check
  have given {field message : String} (d : Document) : Guarded (required field message d) :=
    (failsBy_required field message d).mono fun _ => Fault.IsHard.isForeseen
  refine whitelist.bind fun listed _ => (given _).bind fun creator _ => ?_
  extract_lets rest
  have hashed : ∀ rulesHash, Guarded (rest rulesHash) := by
    intro rulesHash
    simp only [rest]
    rw [named, ruled]
    have ruling := (failsBy_checkRules typed.toIsPlain).mono fun _ => Fault.IsHardShowing.isForeseen
    refine FailsBy.bind (failsBy_ok kind) fun kind _ => ruling.bind fun rules' checked =>
      (given _).bind fun pointer _ => FailsBy.bind ?_ fun _ _ => ?_
    · exact (failsBy_checkWhitelist ..).mono fun _ => Fault.IsHard.isForeseen
    cases (eq_of_checkRules checked).1
    refine FailsBy.bind ?_ fun _ _ => failsBy_ok _
    unfold checkLegacy
    rw [current]
    exact failsBy_ok _
  split
  · split
    · exact hashed _
    · exact failsBy_error rfl
  · exact failsBy_error rfl

end MintRequest

/-! ## Registries -/

namespace Registry

/-- Whether all records of a registry are regular. -/
def IsRegular (reg : Registry) : Prop := ∀ e ∈ reg.records, e.2.IsRegular

variable {reg : Registry}

theorem isRegular_empty : IsRegular {} := List.forall_mem_nil _

theorem IsRegular.of_find (regular : reg.IsRegular) {id : Document} {found : Int × Record}
    (finds : reg.find id = .ok found) : found.2.IsRegular := by
  unfold find at finds
  split at finds
  · split at finds
    · next there =>
      cases finds
      exact regular _ (mem_of_record? there)
    · cases finds
  · cases finds

theorem failsBy_find (reg : Registry) (id : Document) :
    FailsBy (Fault.IsHardShowing id) (reg.find id) := by
  unfold find
  split
  · split
    · exact failsBy_ok _
    · exact Fault.failsBy_isHardShowing _ (.notFound _)
  · exact Fault.failsBy_isHardShowing _ (.malformed ..)

theorem guarded_find (reg : Registry) (id : Document) : Guarded (reg.find id) :=
  (reg.failsBy_find id).mono fun _ => Fault.IsHardShowing.isForeseen

theorem IsRegular.put (regular : reg.IsRegular) {r : Record} (fine : r.IsRegular) (id : Int) :
    ∀ e ∈ putRecord reg.records id r, e.2.IsRegular := by
  intro e mem
  rcases mem_putRecord mem with rfl | known
  · exact fine
  · exact regular e known

theorem guarded_emit (reg : Registry) (id : Int) (event : Event) :
    Guarded (reg.emit (.integer id) event).2 := by
  have digested := event.toDocument.guarded_canonicalDigest
  unfold emit streamOf Document.spelled
  split
  · next f failed =>
    split at failed
    · cases failed
      exact failsBy_error rfl
    · cases failed
  · next stream _ =>
    dsimp only
    unfold EventLog.append Event.digest
    rw [if_neg (by simp [Document.isScalar])]
    dsimp only
    cases digest : event.toDocument.canonicalDigest with
    | error f => exact failsBy_error (digested.reason f digest)
    | ok reference => exact failsBy_ok _

/-- What is asked of a regular registry leaves a regular one, and fails for foreseen reasons only. -/
theorem IsRegular.create (regular : reg.IsRegular) (s : Surroundings) (d : Draws) {m : MintRequest}
    (fine : m.IsPresentable) :
    (reg.create s d m).2.1.IsRegular ∧ Guarded (reg.create s d m).2.2 := by
  have checks := fine.guarded_check
  unfold Registry.create
  cases checked : m.check with
  | error f => exact ⟨regular, failsBy_error (checks.reason f checked)⟩
  | ok minting =>
    obtain ⟨rules, ruled, typed, -⟩ := fine.rules
    have passes := MintRequest.passes_of_check checked
    have same := (MintRequest.eq_of_checkRules passes.rules).1
    rw [ruled] at same
    cases same
    have made : minting.IsTyped := Minting.IsChecked.isTyped ⟨m, checked⟩ typed
    constructor
    · change (reg.mint s.now (s.stamp d) minting).1.IsRegular
      rw [mint_fst, IsRegular, emit_records]
      exact regular.put (minting.isRegular_newRecord made reg.nextId s.now) reg.nextId
    · change Guarded (reg.mint s.now (s.stamp d) minting).2
      rw [mint_snd]
      exact (guarded_emit _ _ _).map _

theorem failsBy_actionOfDocument (d : Document) :
    FailsBy (Fault.IsHardShowing d) (Action.ofDocument d) := by
  unfold Action.ofDocument
  split
  · split
    · exact failsBy_ok _
    · exact failsBy_error (.inl (.malformed ..))
  · split
    · exact failsBy_ok _
    · exact Fault.failsBy_isHardShowing _ (.malformed ..)
  · exact Fault.failsBy_isHardShowing _ (.malformed ..)

theorem guarded_actionOfDocument (d : Document) : Guarded (Action.ofDocument d) :=
  (failsBy_actionOfDocument d).mono fun _ => Fault.IsHardShowing.isForeseen

theorem failsBy_requestCheck (action : Document) (context : Given Bytes) (actor : Document) :
    FailsBy (Fault.IsHardShowing action) (Request.check action context actor) := by
  refine (failsBy_actionOfDocument action).bind fun action _ => ?_
  cases context with
  | other d => exact failsBy_error (.inl (.malformed ..))
  | member context =>
    dsimp only
    split
    · exact failsBy_error (.inl (.malformed ..))
    · exact failsBy_ok _

theorem IsRegular.request (regular : reg.IsRegular) (s : Surroundings) (d : Draws)
    (id action : Document) (context : Given Bytes) (actor : Document) :
    (reg.request s d id action context actor).2.1.IsRegular ∧
      Guarded (reg.request s d id action context actor).2.2 := by
  have checks := (failsBy_requestCheck action context actor).mono
    fun _ => Fault.IsHardShowing.isForeseen
  unfold Registry.request
  cases checked : Request.check action context actor with
  | error f => exact ⟨regular, failsBy_error (checks.reason f checked)⟩
  | ok req =>
    unfold requestChecked verdict
    have finds := reg.guarded_find id
    cases found : reg.find id with
    | error f => exact ⟨regular, failsBy_error (finds.reason f found)⟩
    | ok entry =>
      obtain ⟨key, r⟩ := entry
      have fine : r.IsRegular := regular.of_find found
      obtain ⟨refusal, breaks⟩ := fine.made.exists_refusal? s.now req.action req.actor
      obtain ⟨r', after, fine'⟩ := fine.exists_after refusal
      obtain ⟨own, is⟩ := fine'.made.exists_id
      simp only [ok_bind, breaks, after]
      dsimp only [pure, Except.pure]
      constructor
      · rw [conclude_fst, IsRegular, emit_records]
        exact regular.put fine' key
      · rw [conclude_snd, is]
        exact (guarded_emit _ _ _).map _

/-- A regular registry can be written. -/
theorem IsRegular.exists_snapshot (regular : reg.IsRegular) : ∃ d, reg.snapshot = .ok d := by
  have numbered : ∀ r ∈ reg.records.map Prod.snd, r.IsRegular := List.forall_mem_map.mpr regular
  have sorted : ∃ records, reg.sortedRecords = .ok records ∧ ∀ r ∈ records, r.IsRegular := by
    unfold sortedRecords
    extract_lets records first
    have ids : ∀ r ∈ records, ∃ id, r.id = .integer id :=
      fun r mem => (numbered r mem).made.exists_id
    refine ⟨_, if_pos ?_, fun r mem => numbered r ((List.mergeSort_perm records _).mem_iff.mp mem)⟩
    rw [Bool.or_eq_true, List.all_eq_true]
    cases all : records with
    | nil => exact .inl rfl
    | cons r rest =>
      rw [all] at ids
      obtain ⟨id, is⟩ := ids r List.mem_cons_self
      have head : first = .integer id := by
        simp only [first, all, List.map_cons, List.headD_cons, is]
      refine .inr fun r' mem => ?_
      obtain ⟨id', is'⟩ := ids r' mem
      rw [head, is']
      rfl
  obtain ⟨records, sorts, fine⟩ := sorted
  have written : ∃ ds, records.mapM Record.toDocument = .ok ds := by
    clear sorts
    induction records with
    | nil => exact ⟨[], rfl⟩
    | cons r rest ih =>
      rw [List.forall_mem_cons] at fine
      obtain ⟨fields, is⟩ := fine.1.exists_toDocument
      obtain ⟨ds, are⟩ := ih fine.2
      exact ⟨_, by rw [List.mapM_cons, is, are]; rfl⟩
  obtain ⟨ds, are⟩ := written
  exact ⟨_, by rw [snapshot, sorts, ok_bind, are]; rfl⟩

/-! ## Registries that verdicts can be passed on -/

/-- Whether verdicts can be passed on all records of a registry. -/
def IsRuled (reg : Registry) : Prop := ∀ e ∈ reg.records, e.2.IsRuled

theorem IsRuled.happens {reg' : Registry} {d : Deed} (ruled : reg.IsRuled)
    (happens : Happens reg d reg') : reg'.IsRuled := by
  cases happens with
  | @mint now m checked stamp =>
    rw [IsRuled, emit_records]
    intro e mem
    rcases mem_putRecord mem with rfl | known
    · exact checked.isRuled_newRecord _ _
    · exact ruled e known
  | @verdict id now req refusal r r' found breaks after correlation stamp =>
    rw [IsRuled, emit_records]
    intro e mem
    rcases mem_putRecord mem with rfl | known
    · obtain ⟨s, left, fine⟩ := (ruled _ (mem_of_record? found)).exists_after refusal
      cases after.symm.trans left
      exact fine
    · exact ruled e known

theorem IsRuled.run {st : State} (ruled : st.registry.IsRuled) (xs : List Step) :
    (st.run xs).registry.IsRuled :=
  State.run_induction (fun reg _ => reg.IsRuled) (fun before happens => before.happens happens) []
    ruled xs

/-! ## What a snapshot is read as -/

/-- Rules that are read from a document are typed. -/
theorem isTyped_of_rulesDocument {d : Document} {r : CompactRules}
    (read : CompactRules.ofDocument d = .ok r) : r.IsTyped := by
  unfold CompactRules.ofDocument at read
  obtain ⟨_, -, read⟩ := bind_eq_ok_iff.mp read
  obtain ⟨scope, -, read⟩ := bind_eq_ok_iff.mp read
  extract_lets flag whole at read
  have flags : ∀ {name d}, flag name = .ok d → ∃ b, d = .bool b := by
    intro name d flagged
    obtain ⟨v, -, made⟩ := bind_eq_ok_iff.mp flagged
    exact ⟨_, (Except.ok.inj made).symm⟩
  have wholes : ∀ {name n d}, whole name n = .ok d → d = .integer d.value := by
    intro name n d counted
    obtain ⟨v, -, made⟩ := bind_eq_ok_iff.mp counted
    obtain ⟨k, -, made⟩ := bind_eq_ok_iff.mp made
    cases made
    rfl
  obtain ⟨copy, isCopy, read⟩ := bind_eq_ok_iff.mp read
  obtain ⟨forward, isForward, read⟩ := bind_eq_ok_iff.mp read
  obtain ⟨exported, isExport, read⟩ := bind_eq_ok_iff.mp read
  obtain ⟨expiry, isExpiry, read⟩ := bind_eq_ok_iff.mp read
  obtain ⟨maxUses, isMaxUses, read⟩ := bind_eq_ok_iff.mp read
  obtain ⟨lock, isLock, read⟩ := bind_eq_ok_iff.mp read
  obtain ⟨identity, isIdentity, read⟩ := bind_eq_ok_iff.mp read
  obtain ⟨version, isVersion, read⟩ := bind_eq_ok_iff.mp read
  cases read
  exact ⟨⟨wholes isExpiry, wholes isMaxUses⟩, ⟨scope, rfl⟩, flags isCopy, flags isForward,
    flags isExport, flags isLock, flags isIdentity, ⟨_, wholes isVersion⟩⟩

/-- What a record is read from. -/
theorem exists_of_recordDocument {d : Document} {id : Int} {r : Record}
    (read : Record.ofDocument d = .ok (id, r)) : ∃ creator kind hash given rules listed items whitelist
      pointer born locked violations uses, d.require "rules_hash" = .ok hash ∧
      d.require "rules" = .ok given ∧ CompactRules.ofDocument given = .ok rules ∧
      d.lookup "whitelist" (.list []) = .ok listed ∧ listed.toItems = .ok items ∧
      distinctMembers items = .ok whitelist ∧
      r = Minting.recordAt ⟨creator, kind, hash.shown, rules, pointer, whitelist⟩ id born
        ⟨locked, violations, uses⟩ := by
  unfold Record.ofDocument at read
  obtain ⟨_, -, read⟩ := bind_eq_ok_iff.mp read
  obtain ⟨n, -, read⟩ := bind_eq_ok_iff.mp read
  obtain ⟨creator, -, read⟩ := bind_eq_ok_iff.mp read
  obtain ⟨_, -, read⟩ := bind_eq_ok_iff.mp read
  obtain ⟨kind, -, read⟩ := bind_eq_ok_iff.mp read
  obtain ⟨hash, hashed, read⟩ := bind_eq_ok_iff.mp read
  obtain ⟨given, gave, read⟩ := bind_eq_ok_iff.mp read
  obtain ⟨rules, ruled, read⟩ := bind_eq_ok_iff.mp read
  obtain ⟨listed, found, read⟩ := bind_eq_ok_iff.mp read
  obtain ⟨items, split, read⟩ := bind_eq_ok_iff.mp read
  obtain ⟨whitelist, distinct, read⟩ := bind_eq_ok_iff.mp read
  obtain ⟨pointer, -, read⟩ := bind_eq_ok_iff.mp read
  obtain ⟨_, -, read⟩ := bind_eq_ok_iff.mp read
  obtain ⟨born, -, read⟩ := bind_eq_ok_iff.mp read
  obtain ⟨locked, -, read⟩ := bind_eq_ok_iff.mp read
  obtain ⟨_, -, read⟩ := bind_eq_ok_iff.mp read
  obtain ⟨violations, -, read⟩ := bind_eq_ok_iff.mp read
  obtain ⟨_, -, read⟩ := bind_eq_ok_iff.mp read
  obtain ⟨uses, -, read⟩ := bind_eq_ok_iff.mp read
  cases read
  exact ⟨creator.shown, kind, hash, given, rules, listed, items, whitelist, pointer.shown, born,
    locked.isTrue, violations, uses, hashed, gave, ruled, found, split, distinct, rfl⟩

/-- A record that is read from a document is one of something that could have been minted. -/
theorem isMade_of_recordDocument {d : Document} {id : Int} {r : Record}
    (read : Record.ofDocument d = .ok (id, r)) : r.IsMade := by
  obtain ⟨_, _, _, _, _, _, _, _, _, _, _, _, _, -, -, ruled, -, -, -, is⟩ :=
    exists_of_recordDocument read
  exact ⟨_, _, _, _, is, isTyped_of_rulesDocument ruled⟩

/-- What holds of the entries that are put, and held of those that were there, holds of all. -/
theorem forall_mem_putAll {P : Int × Record → Prop} {news known : List (Int × Record)}
    (new : ∀ e ∈ news, P e) (old : ∀ e ∈ known, P e) :
    ∀ e ∈ news.foldl (fun known e => putRecord known e.1 e.2) known, P e := by
  induction news generalizing known with
  | nil => exact old
  | cons e news ih =>
    rw [List.forall_mem_cons] at new
    refine ih new.2 fun e' mem => ?_
    rcases mem_putRecord mem with rfl | before
    · exact new.1
    · exact old e' before

/-- The records of a snapshot are read from its documents, one by one. -/
theorem exists_of_ofParts {d : Document} {log : EventLog} (read : ofParts d log = .ok reg) :
    reg.log = log ∧ ∃ listed items, d.lookup "records" (.list []) = .ok listed ∧
      listed.toItems = .ok items ∧
      ∀ e ∈ reg.records, ∃ item ∈ items, Record.ofDocument item = .ok e := by
  obtain ⟨listed, found, read⟩ := bind_eq_ok_iff.mp read
  obtain ⟨items, split, read⟩ := bind_eq_ok_iff.mp read
  obtain ⟨records, each, read⟩ := bind_eq_ok_iff.mp read
  obtain ⟨_, -, read⟩ := bind_eq_ok_iff.mp read
  obtain ⟨next, -, read⟩ := bind_eq_ok_iff.mp read
  cases read
  exact ⟨rfl, listed, items, found, split,
    forall_mem_putAll (fun e mem => exists_of_mem_mapM each mem) (List.forall_mem_nil _)⟩

theorem isRuled_of_restore {s : Surroundings} {drawn drawn' : Nat} {d : Document}
    (restored : restore s drawn d = (drawn', .ok reg)) : reg.IsRuled := by
  obtain ⟨log, parts⟩ := exists_ofParts_of_restore restored
  obtain ⟨-, -, items, -, -, each⟩ := exists_of_ofParts parts
  intro e mem
  obtain ⟨item, -, read⟩ := each e mem
  exact (isMade_of_recordDocument read).isRuled

theorem isRuled_of_origin (origin : reg = {} ∨
    ∃ s drawn drawn' d, restore s drawn d = (drawn', .ok reg)) : reg.IsRuled := by
  rcases origin with rfl | ⟨s, drawn, drawn', d, restored⟩
  · exact List.forall_mem_nil _
  · exact isRuled_of_restore restored

/-! ## Refusals that are checked again -/

/-- Whether every refusal in a log can be compared: its reference is ASCII, it names an object by
something that could be a number, and if there is such an object it cites rules by something that can
be compared with the hash of the object's. -/
def HasPlainRefusals (reg : Registry) : Prop :=
  ∀ l ∈ reg.log.records, ∀ id actor action rulesHash reason,
    l.event.body = .refused id actor action rulesHash reason →
      Text.isAscii l.reference = true ∧ id.isScalar = true ∧
        ∀ r, reg.namedRecord? id = .ok (some r) → AreComparable r.rulesHash rulesHash

theorem guarded_actionOfNumber (d : Document) : Guarded (Action.ofNumber d) := by
  unfold Action.ofNumber byNumber
  split
  · exact failsBy_ok _
  · exact failsBy_error rfl

/-- Refusals that can be compared are checked again, unless what they hold cannot be hashed or is no
action. -/
theorem HasPlainRefusals.guarded_verifyRefusal (plain : reg.HasPlainRefusals)
    (reference : Document) : Guarded (reg.verifyRefusal reference) := by
  unfold verifyRefusal
  split
  · exact failsBy_ok _
  · next l found =>
    split
    · next id actor action rulesHash reason body =>
      have mem : l ∈ reg.log.records := List.mem_reverse.mp (List.mem_of_find?_eq_some found)
      obtain ⟨ascii, scalar, compares⟩ := plain l mem id actor action rulesHash reason body
      refine (l.event.toDocument.guarded_canonicalDigest).bind fun digest digested => ?_
      obtain ⟨text, -, rfl⟩ := map_eq_ok_iff.mp digested
      have hex : Text.IsHex (Sha256.ofText text) := Sha256.isHex_ofBytes _
      refine (failsBy_of_exists (exists_sameDigest_iff.mpr ⟨hex.isAscii, ascii⟩)).bind
        fun intact _ => ?_
      refine (failsBy_of_exists (exists_citationErrors_iff.mpr ⟨scalar, compares⟩)).bind
        fun cited _ => ?_
      exact (guarded_actionOfNumber action).bind fun _ _ => failsBy_ok _
    · exact failsBy_ok _

end Registry

end RuleBound
