import Mathlib.Data.List.Count
import RuleBound.Proofs.Event.Written
import RuleBound.Proofs.Registry.History

/-!
What the events of an object tell of its record. `Event.Tell` is the law: the first event is that
of the mint, the budget is spent by the allowed requests, violations are the refusals with the
reason of a forbidden action, and a locked object has exactly one of them and nothing but locked
refusals behind it.

A record moves before its event is recorded, and an event that has no digest is never recorded.
The law therefore holds of an object exactly if each deed that moves its record was recorded.
-/

namespace RuleBound

namespace Event

/-! ## The law -/

/-- The reasons of refusals for a forbidden action. -/
def violationReasons : List String :=
  let reasons := ["Forwarding forbidden", "Copying forbidden", "Export forbidden",
    "Forwarding is not allowed"]
  reasons ++ reasons.map (· ++ " (Object Locked)")

/-- Whether an event tells that a request was allowed. -/
def isAllowed (e : Event) : Bool := e.eventClass == .allowed

/-- Whether an event tells that a request was refused for a reason among some. -/
def isRefusedFor (reasons : List String) (e : Event) : Bool :=
  match e.body with
  | .refused _ _ _ _ (.text reason) => reasons.contains reason
  | _ => false

/-- Whether an event tells of a violation. -/
def isViolation (e : Event) : Bool := e.isRefusedFor violationReasons

/-- Whether an event tells that a request was refused because the object was locked. -/
def isShut (e : Event) : Bool := e.isRefusedFor ["OBJECT_LOCKED"]

/-- Whether events tell all of a record under rules. -/
structure Tell (events : List Event) (r : Record) (rules : CompactRules) : Prop where
  created : ∃ first later kind, events = first :: later ∧ r.kind = .member kind ∧
    first.body = .created r.id r.creator (.integer kind.number) r.rulesHash r.pointer ∧
    ∀ e ∈ later, e.eventClass = .allowed ∨ e.eventClass = .refused
  uses : ∃ n, r.usesRemaining = .integer n ∧ 0 ≤ n ∧
    n = if rules.maxUses.value = 0 then 0 else rules.maxUses.value - events.countP isAllowed
  violations : r.violations = .integer (events.countP isViolation)
  locked : r.locked =
    .bool (rules.lockOnViolation.isTrue && decide (1 ≤ events.countP isViolation))
  locking : r.locked = .bool true → events.countP isViolation = 1 ∧
    ∃ earlier e later, events = earlier ++ e :: later ∧ e.isViolation = true ∧
      ∀ x ∈ later, x.isShut = true

end Event

namespace Registry

/-! ## Events of verdicts -/

theorem mem_violationReasons (why : Refusal)
    (can : ∀ action legacy locks, why = .forbidden action legacy locks →
      action.forbiddenReason ≠ "") :
    Event.violationReasons.contains why.reason = why.isForbidden := by
  cases why with
  | forbidden action legacy locks =>
    have named := can action legacy locks rfl
    cases action <;> first | exact absurd rfl named | (cases legacy <;> cases locks <;> decide)
  | _ => decide

theorem forbiddenReason_ne_of_forbids {rules : CompactRules} {action : Action}
    (forbids : rules.forbids action = true) : action.forbiddenReason ≠ "" := by
  cases action with
  | read => cases forbids
  | execute => cases forbids
  | _ => decide

/-- Whether a deed moves the record of its object under rules: it mints the record, spends a use or
counts a violation. -/
def Deed.moves (d : Deed) (rules : CompactRules) : Bool :=
  match d.act with
  | .mint _ => true
  | .verdict _ none => rules.limitsUses
  | .verdict _ (some why) => why.isForbidden

section Verdicts

variable {id : Int} {m : Minting} {d : Deed}

theorem Deed.IsVerdictOn.isAllowed_eq (verdict : d.IsVerdictOn id m) :
    ∃ v, d.verdict? = some v ∧ v.isAllowed = d.event.isAllowed := by
  cases verdict with
  | intro now req refusal correlation stamp =>
    cases refusal <;> exact ⟨_, rfl, rfl⟩

theorem Deed.IsVerdictOn.eventClass_eq (verdict : d.IsVerdictOn id m) :
    d.event.eventClass = .allowed ∨ d.event.eventClass = .refused := by
  cases verdict with
  | intro now req refusal correlation stamp =>
    cases refusal with
    | none => exact .inl rfl
    | some why => exact .inr rfl

/-- The event of a verdict tells of a violation exactly if the verdict is one, provided that it
forbids only what can be forbidden. -/
theorem Deed.IsVerdictOn.isViolation_eq (verdict : d.IsVerdictOn id m)
    (can : ∀ v, d.verdict? = some v → ∀ action legacy locks,
      v.refusal = some (.forbidden action legacy locks) → action.forbiddenReason ≠ "") :
    ∃ v, d.verdict? = some v ∧ v.isForbidden = d.event.isViolation := by
  cases verdict with
  | intro now req refusal correlation stamp =>
    refine ⟨_, rfl, ?_⟩
    cases refusal with
    | none => rfl
    | some why =>
      refine (mem_violationReasons why fun action legacy locks is => ?_).symm
      exact can _ rfl action legacy locks (congrArg some is)

theorem Deed.IsVerdictOn.isShut_of_locked (verdict : d.IsVerdictOn id m) {v : Verdict}
    (is : d.verdict? = some v) (locked : v.refusal = some .locked) : d.event.isShut = true := by
  cases verdict with
  | intro now req refusal correlation stamp =>
    cases is
    replace locked : refusal = some .locked := locked
    subst locked
    exact (by decide : ["OBJECT_LOCKED"].contains Refusal.locked.reason = true)

theorem Deed.IsVerdictOn.moves_eq (verdict : d.IsVerdictOn id m) {v : Verdict}
    (is : d.verdict? = some v) (rules : CompactRules) :
    d.moves rules = (v.isForbidden || v.isAllowed && rules.limitsUses) := by
  cases verdict with
  | intro now req refusal correlation stamp =>
    cases is
    cases refusal with
    | none => rfl
    | some why => simp [Deed.moves, Verdict.isForbidden, Verdict.isAllowed]

end Verdicts

/-! ## Counting what was recorded -/

theorem countP_verdicts {ds : List Deed} {p : Verdict → Bool} {q : Event → Bool}
    (agree : ∀ d ∈ ds, ∃ v, d.verdict? = some v ∧ p v = q d.event) :
    (verdicts ds).countP p = ds.countP fun d => q d.event := by
  rw [verdicts, List.countP_filterMap]
  refine List.countP_congr fun d mem => ?_
  obtain ⟨v, is, same⟩ := agree d mem
  simp [is, same]

/-- The events of the recorded deeds have as many of a sort as the deeds have exactly if no deed of
that sort is missing. -/
theorem countP_recorded_eq_iff (q : Event → Bool) (ds : List Deed) :
    ((ds.filter Deed.isRecorded).map Deed.event).countP q = ds.countP (fun d => q d.event) ↔
      ∀ d ∈ ds, q d.event = true → d.isRecorded = true := by
  rw [List.countP_map, List.countP_filter]
  simp only [Function.comp_apply]
  induction ds with
  | nil => simp
  | cons d ds ih =>
    have fewer : ds.countP (fun d => q d.event && d.isRecorded) ≤ ds.countP fun d => q d.event :=
      List.countP_mono_left fun d _ both => (Bool.and_eq_true_iff.mp both).1
    rw [List.countP_cons, List.countP_cons, List.forall_mem_cons, ← ih]
    cases q d.event <;> cases d.isRecorded <;> simp
    omega

/-! ## When the events tell all -/

section Tell

variable {id born : Int} {m : Minting} {stamp : Stamp} {later : List Deed} {standing : Standing}

theorem isViolation_of_decided (only : ∀ d ∈ later, d.IsVerdictOn id m)
    (decided : Decided m standing (verdicts later)) :
    ∀ d ∈ later, ∃ v, d.verdict? = some v ∧ v.isForbidden = d.event.isViolation := by
  intro d mem
  refine (only d mem).isViolation_eq fun v is action legacy locks refused unnamed => ?_
  have forbids := decided.forbids_of_mem (List.mem_filterMap.mpr ⟨d, mem, is⟩) refused
  exact forbiddenReason_ne_of_forbids forbids unnamed

/-- The event of the mint counts neither as an allowed request nor as a violation. -/
theorem countP_of_mint {q : Event → Bool} (other : q (createdEvent id m stamp) = false) :
    ((((⟨id, born, .mint m, createdEvent id m stamp⟩ : Deed) :: later).filter
        Deed.isRecorded).map Deed.event).countP q =
      ((later.filter Deed.isRecorded).map Deed.event).countP q := by
  rw [List.filter_cons]
  split
  · rw [List.map_cons, List.countP_cons, other, if_neg Bool.false_ne_true, Nat.add_zero]
  · rfl

/-- Events that tell all of a record have that of its mint among them. -/
theorem isRecorded_mint_of_tell {r : Record} {rules : CompactRules}
    (only : ∀ d ∈ later, d.IsVerdictOn id m) {mint : Deed}
    (tell : Event.Tell (((mint :: later).filter Deed.isRecorded).map Deed.event) r rules) :
    mint.isRecorded = true := by
  by_contra missing
  obtain ⟨first, rest, kind, events, -, body, -⟩ := tell.created
  rw [List.filter_cons, if_neg missing] at events
  have mem : first ∈ (later.filter Deed.isRecorded).map Deed.event := events ▸ List.mem_cons_self
  obtain ⟨d, recorded, rfl⟩ := List.mem_map.mp mem
  have created : d.event.eventClass = .created := by
    rw [Event.eventClass, body]
    rfl
  rcases (only d (List.mem_filter.mp recorded).1).eventClass_eq with is | is <;>
    rw [created] at is <;> cases is

/-- The verdicts on a locked object can be told apart at the one that has locked it. -/
theorem exists_locking_deed (only : ∀ d ∈ later, d.IsVerdictOn id m)
    (decided : Decided m standing (verdicts later)) (locked : standing.locked = true) :
    ∃ before d after, later = before ++ d :: after ∧
      (∀ e ∈ before, e.event.isViolation = false) ∧ d.event.isViolation = true ∧
      ∀ e ∈ after, e.event.isShut = true ∧ e.event.isViolation = false := by
  have violates := isViolation_of_decided only decided
  have locks : m.rules.lockOnViolation.isTrue = true := by
    rw [decided.locked_eq] at locked
    exact (Bool.and_eq_true_iff.mp locked).1
  rcases decided.exists_locking locks with
    ⟨unlocked, -⟩ | ⟨-, earlier, v, rest, all, fine, forbidden, shut⟩
  · rw [locked] at unlocked
    cases unlocked
  obtain ⟨before, behind, rfl, rfl, last⟩ := List.filterMap_eq_append_iff.mp all
  obtain ⟨skipped, d, after, rfl, none, is, rfl⟩ := List.filterMap_eq_cons_iff.mp last
  have same : ∀ e ∈ before ++ (skipped ++ d :: after), ∀ w, e.verdict? = some w →
      w.isForbidden = e.event.isViolation := by
    intro e mem w told
    obtain ⟨w', told', same⟩ := violates e mem
    rw [told] at told'
    exact Option.some.inj told' ▸ same
  refine ⟨before ++ skipped, d, after, by simp, fun e mem => ?_, ?_, fun e mem => ?_⟩
  · obtain ⟨w, told, same⟩ := violates e (by
      rcases List.mem_append.mp mem with here | here <;> simp [here])
    rcases List.mem_append.mp mem with here | here
    · exact same ▸ fine w (List.mem_filterMap.mpr ⟨e, here, told⟩)
    · rw [none e here] at told
      cases told
  · exact same d (by simp) v is ▸ forbidden
  · have here : e ∈ before ++ (skipped ++ d :: after) := by simp [mem]
    obtain ⟨w, told, same⟩ := violates e here
    have locked := shut w (List.mem_filterMap.mpr ⟨e, mem, told⟩)
    refine ⟨(only e here).isShut_of_locked told locked, ?_⟩
    rw [← same, Verdict.isForbidden, locked]
    rfl

theorem uses_eq_countP (only : ∀ d ∈ later, d.IsVerdictOn id m)
    (decided : Decided m standing (verdicts later)) :
    standing.uses = m.rules.maxUses.value -
      if m.rules.limitsUses then (later.countP fun d => d.event.isAllowed : Int) else 0 := by
  rw [decided.uses_eq, countP_verdicts fun d mem => (only d mem).isAllowed_eq]

theorem violations_eq_countP (only : ∀ d ∈ later, d.IsVerdictOn id m)
    (decided : Decided m standing (verdicts later)) :
    standing.violations = later.countP fun d => d.event.isViolation := by
  rw [decided.violations_eq, countP_verdicts (isViolation_of_decided only decided)]

/-- A verdict moves the record exactly if its event tells of a violation, or of a use that
counts. -/
theorem moves_iff (only : ∀ d ∈ later, d.IsVerdictOn id m)
    (decided : Decided m standing (verdicts later)) {d : Deed} (mem : d ∈ later) :
    d.moves m.rules = true ↔
      d.event.isViolation = true ∨ d.event.isAllowed = true ∧ m.rules.limitsUses = true := by
  obtain ⟨v, is, same⟩ := isViolation_of_decided only decided d mem
  obtain ⟨v', is', same'⟩ := (only d mem).isAllowed_eq
  cases is.symm.trans is'
  rw [(only d mem).moves_eq is, same, same', Bool.or_eq_true, Bool.and_eq_true]

/-- Events that tell all of a record miss no deed that moves it: a count over fewer deeds would fall
short. -/
theorem recorded_of_tell (only : ∀ d ∈ later, d.IsVerdictOn id m)
    (decided : Decided m standing (verdicts later)) (plain : m.rules.IsPlain) {mint : Deed}
    (is : mint = ⟨id, born, .mint m, createdEvent id m stamp⟩)
    (tell : Event.Tell (((mint :: later).filter Deed.isRecorded).map Deed.event)
      (m.recordAt id born standing) m.rules) :
    ∀ d ∈ mint :: later, d.moves m.rules = true → d.isRecorded = true := by
  have spent := uses_eq_countP only decided
  have counted := violations_eq_countP only decided
  obtain ⟨n, uses, -, left⟩ := tell.uses
  have broken := tell.violations
  rw [is, countP_of_mint rfl] at left broken
  cases uses
  replace broken : standing.violations = _ := Document.integer.inj broken
  refine List.forall_mem_cons.mpr ⟨fun _ => isRecorded_mint_of_tell only tell, ?_⟩
  intro d mem moves
  rcases (moves_iff only decided mem).mp moves with violation | ⟨allows, limited⟩
  · refine (countP_recorded_eq_iff Event.isViolation later).mp ?_ d mem violation
    omega
  · have some : m.rules.maxUses.value ≠ 0 := by
      rwa [plain.limitsUses_eq, bne_iff_ne] at limited
    refine (countP_recorded_eq_iff Event.isAllowed later).mp ?_ d mem allows
    rw [if_neg some] at left
    rw [if_pos limited] at spent
    omega

/-- If no violation is missing among the events of a locked object, all that stands behind the one
that has locked it is shut. -/
theorem exists_locking_event (only : ∀ d ∈ later, d.IsVerdictOn id m)
    (decided : Decided m standing (verdicts later)) (locked : standing.locked = true)
    (told : ∀ d ∈ later, d.event.isViolation = true → d.isRecorded = true) :
    later.countP (fun d => d.event.isViolation) = 1 ∧
      ∃ earlier e rest, (later.filter Deed.isRecorded).map Deed.event = earlier ++ e :: rest ∧
        e.isViolation = true ∧ ∀ x ∈ rest, x.isShut = true := by
  obtain ⟨before, d, after, rfl, fine, violation, shut⟩ := exists_locking_deed only decided locked
  refine ⟨?_, (before.filter Deed.isRecorded).map Deed.event, d.event,
    (after.filter Deed.isRecorded).map Deed.event, ?_, violation, ?_⟩
  · rw [List.countP_append, List.countP_cons, if_pos violation, List.countP_eq_zero.mpr,
      List.countP_eq_zero.mpr]
    · exact fun e mem => by simp [(shut e mem).2]
    · exact fun e mem => by simp [fine e mem]
  · simp [List.filter_append, told d (by simp) violation]
  · intro e mem
    obtain ⟨d', within, rfl⟩ := List.mem_map.mp mem
    exact (shut d' (List.mem_filter.mp within).1).1

/-- The events of an object tell all of its record if no deed that moves the record is missing among
them. -/
theorem tell_of_recorded (only : ∀ d ∈ later, d.IsVerdictOn id m)
    (decided : Decided m standing (verdicts later)) (plain : m.rules.IsPlain)
    (nonneg : 0 ≤ m.rules.maxUses.value) {mint : Deed}
    (is : mint = ⟨id, born, .mint m, createdEvent id m stamp⟩)
    (recorded : ∀ d ∈ mint :: later, d.moves m.rules = true → d.isRecorded = true) :
    Event.Tell (((mint :: later).filter Deed.isRecorded).map Deed.event)
      (m.recordAt id born standing) m.rules := by
  obtain ⟨mint_recorded, later_recorded⟩ := List.forall_mem_cons.mp recorded
  have first : (mint :: later).filter Deed.isRecorded = mint :: later.filter Deed.isRecorded := by
    rw [List.filter_cons, if_pos (mint_recorded (is ▸ rfl))]
  have told : ∀ d ∈ later, d.event.isViolation = true → d.isRecorded = true :=
    fun d mem violation => later_recorded d mem ((moves_iff only decided mem).mpr (.inl violation))
  have all_violations := (countP_recorded_eq_iff Event.isViolation later).mpr told
  have counted := violations_eq_countP only decided
  have spent := uses_eq_countP only decided
  subst is
  refine ⟨⟨_, (later.filter Deed.isRecorded).map Deed.event, m.kind,
      congrArg (List.map Deed.event) first, rfl, rfl, ?_⟩,
    ⟨standing.uses, rfl, decided.uses_nonneg nonneg, ?_⟩, ?_, ?_, fun locked => ?_⟩
  · intro e mem
    obtain ⟨d, within, rfl⟩ := List.mem_map.mp mem
    exact (only d (List.mem_filter.mp within).1).eventClass_eq
  · rw [countP_of_mint rfl]
    by_cases limited : m.rules.limitsUses = true
    · have some : m.rules.maxUses.value ≠ 0 := by
        rwa [plain.limitsUses_eq, bne_iff_ne] at limited
      have all_allowed := (countP_recorded_eq_iff Event.isAllowed later).mpr fun d mem allows =>
        later_recorded d mem ((moves_iff only decided mem).mpr (.inr ⟨allows, limited⟩))
      rw [if_neg some, all_allowed]
      simpa only [if_pos limited] using spent
    · have none : m.rules.maxUses.value = 0 := by
        rwa [plain.limitsUses_eq, bne_iff_ne, not_not] at limited
      rw [if_neg limited, none] at spent
      rw [if_pos none]
      exact spent
  · rw [countP_of_mint rfl, all_violations]
    exact congrArg Document.integer counted
  · rw [countP_of_mint rfl, all_violations,
      ← countP_verdicts (isViolation_of_decided only decided)]
    exact congrArg Document.bool decided.locked_eq_countP
  · obtain ⟨once, earlier, e, rest, events, violation, shut⟩ :=
      exists_locking_event only decided (Document.bool.inj locked) told
    rw [countP_of_mint rfl, all_violations, first]
    exact ⟨once, _ :: earlier, e, rest, congrArg (List.cons _) events, violation, shut⟩

/-- The recorded events of an object tell all of its record exactly if no deed that moves the
record is missing among them. -/
theorem tell_iff (only : ∀ d ∈ later, d.IsVerdictOn id m)
    (decided : Decided m standing (verdicts later)) (plain : m.rules.IsPlain)
    (nonneg : 0 ≤ m.rules.maxUses.value) :
    let mint : Deed := ⟨id, born, .mint m, createdEvent id m stamp⟩
    Event.Tell (((mint :: later).filter Deed.isRecorded).map Deed.event)
        (m.recordAt id born standing) m.rules ↔
      ∀ d ∈ mint :: later, d.moves m.rules = true → d.isRecorded = true :=
  ⟨recorded_of_tell only decided plain rfl, tell_of_recorded only decided plain nonneg rfl⟩

end Tell

/-- An object of a run from an empty registry has its account, and the deeds on it are the mint and
then those of the account. -/
theorem exists_account_of_run (xs : List Step) {id : Int} {r : Record}
    (found : (State.run {} xs).registry.record? id = some r) :
    ∃ born m stamp later, deedsOn id (State.deeds {} xs) =
        ⟨id, born, .mint m, createdEvent id m stamp⟩ :: later ∧ Account id r born m later :=
  ((chronicled_run xs).chronicle id r found).exists_account

/-- No call changes anything of a record but its standing. -/
theorem fixed_of_run (xs more : List Step) {id : Int} {r : Record}
    (found : (State.run {} xs).registry.record? id = some r) :
    ∃ r', (State.run {} (xs ++ more)).registry.record? id = some r' ∧ r' = withStandingOf r r' := by
  have chronicled := chronicled_run xs
  obtain ⟨-, r', found', chronicle'⟩ := exists_chronicle_of_run (chronicled.given id r found) found
    (chronicled.chronicle id r found) more
  obtain ⟨born, m, stamp, later, all, account⟩ := exists_account_of_run xs found
  obtain ⟨born', m', stamp', later', all', account'⟩ := chronicle'.exists_account
  rw [all, List.cons_append, List.cons.injEq, Deed.mk.injEq, Act.mint.injEq] at all'
  obtain ⟨⟨-, rfl, rfl, -⟩, -⟩ := all'
  refine ⟨r', by rw [State.run_append, found'], ?_⟩
  rw [account'.fixed, account.fixed]
  rfl

theorem events_tell_iff_of_account (xs : List Step) {id : Int} {r : Record}
    (found : (State.run {} xs).registry.record? id = some r) {rules : CompactRules}
    (ruled : r.rules = .member rules) (plain : rules.IsPlain) :
    Event.Tell (((State.run {} xs).registry.events (.integer id)).map LogRecord.event) r rules ↔
      ∀ d ∈ deedsOn id (State.deeds {} xs), d.moves rules = true → d.isRecorded = true := by
  obtain ⟨born, m, stamp, later, all, account⟩ := exists_account_of_run xs found
  rw [(logged_run xs).events_eq, all]
  have same : m.rules = rules := by
    rw [account.fixed] at ruled
    exact Given.member.inj ruled
  subst same
  obtain ⟨standing, rfl, decided⟩ := account.standing plain
  exact tell_iff account.only decided plain (account.checked.maxUses_nonneg plain)

/-- In every state that calls lead to from an empty registry, the events of an object tell all of
its record exactly if each deed that has moved the record was recorded. Further calls change
nothing of the record but its standing. -/
theorem events_tell_iff_recorded (xs : List Step) {id : Int} {r : Record}
    (found : (State.run {} xs).registry.record? id = some r) {rules : CompactRules}
    (ruled : r.rules = .member rules) (plain : rules.IsPlain) :
    (Event.Tell (((State.run {} xs).registry.events (.integer id)).map LogRecord.event) r rules ↔
      ∀ d ∈ deedsOn id (State.deeds {} xs), d.moves rules = true → d.isRecorded = true) ∧
    ∀ more, ∃ r', (State.run {} (xs ++ more)).registry.record? id = some r' ∧
      r' = withStandingOf r r' :=
  ⟨events_tell_iff_of_account xs found ruled plain, fun more => fixed_of_run xs more found⟩

/-! ## An object that can be used once -/

/-- The events of an object that has just been minted tell all of it. -/
theorem events_tell_of_mint :
    let s : Surroundings := ⟨0, "", .null, .numbered⟩
    Event.Tell (((State.run {} [⟨s, .create (onceRequest "alice")⟩]).registry.events
      (.integer 1)).map LogRecord.event) (newRecord 1 0 (onceMinting "alice"))
      (onceMinting "alice").rules := by
  intro s
  have found := record?_onceRequest s (.inl rfl)
  rw [← State.run_nil (State.step {} _).1, ← State.run_cons] at found
  refine (events_tell_iff_recorded _ found rfl (isPlain_onceMinting "alice")).1.mpr ?_
  intro d mem _
  rw [State.deeds, State.deeds, State.deed?_create {} s (check_onceRequest (.inl rfl)),
    Option.toList_some, List.append_nil] at mem
  rw [List.mem_singleton.mp (List.mem_filter.mp mem).1]
  exact (isRecordable_onceMinting Document.isShort_one (by decide +kernel) (by decide) "alice").mpr
    (by decide)

/-- If the request is allowed and its event cannot be recorded, the events do not tell of the
use. -/
theorem not_tell_onceRun {s : Surroundings} {actor : String}
    (form : Request.check (.text "READ") (.member []) (.text actor) = .ok ⟨.read, [], actor⟩)
    (unwritten : ∀ draws, isRecordable 1 (verdictEvent (newRecord 1 s.now (onceMinting "alice"))
      ⟨.read, [], actor⟩ none (s.correlate draws).1 (s.stamp (s.correlate draws).2)) = false) :
    ∃ r, (State.run {} (onceRun s actor)).registry.record? 1 = some r ∧
      r.rules = .member (onceMinting "alice").rules ∧
      ¬ Event.Tell (((State.run {} (onceRun s actor)).registry.events (.integer 1)).map
        LogRecord.event) r (onceMinting "alice").rules := by
  have plain := isPlain_onceMinting "alice"
  obtain ⟨standing, found⟩ : ∃ standing, (State.run {} (onceRun s actor)).registry.record? 1 =
      some ((onceMinting "alice").recordAt 1 s.now standing) := by
    obtain ⟨standing, found, -⟩ := State.exists_standing_of_create {} s
      (check_onceRequest (.inl rfl)) plain
      [⟨s, .request (.integer 1) (.text "READ") (.member []) (.text actor)⟩]
    refine ⟨standing, ?_⟩
    rw [onceRun, State.run_cons]
    exact found
  refine ⟨_, found, rfl, fun tell => ?_⟩
  have recorded := (events_tell_iff_of_account (onceRun s actor) found rfl plain).mp tell
  have deed := deed?_onceRequest s (.inl rfl) form none rfl
  have mem := recorded _ (List.mem_filter.mpr ⟨List.mem_append_right _ (List.mem_append_left _
    (Option.mem_toList.mpr deed)), beq_self_eq_true 1⟩) rfl
  rw [Deed.isRecorded] at mem
  exact Bool.false_ne_true ((unwritten _).symm.trans mem)

/-- An allowed request whose event cannot be recorded is not told of: neither one in a correlation
that is a double, nor one by an actor whose name has half of a pair. -/
theorem not_tell_of_unrecorded_use :
    let double : Surroundings := ⟨0, "", .real (.ofDecimal false 15 (-1)), .numbered⟩
    let plain : Surroundings := ⟨0, "", .null, .numbered⟩
    (∃ r, (State.run {} (onceRun double "bob")).registry.record? 1 = some r ∧
      r.rules = .member (onceMinting "alice").rules ∧
      ¬ Event.Tell (((State.run {} (onceRun double "bob")).registry.events (.integer 1)).map
        LogRecord.event) r (onceMinting "alice").rules) ∧
    (∃ r, (State.run {} (onceRun plain halfName)).registry.record? 1 = some r ∧
      r.rules = .member (onceMinting "alice").rules ∧
      ¬ Event.Tell (((State.run {} (onceRun plain halfName)).registry.events (.integer 1)).map
        LogRecord.event) r (onceMinting "alice").rules) := by
  intro double plain
  exact ⟨not_tell_onceRun (by decide +kernel) fun draws =>
      not_isRecordable_onceMinting (.inl rfl) ..,
    not_tell_onceRun (by decide +kernel) fun draws =>
      not_isRecordable_onceMinting (.inr rfl) ..⟩

end Registry

end RuleBound
