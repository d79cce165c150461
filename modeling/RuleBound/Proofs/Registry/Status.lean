import RuleBound.Proofs.Registry.Priority

/-!
What is shown of an object and what is enforced. The status that is shown is reckoned from the record
and the clock without any request; the verdicts on requests look at the lock and the expiry again,
among other rules. The two agree: an object that is shown as locked refuses everybody, one that is
shown as expired refuses all whom its scope admits, and an active one refuses none of these for either
reason.

What the verdict is, the one who asks is told exactly if the event of the verdict can be told.
-/

namespace RuleBound

open Document (IsShort)

/-! ## Reasons -/

namespace Refusal

variable {why : Refusal}

theorem reason_eq_locked_iff : why.reason = "OBJECT_LOCKED" ↔ why = .locked := by
  cases why with
  | forbidden action legacy locks =>
    refine iff_of_false ?_ nofun
    cases action <;> cases legacy <;> cases locks <;> decide
  | _ => decide

theorem reason_eq_expired_iff : why.reason = "RDO has expired" ↔ why = .expired := by
  cases why with
  | forbidden action legacy locks =>
    refine iff_of_false ?_ nofun
    cases action <;> cases legacy <;> cases locks <;> decide
  | _ => decide

end Refusal

/-! ## Verdicts for the lock and the expiry -/

namespace Record

variable {r : Record} {rules : CompactRules} {now : Int} {action : Action} {actor : String}
  {past : Bool}

/-- Whether the scope of an object admits an actor. -/
def Admits (r : Record) (actor : String) : Prop :=
  ∃ rules, r.rules = .member rules ∧ r.outOfScope? rules actor = .ok none

theorem refusal?_of_locked (locked : r.locked.isTrue = true) :
    r.refusal? now action actor = .ok (some .locked) :=
  if_pos locked

/-- A request of whom the scope admits is decided by what follows the scope. -/
theorem refusal?_of_admitted (given : r.rules = .member rules) (unlocked : r.locked.isTrue = false)
    (scope : r.outOfScope? rules actor = .ok none) :
    r.refusal? now action actor = r.refusalInScope? rules now action := by
  have holds : r.compactRules = .ok rules := by rw [compactRules, given]
  rw [refusal?, unlocked, if_neg Bool.false_ne_true, holds, ok_bind, scope, ok_bind]

theorem refusalInScope?_of_past (expiry : rules.hasExpired (.integer now) = .ok true) :
    r.refusalInScope? rules now action = .ok (some .expired) := by
  rw [refusalInScope?, expiry, ok_bind]
  rfl

/-- A verdict is for the expiry only if the rules have expired. -/
theorem hasExpired_of_refusal? (given : r.rules = .member rules)
    (told : r.refusal? now action actor = .ok (some .expired)) :
    rules.hasExpired (.integer now) = .ok true := by
  cases (isFirst_of_refusal? given told).1 with
  | expired limited past => rw [CompactRules.hasExpired, limited, if_neg Bool.false_ne_true, past]

/-- A verdict is for the lock only if the object is locked. -/
theorem isTrue_locked_of_refusal? (given : r.rules = .member rules)
    (told : r.refusal? now action actor = .ok (some .locked)) : r.locked.isTrue = true := by
  cases (isFirst_of_refusal? given told).1 with
  | locked locked => exact locked

theorem status_cases (given : r.rules = .member rules)
    (expiry : rules.hasExpired (.integer now) = .ok past) :
    (r.status (.integer now) = .ok "LOCKED" ↔ r.locked.isTrue = true) ∧
      (r.status (.integer now) = .ok "EXPIRED" ↔ r.locked.isTrue = false ∧ past = true) ∧
      (r.status (.integer now) = .ok "ACTIVE" ↔ r.locked.isTrue = false ∧ past = false) := by
  have holds : r.compactRules = .ok rules := by rw [compactRules, given]
  have shown : r.status (.integer now) =
      .ok (if r.locked.isTrue then "LOCKED" else if past then "EXPIRED" else "ACTIVE") := by
    rw [status, holds, ok_bind, expiry, ok_bind]
    cases r.locked.isTrue <;> cases past <;> rfl
  rw [shown]
  cases r.locked.isTrue <;> cases past <;> simp

end Record

namespace Registry

/-- Whether the verdict on a request at a moment is a refusal for a reason. -/
def Refuses (reg : Registry) (now id : Int) (req : Request) (reason : String) : Prop :=
  ∃ why r', reg.verdict now (.integer id) req = .ok (id, some why, r') ∧ why.reason = reason

section Refuses

variable {reg : Registry} {now id : Int} {req : Request} {reason : String} {r : Record}

theorem refuses_iff (ruled : r.IsRuled) (found : reg.record? id = some r) :
    reg.Refuses now id req reason ↔
      ∃ why, r.refusal? now req.action req.actor = .ok (some why) ∧ why.reason = reason := by
  constructor
  · rintro ⟨why, r', decided, is⟩
    obtain ⟨s, -, there, breaks, -⟩ := exists_of_verdict decided
    cases found.symm.trans there
    exact ⟨why, breaks, is⟩
  · rintro ⟨why, breaks, is⟩
    obtain ⟨r', after, -⟩ := ruled.exists_after (some why)
    exact ⟨why, r', verdict_of_refusal? found breaks after, is⟩

theorem refuses_locked_iff (ruled : r.IsRuled) (found : reg.record? id = some r) :
    reg.Refuses now id req "OBJECT_LOCKED" ↔ r.locked.isTrue = true := by
  obtain ⟨rules, given, -⟩ := ruled.rules
  rw [refuses_iff ruled found]
  constructor
  · rintro ⟨why, told, is⟩
    rw [Refusal.reason_eq_locked_iff.mp is] at told
    exact Record.isTrue_locked_of_refusal? given told
  · exact fun locked => ⟨.locked, Record.refusal?_of_locked locked, rfl⟩

/-- Whom the scope admits is refused for the expiry exactly if the rules have expired and the object is
not locked. -/
theorem refuses_expired_iff (ruled : r.IsRuled) (found : reg.record? id = some r)
    {rules : CompactRules} (given : r.rules = .member rules) (admitted : r.Admits req.actor) :
    reg.Refuses now id req "RDO has expired" ↔
      r.locked.isTrue = false ∧ rules.hasExpired (.integer now) = .ok true := by
  obtain ⟨rules', given', scope⟩ := admitted
  cases given.symm.trans given'
  rw [refuses_iff ruled found]
  constructor
  · rintro ⟨why, told, is⟩
    rw [Refusal.reason_eq_expired_iff.mp is] at told
    refine ⟨?_, Record.hasExpired_of_refusal? given told⟩
    by_contra locked
    rw [Bool.not_eq_false] at locked
    cases (Record.refusal?_of_locked locked).symm.trans told
  · rintro ⟨unlocked, past⟩
    refine ⟨.expired, ?_, rfl⟩
    rw [Record.refusal?_of_admitted given unlocked scope]
    exact Record.refusalInScope?_of_past past

end Refuses

/-- Whether the status that is shown of an object at a moment tells what becomes of requests then. -/
structure StatusAgrees (reg : Registry) (id now : Int) (r : Record) : Prop where
  locked : r.status (.integer now) = .ok "LOCKED" ↔
    ∀ req : Request, Text.isBlankText req.actor = false → reg.Refuses now id req "OBJECT_LOCKED"
  expired : r.status (.integer now) = .ok "EXPIRED" ↔
    (∀ req : Request, Text.isBlankText req.actor = false → r.Admits req.actor →
      reg.Refuses now id req "RDO has expired") ∧ r.locked.isTrue = false
  active : r.status (.integer now) = .ok "ACTIVE" ↔
    ∀ req : Request, Text.isBlankText req.actor = false → r.Admits req.actor →
      ¬ reg.Refuses now id req "OBJECT_LOCKED" ∧ ¬ reg.Refuses now id req "RDO has expired"

theorem statusAgrees_of_isRuled {reg : Registry} {id now : Int} {r : Record} (ruled : r.IsRuled)
    (found : reg.record? id = some r) {actor : String} (named : Text.isBlankText actor = false)
    (admitted : r.Admits actor) : reg.StatusAgrees id now r := by
  obtain ⟨rules, given, number⟩ := ruled.rules
  obtain ⟨past, expiry⟩ := CompactRules.exists_hasExpired number now
  obtain ⟨isLocked, isExpired, isActive⟩ := Record.status_cases given expiry
  have locks : ∀ req : Request, reg.Refuses now id req "OBJECT_LOCKED" ↔ r.locked.isTrue = true :=
    fun req => refuses_locked_iff ruled found
  have expires : ∀ req : Request, r.Admits req.actor →
      (reg.Refuses now id req "RDO has expired" ↔ r.locked.isTrue = false ∧ past = true) := by
    intro req admits
    rw [refuses_expired_iff ruled found given admits, expiry, Except.ok.injEq]
  -- One request tells all that there is to tell, since the verdicts on all that are admitted agree.
  let one : Request := ⟨.read, [], actor⟩
  constructor
  · rw [isLocked]
    exact ⟨fun locked req _ => (locks req).mpr locked, fun all => (locks one).mp (all one named)⟩
  · rw [isExpired]
    constructor
    · intro ended
      exact ⟨fun req _ admits => (expires req admits).mpr ended, ended.1⟩
    · rintro ⟨all, -⟩
      exact (expires one admitted).mp (all one named admitted)
  · rw [isActive]
    constructor
    · rintro ⟨unlocked, lasting⟩ req - admits
      refine ⟨fun refused => ?_, fun refused => ?_⟩
      · cases unlocked.symm.trans ((locks req).mp refused)
      · cases lasting.symm.trans ((expires req admits).mp refused).2
    · intro none
      obtain ⟨free, current⟩ := none one named admitted
      have unlocked := Bool.eq_false_iff.mpr (mt (locks one).mpr free)
      exact ⟨unlocked, Bool.eq_false_iff.mpr fun ended =>
        current ((expires one admitted).mpr ⟨unlocked, ended⟩)⟩

/-! ## Answers -/

/-- Whether an answer is a refusal for a reason. -/
def Answer.IsRefusedFor (answer : Answer) (reason : String) : Prop :=
  ∃ o, answer = .decided (.ok o) ∧ o.allowed = false ∧ o.reason = reason

/-- Whether the event of the verdict on a request can be told: the object has a stream, and every field
of the event a canonical text. -/
def State.CanTell (st : State) (s : Surroundings) (id : Int) (r : Record) (req : Request) : Prop :=
  IsShort (.integer id) ∧ ∃ refusal, r.refusal? s.now req.action req.actor = .ok refusal ∧
    ∀ f ∈ (verdictEvent r req refusal (s.correlate st.draws).1
      (s.stamp (s.correlate st.draws).2)).fields, ∃ text, f.2.canonical = .ok text

/-- Who asks is told of a refusal exactly if it is the verdict and can be told; what cannot be told
fails. -/
theorem State.isRefusedFor_iff {st : State} (keyed : st.registry.IsKeyed)
    (ruled : st.registry.IsRuled) {id : Int} {r : Record} (found : st.registry.record? id = some r)
    {action actor : Document} {context : Given Bytes} {req : Request}
    (checked : Request.check action context actor = .ok req) (s : Surroundings) :
    let answer := (st.step ⟨s, .request (.integer id) action context actor⟩).2
    (∀ reason, answer.IsRefusedFor reason ↔
        st.registry.Refuses s.now id req reason ∧ st.CanTell s id r req) ∧
      (¬ st.CanTell s id r req → ∃ f, f.IsUntold ∧ answer = .decided (.error f)) := by
  intro answer
  have fine := ruled _ (mem_of_record? found)
  obtain ⟨rules, refusal, given, goes, recounted, silent⟩ :=
    State.goesByFirst_of_request keyed ruled found checked s
  have told := (fine.refusal?_eq_ok_iff given).mpr goes.first
  have can : st.CanTell s id r req ↔ IsRecounted st.registry
      (st.step ⟨s, .request (.integer id) action context actor⟩).1.registry id r req refusal
      answer := by
    rw [recounted]
    refine and_congr_right fun _ => ⟨?_, fun fields => ⟨refusal, told, fields⟩⟩
    rintro ⟨refusal', told', fields⟩
    cases told.symm.trans told'
    exact fields
  refine ⟨fun reason => ?_, fun untold => (silent (mt can.mpr untold)).1⟩
  rw [refuses_iff fine found]
  constructor
  · rintro ⟨o, decided, refused, is⟩
    have tells : st.CanTell s id r req := by
      by_contra untold
      obtain ⟨⟨f, -, failed⟩, -⟩ := silent (mt can.mpr untold)
      cases decided.symm.trans failed
    obtain ⟨l, -, -, decided'⟩ := can.mp tells
    cases decided.symm.trans decided'
    cases refusal with
    | none => cases refused
    | some why => exact ⟨⟨why, told, is⟩, tells⟩
  · rintro ⟨⟨why, told', is⟩, tells⟩
    cases told.symm.trans told'
    obtain ⟨l, -, -, decided⟩ := can.mp tells
    exact ⟨_, decided, rfl, is⟩

/-- What is shown of an object is what is enforced. In every state that calls lead to from an empty
registry or one that was read from a snapshot, the status of an object whose scope admits anybody agrees
with the verdicts on requests at that moment. Who asks is told of such a verdict exactly if its event can
be told. -/
theorem status_agrees {start : State}
    (origin : start.registry = {} ∨
      ∃ s drawn drawn' d, restore s drawn d = (drawn', .ok start.registry)) (before : List Step)
    {id : Int} {r : Record} (found : (start.run before).registry.record? id = some r)
    {somebody : String} (named : Text.isBlankText somebody = false) (admitted : r.Admits somebody)
    (now : Int) :
    let st := start.run before
    st.registry.StatusAgrees id now r ∧ ∀ s : Surroundings, s.now = now →
      ∀ (action : Document) (context : Given Bytes) (actor : Document) (req : Request),
        Request.check action context actor = .ok req →
          let answer := (st.step ⟨s, .request (.integer id) action context actor⟩).2
          (∀ reason, answer.IsRefusedFor reason ↔
              st.registry.Refuses now id req reason ∧ st.CanTell s id r req) ∧
            (¬ st.CanTell s id r req → ∃ f, f.IsUntold ∧ answer = .decided (.error f)) := by
  have keyed : (start.run before).registry.IsKeyed := (isKeyed_of_origin origin).run before
  have ruled : (start.run before).registry.IsRuled := (isRuled_of_origin origin).run before
  refine ⟨statusAgrees_of_isRuled (ruled _ (mem_of_record? found)) found named admitted, ?_⟩
  rintro s rfl action context actor req checked
  exact State.isRefusedFor_iff keyed ruled found checked s

/-! ## An object that expires -/

/-- A mint request for an object that expires at five. -/
def briefRequest : MintRequest :=
  { onceRequest "alice" with rules := .member { expiry := .integer 5 } }

/-- What is minted from the request. -/
def briefMinting : Minting := { onceMinting "alice" with rules := { expiry := .integer 5 } }

/-- The state in which the object has been minted. -/
def briefState : State := State.run {} [⟨⟨0, "", .null, .numbered⟩, .create briefRequest⟩]

theorem record?_brief : briefState.registry.record? 1 = some (newRecord 1 0 briefMinting) := by
  have checked : briefRequest.check = .ok briefMinting := by decide +kernel
  rw [briefState, State.run_cons, State.run_nil]
  exact State.record?_of_create {} ⟨0, "", .null, .numbered⟩ checked

theorem admits_brief (actor : String) : (newRecord 1 0 briefMinting).Admits actor :=
  ⟨briefMinting.rules, rfl, rfl⟩

/-- At nine the object is shown as expired, and refuses everybody. -/
theorem status_agrees_brief :
    (newRecord 1 0 briefMinting).status (.integer 9) = .ok "EXPIRED" ∧
      ∀ req : Request, Text.isBlankText req.actor = false →
        briefState.registry.Refuses 9 1 req "RDO has expired" := by
  have first : ({} : State).registry = {} ∨ ∃ s drawn drawn' d,
      restore s drawn d = (drawn', .ok ({} : State).registry) := .inl rfl
  obtain ⟨agrees, -⟩ := status_agrees first [⟨⟨0, "", .null, .numbered⟩, .create briefRequest⟩]
    record?_brief (by decide : Text.isBlankText "bob" = false) (admits_brief "bob") 9
  have shown : (newRecord 1 0 briefMinting).status (.integer 9) = .ok "EXPIRED" := by
    decide +kernel
  exact ⟨shown, fun req named => (agrees.expired.mp shown).1 req named (admits_brief req.actor)⟩

/-- Whether somebody asks to read the object in some surroundings, and is not told of a refusal. -/
def IsUnanswered (s : Surroundings) (actor : String) : Prop :=
  let answer := (briefState.step ⟨s, .request (.integer 1) (.text "READ") (.member [])
    (.text actor)⟩).2
  Text.isBlankText actor = false ∧ (∀ reason, ¬ answer.IsRefusedFor reason) ∧
    ∃ f, f.IsUntold ∧ answer = .decided (.error f)

theorem isUntold_of_spoiled {s : Surroundings} {actor : String}
    (form : Request.check (.text "READ") (.member []) (.text actor) = .ok ⟨.read, [], actor⟩)
    (named : Text.isBlankText actor = false)
    (spoiled : s.correlation = .real (.ofDecimal false 15 (-1)) ∨ actor = halfName) :
    IsUnanswered s actor := by
  have keyed : briefState.registry.IsKeyed := isKeyed_empty.run [_]
  have ruled : briefState.registry.IsRuled := (isRuled_of_origin (.inl rfl)).run [_]
  obtain ⟨told, untold⟩ := State.isRefusedFor_iff keyed ruled record?_brief form s
  have silent : ¬ briefState.CanTell s 1 (newRecord 1 0 briefMinting) ⟨.read, [], actor⟩ := by
    rintro ⟨short, refusal, -, fields⟩
    have recordable := (isRecordable_iff_fields ..).mpr ⟨short, fields⟩
    rw [not_isRecordable_of_spoiled spoiled rfl rfl (isDigest_onceMinting "alice")] at recordable
    cases recordable
  exact ⟨named, fun reason refused => silent ((told reason).mp refused).2, untold silent⟩

/-- The object is shown as expired, its scope admits everybody, and yet not everybody is told of a
refusal: neither in a correlation that is a double, nor an actor whose name has half of a pair. -/
theorem not_refused_of_untold :
    (newRecord 1 0 briefMinting).status (.integer 9) = .ok "EXPIRED" ∧
      (∀ actor, (newRecord 1 0 briefMinting).Admits actor) ∧
      IsUnanswered ⟨9, "", .real (.ofDecimal false 15 (-1)), .numbered⟩ "bob" ∧
      IsUnanswered ⟨9, "", .null, .numbered⟩ halfName :=
  ⟨by decide +kernel, admits_brief,
    isUntold_of_spoiled (by decide +kernel) (by decide) (.inl rfl),
    isUntold_of_spoiled (by decide +kernel) (by decide) (.inr rfl)⟩

end Registry

end RuleBound
