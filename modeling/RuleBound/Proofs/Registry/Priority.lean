import RuleBound.Proofs.Registry.Abort

/-!
The order of rules. A request is refused for the first rule that it breaks: that the object is locked,
that its scope leaves the actor out, that it has expired, that the action is forbidden, that no uses
are left. It is allowed if it breaks none. The record moves on by what that one verdict entails, and
everything else stands.

One event tells of the verdict, if it can be told at all; otherwise the request fails, and the record
has moved on all the same.
-/

namespace RuleBound

open Document (IsShort)

/-! ## The rules that a request breaks -/

/-- The rank of a refusal in the order in which rules are applied. -/
def Refusal.rank : Refusal → Nat
  | locked => 0
  | notListed => 1
  | notCreator => 2
  | expired => 3
  | forbidden .. => 4
  | usedUp => 5

/-- What an action can be refused for under rules, in that order. -/
def CompactRules.refusals (rules : CompactRules) (action : Action) : List Refusal :=
  [.locked, .notListed, .notCreator, .expired,
    .forbidden action rules.isLegacy rules.lockOnViolation.isTrue, .usedUp]

namespace Record

variable {r r' : Record} {rules : CompactRules} {now : Int} {action : Action} {actor : String}
  {refusal : Option Refusal}

/-- The rules that a request breaks, whether or not another one is applied before them. -/
inductive Breaks (r : Record) (rules : CompactRules) (now : Int) (action : Action) (actor : String) :
    Refusal → Prop
  | locked (locked : r.locked.isTrue = true) : Breaks r rules now action actor .locked
  | notListed (list : rules.hasScope .list = true) (unlisted : r.lists actor = .ok false) :
    Breaks r rules now action actor .notListed
  | notCreator (only : rules.hasScope .creatorOnly = true) (other : r.creator ≠ .text actor) :
    Breaks r rules now action actor .notCreator
  | expired (limited : rules.expiry.isNumber 0 = false)
    (past : rules.expiry.isAtMost (.integer now) = .ok true) : Breaks r rules now action actor .expired
  | forbidden (forbids : rules.forbids action = true) : Breaks r rules now action actor
    (.forbidden action rules.isLegacy rules.lockOnViolation.isTrue)
  | usedUp (limited : rules.limitsUses = true)
    (spent : r.usesRemaining.isAtMost (.integer 0) = .ok true) : Breaks r rules now action actor .usedUp

/-- Whether a request breaks none of the first rules, up to a rank. -/
def Keeps (r : Record) (rules : CompactRules) (now : Int) (action : Action) (actor : String)
    (rank : Nat) : Prop :=
  ∀ why, r.Breaks rules now action actor why → rank ≤ why.rank

/-- Whether a refusal is for the first rule that a request breaks; none if it breaks no rule. -/
def IsFirst (r : Record) (rules : CompactRules) (now : Int) (action : Action) (actor : String) :
    Option Refusal → Prop
  | none => ∀ why, ¬ r.Breaks rules now action actor why
  | some why => r.Breaks rules now action actor why ∧ r.Keeps rules now action actor why.rank

/-- A rule that is not broken extends the rules that are kept. -/
theorem Keeps.succ {rank : Nat} (keeps : r.Keeps rules now action actor rank)
    (next : ∀ why, r.Breaks rules now action actor why → why.rank ≠ rank) :
    r.Keeps rules now action actor (rank + 1) :=
  fun why breaks => Nat.lt_of_le_of_ne (keeps why breaks) (next why breaks).symm

theorem Breaks.refusals_rank {why : Refusal} (breaks : r.Breaks rules now action actor why) :
    (rules.refusals action)[why.rank]? = some why := by
  cases breaks <;> rfl

/-- Two broken rules of one rank are one. -/
theorem Breaks.eq_of_rank {why why' : Refusal} (breaks : r.Breaks rules now action actor why)
    (breaks' : r.Breaks rules now action actor why') (same : why.rank = why'.rank) : why = why' := by
  have listed := breaks.refusals_rank
  rw [same, breaks'.refusals_rank] at listed
  exact (Option.some.inj listed).symm

/-- There is one first broken rule at most. -/
theorem IsFirst.unique {refusal' : Option Refusal}
    (first : r.IsFirst rules now action actor refusal)
    (first' : r.IsFirst rules now action actor refusal') : refusal = refusal' := by
  cases refusal with
  | none =>
    cases refusal' with
    | none => rfl
    | some why => exact absurd first'.1 (first why)
  | some why =>
    cases refusal' with
    | none => exact absurd first.1 (first' why)
    | some why' =>
      have same := Nat.le_antisymm (first.2 why' first'.1) (first'.2 why first.1)
      rw [first.1.eq_of_rank first'.1 same]

/-! ## The verdict is for the first of them -/

theorem keeps_one (unlocked : r.locked.isTrue = false) : r.Keeps rules now action actor 1 := by
  intro why breaks
  cases breaks with
  | locked locked => cases unlocked.symm.trans locked
  | _ => exact Nat.succ_le_succ (Nat.zero_le _)

theorem Keeps.listed (keeps : r.Keeps rules now action actor 1)
    (listed : rules.hasScope .list = true → r.lists actor ≠ .ok false) :
    r.Keeps rules now action actor 2 := by
  refine keeps.succ fun why breaks => ?_
  cases breaks with
  | notListed list unlisted => exact absurd unlisted (listed list)
  | _ => exact nofun

theorem Keeps.created (keeps : r.Keeps rules now action actor 2)
    (created : rules.hasScope .creatorOnly = true → r.creator = .text actor) :
    r.Keeps rules now action actor 3 := by
  refine keeps.succ fun why breaks => ?_
  cases breaks with
  | notCreator only other => exact absurd (created only) other
  | _ => exact nofun

theorem Keeps.lasting (keeps : r.Keeps rules now action actor 3)
    (lasts : rules.hasExpired (.integer now) = .ok false) : r.Keeps rules now action actor 4 := by
  refine keeps.succ fun why breaks => ?_
  cases breaks with
  | expired limited past =>
    rw [CompactRules.hasExpired, limited, if_neg Bool.false_ne_true, past] at lasts
    cases lasts
  | _ => exact nofun

theorem Keeps.permitted (keeps : r.Keeps rules now action actor 4)
    (permitted : rules.forbids action = false) : r.Keeps rules now action actor 5 := by
  refine keeps.succ fun why breaks => ?_
  cases breaks with
  | forbidden forbids => cases permitted.symm.trans forbids
  | _ => exact nofun

/-- A request that keeps the first rules and has a use left breaks none. -/
theorem Keeps.isFirst_none (keeps : r.Keeps rules now action actor 5)
    (left : rules.limitsUses = true → r.usesRemaining.isAtMost (.integer 0) ≠ .ok true) :
    r.IsFirst rules now action actor none := by
  intro why breaks
  have above := keeps why breaks
  cases breaks with
  | usedUp limited spent => exact left limited spent
  | _ => simp [Refusal.rank] at above

/-- Rules have one scope, so an actor whom it leaves out breaks one rule on it, and the other one does
not apply. -/
theorem scope_cases (keeps : r.Keeps rules now action actor 1) {out : Option Refusal}
    (told : r.outOfScope? rules actor = .ok out) :
    (∃ why, out = some why ∧ r.IsFirst rules now action actor (some why)) ∨
      out = none ∧ r.Keeps rules now action actor 3 := by
  unfold outOfScope? at told
  by_cases list : rules.hasScope .list = true
  · rw [if_pos list] at told
    obtain ⟨listed, lists, told⟩ := bind_eq_ok_iff.mp told
    cases listed with
    | false =>
      cases told
      exact .inl ⟨_, rfl, .notListed list lists, keeps⟩
    | true =>
      cases told
      have kept := keeps.listed fun _ unlisted => nomatch lists.symm.trans unlisted
      exact .inr ⟨rfl, kept.created fun only => nomatch CompactRules.eq_of_hasScope list only⟩
  · rw [if_neg list] at told
    have kept := keeps.listed fun has => absurd has list
    by_cases only : rules.hasScope .creatorOnly = true
    · rw [if_pos only] at told
      by_cases created : r.creator = .text actor
      · rw [if_pos created] at told
        cases told
        exact .inr ⟨rfl, kept.created fun _ => created⟩
      · rw [if_neg created] at told
        cases told
        exact .inl ⟨_, rfl, .notCreator only created, kept⟩
    · rw [if_neg only] at told
      cases told
      exact .inr ⟨rfl, kept.created fun has => absurd has only⟩

theorem isFirst_of_refusalInScope? (keeps : r.Keeps rules now action actor 3)
    (told : r.refusalInScope? rules now action = .ok refusal) :
    r.IsFirst rules now action actor refusal := by
  obtain ⟨past, expiry, told⟩ := bind_eq_ok_iff.mp told
  cases past with
  | true =>
    cases told
    unfold CompactRules.hasExpired at expiry
    split_ifs at expiry with endless
    · cases expiry
    · exact ⟨.expired (Bool.eq_false_iff.mpr endless) expiry, keeps⟩
  | false =>
    have kept := keeps.lasting expiry
    rw [if_neg Bool.false_ne_true] at told
    cases forbids : rules.forbids action with
    | true =>
      rw [if_pos forbids] at told
      cases told
      exact ⟨.forbidden forbids, kept⟩
    | false =>
      have kept := kept.permitted forbids
      rw [forbids, if_neg Bool.false_ne_true] at told
      by_cases limited : rules.limitsUses = true
      · rw [if_pos limited] at told
        obtain ⟨spent, uses, told⟩ := bind_eq_ok_iff.mp told
        cases spent with
        | true =>
          cases told
          exact ⟨.usedUp limited uses, kept⟩
        | false =>
          cases told
          exact kept.isFirst_none fun _ spent => nomatch uses.symm.trans spent
      · rw [if_neg limited] at told
        cases told
        exact kept.isFirst_none fun has => absurd has limited

/-- The verdict on a request is for the first rule that it breaks. -/
theorem isFirst_of_refusal? (given : r.rules = .member rules)
    (told : r.refusal? now action actor = .ok refusal) : r.IsFirst rules now action actor refusal := by
  unfold refusal? at told
  cases locked : r.locked.isTrue with
  | true =>
    rw [if_pos locked] at told
    cases told
    exact ⟨.locked locked, fun _ _ => Nat.zero_le _⟩
  | false =>
    have holds : r.compactRules = .ok rules := by rw [compactRules, given]
    rw [locked, if_neg Bool.false_ne_true, holds, ok_bind] at told
    obtain ⟨out, scope, told⟩ := bind_eq_ok_iff.mp told
    have keeps : r.Keeps rules now action actor 1 := keeps_one locked
    rcases scope_cases keeps scope with ⟨why, rfl, first⟩ | ⟨rfl, keeps⟩
    · cases told
      exact first
    · exact isFirst_of_refusalInScope? keeps told

/-- A record that verdicts can be passed on refuses a request exactly for the first rule that it
breaks, and allows it exactly if it breaks none. -/
theorem IsRuled.refusal?_eq_ok_iff (ruled : r.IsRuled) (given : r.rules = .member rules) :
    r.refusal? now action actor = .ok refusal ↔ r.IsFirst rules now action actor refusal := by
  refine ⟨isFirst_of_refusal? given, fun first => ?_⟩
  obtain ⟨refusal', told⟩ := ruled.exists_refusal? now action actor
  rw [told, first.unique (isFirst_of_refusal? given told)]

/-! ## What the verdict moves -/

/-- How a record moves on after a verdict: a use of an object with limited uses is counted, a violation
is counted, and it locks the object if the rules say so. Nothing else moves. -/
inductive Moves (r : Record) (rules : CompactRules) : Option Refusal → Record → Prop
  | use {uses : Document} (limited : rules.limitsUses = true)
    (fewer : r.usesRemaining.minus (.integer 1) = .ok uses) :
    Moves r rules none { r with usesRemaining := uses }
  | free (unlimited : rules.limitsUses = false) : Moves r rules none r
  | violation {action : Action} {legacy : Bool} {violations : Document}
    (more : r.violations.plus (.integer 1) = .ok violations) :
    Moves r rules (some (.forbidden action legacy false)) { r with violations }
  | lock {action : Action} {legacy : Bool} {violations : Document}
    (more : r.violations.plus (.integer 1) = .ok violations) :
    Moves r rules (some (.forbidden action legacy true)) { r with violations, locked := .bool true }
  | other {why : Refusal} (lawful : ∀ action legacy locks, why ≠ .forbidden action legacy locks) :
    Moves r rules (some why) r

theorem moves_of_after (given : r.rules = .member rules) (after : r.after refusal = .ok r') :
    r.Moves rules refusal r' := by
  cases refusal with
  | none =>
    have holds : r.compactRules = .ok rules := by rw [compactRules, given]
    rw [Record.after, holds, ok_bind] at after
    by_cases limited : rules.limitsUses = true
    · rw [if_pos limited] at after
      obtain ⟨uses, fewer, after⟩ := bind_eq_ok_iff.mp after
      cases after
      exact .use limited fewer
    · rw [if_neg limited] at after
      cases after
      exact .free (Bool.eq_false_iff.mpr limited)
  | some why =>
    cases why with
    | forbidden action legacy locks =>
      obtain ⟨violations, more, after⟩ := bind_eq_ok_iff.mp after
      cases after
      cases locks with
      | true => exact .lock more
      | false => exact .violation more
    | _ =>
      cases after
      refine .other fun action legacy locks same => ?_
      cases same

end Record

namespace Registry

/-- Whether a request has gone by the first rule that it breaks: the verdict is for that rule, the
record has moved on by the verdict, and all other records stand, as do the identifiers. -/
structure GoesByFirst (reg reg' : Registry) (id now : Int) (r : Record) (rules : CompactRules)
    (req : Request) (refusal : Option Refusal) : Prop where
  first : r.IsFirst rules now req.action req.actor refusal
  moved : ∃ r', r.Moves rules refusal r' ∧ reg'.record? id = some r'
  others : ∀ key, key ≠ id → reg'.record? key = reg.record? key
  nextId : reg'.nextId = reg.nextId

/-- Whether a request is answered with a verdict that one event more in the log tells of, under the
digest that the answer refers to. -/
def IsRecounted (reg reg' : Registry) (id : Int) (r : Record) (req : Request)
    (refusal : Option Refusal) (answer : Answer) : Prop :=
  ∃ l, reg'.log.records = reg.log.records ++ [l] ∧
    l.Tells (verdictBody id r.rulesHash req refusal) l.reference ∧
    answer = .decided (.ok ⟨id, req.actor, req.action, refusal, l.reference, l.event⟩)

section Requests

variable {st : State} {id : Int} {r : Record} {action actor : Document} {context : Given Bytes}
  {req : Request}

/-- A request on a record that verdicts can be passed on goes by the first rule that it breaks. It is
recounted exactly if its event can be told, and fails otherwise. -/
theorem State.goesByFirst_of_request (keyed : st.registry.IsKeyed) (ruled : st.registry.IsRuled)
    (found : st.registry.record? id = some r)
    (checked : Request.check action context actor = .ok req) (s : Surroundings) :
    let after := st.step ⟨s, .request (.integer id) action context actor⟩
    let event refusal := verdictEvent r req refusal (s.correlate st.draws).1
      (s.stamp (s.correlate st.draws).2)
    ∃ rules refusal, r.rules = .member rules ∧
      GoesByFirst st.registry after.1.registry id s.now r rules req refusal ∧
      (IsRecounted st.registry after.1.registry id r req refusal after.2 ↔
        IsShort (.integer id) ∧ ∀ f ∈ (event refusal).fields, ∃ text, f.2.canonical = .ok text) ∧
      (¬ IsRecounted st.registry after.1.registry id r req refusal after.2 →
        (∃ f, f.IsUntold ∧ after.2 = .decided (.error f)) ∧
        after.1.registry.log.records = st.registry.log.records) := by
  intro after event
  have fine := ruled _ (mem_of_record? found)
  obtain ⟨rules, given, -⟩ := fine.rules
  obtain ⟨refusal, told⟩ := fine.exists_refusal? s.now req.action req.actor
  obtain ⟨r', left, -⟩ := fine.exists_after refusal
  have deed := st.deed?_request s checked found told left
  rw [verdictEvent_of_after left] at deed
  have happens := State.happens_of_deed? deed
  obtain ⟨nextId, s₁, s₂, found₁, left₁, -, found₂⟩ := happens.record?_of_verdict rfl
  cases found.symm.trans found₁
  cases left.symm.trans left₁
  refine ⟨rules, refusal, given, ⟨Record.isFirst_of_refusal? given told,
    ⟨r', Record.moves_of_after given left, found₂⟩, fun key other => happens.record?_of_ne other.symm,
    nextId⟩, ?_⟩
  rw [← isRecordable_iff_fields]
  rcases State.answer_of_verdict deed rfl (keyed id) with
    ⟨reference, recorded, digest, answer⟩ | ⟨f, unrecorded, answer⟩
  · rcases happens.log_cases (keyed id) with ⟨reference', -, digest', log⟩ | ⟨unrecorded, -⟩
    · cases digest.symm.trans digest'
      have recounted : IsRecounted st.registry after.1.registry id r req refusal after.2 :=
        ⟨_, congrArg EventLog.records log,
          ⟨body_verdictEvent (keyed id r found) .., rfl, digest⟩, answer⟩
      exact ⟨iff_of_true recounted recorded, fun silent => absurd recounted silent⟩
    · cases recorded.symm.trans unrecorded
  · have silent : ¬ IsRecounted st.registry after.1.registry id r req refusal after.2 := by
      rintro ⟨l, -, -, decided⟩
      cases answer.symm.trans decided
    rcases happens.log_cases (keyed id) with ⟨-, recorded, -⟩ | ⟨-, log⟩
    · cases recorded.symm.trans unrecorded
    · have untold := State.isUntold_of_deed deed (.inr answer)
      have unlogged : after.1.registry.log.records = st.registry.log.records := by rw [log]
      exact ⟨iff_of_false silent (Bool.eq_false_iff.mp unrecorded),
        fun _ => ⟨⟨f, untold, answer⟩, unlogged⟩⟩

end Requests

/-- Requests go by the first rule. In every state that calls lead to from an empty registry or one that
was read from a snapshot, the verdict on a request is for the first rule that it breaks, the record
moves on by that verdict, and nothing else does. The answer is the verdict, and one event tells of it,
exactly if the event can be told: the object has a stream, and every field a canonical text. -/
theorem requests_go_by_first_rule {start : State}
    (origin : start.registry = {} ∨
      ∃ s drawn drawn' d, restore s drawn d = (drawn', .ok start.registry)) (before : List Step)
    {id : Int} {r : Record} (found : (start.run before).registry.record? id = some r)
    {action actor : Document} {context : Given Bytes} {req : Request}
    (checked : Request.check action context actor = .ok req) (s : Surroundings) :
    let st := start.run before
    let after := st.step ⟨s, .request (.integer id) action context actor⟩
    let event refusal := verdictEvent r req refusal (s.correlate st.draws).1
      (s.stamp (s.correlate st.draws).2)
    ∃ rules refusal, r.rules = .member rules ∧
      GoesByFirst st.registry after.1.registry id s.now r rules req refusal ∧
      (IsRecounted st.registry after.1.registry id r req refusal after.2 ↔
        IsShort (.integer id) ∧ ∀ f ∈ (event refusal).fields, ∃ text, f.2.canonical = .ok text) ∧
      (¬ IsRecounted st.registry after.1.registry id r req refusal after.2 →
        (∃ f, f.IsUntold ∧ after.2 = .decided (.error f)) ∧
        after.1.registry.log.records = st.registry.log.records) := by
  have keyed : (start.run before).registry.IsKeyed := (isKeyed_of_origin origin).run before
  have ruled : (start.run before).registry.IsRuled := (isRuled_of_origin origin).run before
  exact State.goesByFirst_of_request keyed ruled found checked s

/-! ## Reading an object that can be used once -/

theorem record?_once (s : Surroundings) :
    (State.run {} [⟨s, .create (onceRequest "alice")⟩]).registry.record? 1 =
      some (newRecord 1 s.now (onceMinting "alice")) := by
  rw [State.run_cons, State.run_nil]
  exact record?_onceRequest s (.inl rfl)

theorem refusal?_onceMinting (now : Int) (actor : String) :
    (newRecord 1 now (onceMinting "alice")).refusal? now .read actor = .ok none := rfl

/-- Whoever reads the object first breaks no rule, and takes the use. -/
theorem requests_go_by_first_rule_once :
    let s : Surroundings := ⟨0, "", .null, .numbered⟩
    let st := State.run {} [⟨s, .create (onceRequest "alice")⟩]
    let r := newRecord 1 s.now (onceMinting "alice")
    let req : Request := ⟨.read, [], "bob"⟩
    let after := st.step ⟨s, .request (.integer 1) (.text "READ") (.member []) (.text "bob")⟩
    GoesByFirst st.registry after.1.registry 1 s.now r (onceMinting "alice").rules req none ∧
      IsRecounted st.registry after.1.registry 1 r req none after.2 := by
  intro s
  have written : s.IsWritten := Source.isWritten_numbered 0 .null
  have first : ({} : State).registry = {} ∨ ∃ s drawn drawn' d,
      restore s drawn d = (drawn', .ok ({} : State).registry) := .inl rfl
  have checked : Request.check (.text "READ") (.member []) (.text "bob") =
      .ok ⟨.read, [], "bob"⟩ := by decide +kernel
  obtain ⟨rules, refusal, given, goes, told, -⟩ :=
    requests_go_by_first_rule first [⟨s, .create (onceRequest "alice")⟩] (record?_once s) checked s
  cases given
  obtain rfl : refusal = none :=
    goes.first.unique (Record.isFirst_of_refusal? rfl (refusal?_onceMinting s.now "bob"))
  -- What has been drawn by then does not matter.
  generalize State.run {} [⟨s, .create (onceRequest "alice")⟩] = st at goes told ⊢
  refine ⟨goes, told.mpr ((isRecordable_iff_fields ..).mp ?_)⟩
  have correlation := (Surroundings.exists_canonical_correlate_iff written st.draws).mpr nofun
  simp only [Document.canonical_eq_ok_iff, exists_and_left, exists_eq, and_true] at correlation
  exact (isRecordable_verdictEvent_iff rfl rfl (isDigest_onceMinting "alice") ..).mpr
    ⟨Document.isShort_one, written.eventId _, written.timestamp, by decide, correlation⟩

/-- Whether somebody reads the object, breaking no rule, and does not hear of it: the use is taken, and
no verdict is recounted. -/
def IsUnheard (s : Surroundings) (actor : String) : Prop :=
  let st := State.run {} [⟨s, .create (onceRequest "alice")⟩]
  let r := newRecord 1 s.now (onceMinting "alice")
  let req : Request := ⟨.read, [], actor⟩
  let after := st.step ⟨s, .request (.integer 1) (.text "READ") (.member []) (.text actor)⟩
  st.registry.record? 1 = some r ∧
    Request.check (.text "READ") (.member []) (.text actor) = .ok req ∧
    r.IsFirst (onceMinting "alice").rules s.now .read actor none ∧
    (∀ refusal, ¬ IsRecounted st.registry after.1.registry 1 r req refusal after.2) ∧
    ∃ r', after.1.registry.record? 1 = some r' ∧ r'.usesRemaining = .integer 0

theorem isUnheard_of_spoiled {s : Surroundings} {actor : String}
    (form : Request.check (.text "READ") (.member []) (.text actor) = .ok ⟨.read, [], actor⟩)
    (spoiled : s.correlation = .real (.ofDecimal false 15 (-1)) ∨ actor = halfName) :
    IsUnheard s actor := by
  unfold IsUnheard
  intro st r req after
  have found : st.registry.record? 1 = some r := record?_once s
  have keyed : st.registry.IsKeyed := isKeyed_empty.run [_]
  have ruled : st.registry.IsRuled := (isRuled_of_origin (.inl rfl)).run [_]
  have free : r.IsFirst (onceMinting "alice").rules s.now .read actor none :=
    Record.isFirst_of_refusal? rfl (refusal?_onceMinting s.now actor)
  obtain ⟨rules, refusal, given, goes, told, unheard⟩ :=
    State.goesByFirst_of_request keyed ruled found form s
  cases given
  obtain rfl : refusal = none := goes.first.unique free
  have unrecorded : isRecordable 1 (verdictEvent r req none (s.correlate st.draws).1
      (s.stamp (s.correlate st.draws).2)) = false :=
    not_isRecordable_onceMinting spoiled "alice" none st.draws
  rw [← isRecordable_iff_fields, unrecorded, Bool.false_eq_true, iff_false] at told
  obtain ⟨r', moved, left⟩ := goes.moved
  refine ⟨found, form, free, ?_, r', left, ?_⟩
  · rintro other ⟨l, -, -, answer⟩
    obtain ⟨⟨f, -, failed⟩, -⟩ := unheard told
    cases failed.symm.trans answer
  · cases moved with
    | @use uses limited fewer =>
      cases fewer
      rfl
    | free unlimited => cases unlimited

/-- A use can be taken unheard: in a correlation that is a double, and by an actor whose name has half of
a pair. -/
theorem not_recounted_of_unrecorded_use :
    IsUnheard ⟨0, "", .real (.ofDecimal false 15 (-1)), .numbered⟩ "bob" ∧
      IsUnheard ⟨0, "", .null, .numbered⟩ halfName :=
  ⟨isUnheard_of_spoiled (by decide +kernel) (.inl rfl),
    isUnheard_of_spoiled (by decide +kernel) (.inr rfl)⟩

end Registry

end RuleBound
