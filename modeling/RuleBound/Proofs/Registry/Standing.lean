import RuleBound.Registry.Basic
import RuleBound.Proofs.Document.Number

/-!
The standing of an object: the three fields of its record that verdicts change. Verdicts are
computed on records whose fields could hold any value, so every one of them could be a fault. On a
record that was minted under plain rules none is: the verdict is `Minting.refusal?` of what was
minted and of the standing, and the record behind it is that of `Standing.after`.
-/

namespace RuleBound

namespace CompactRules

/-- Whether the limits of rules are whole numbers. -/
structure IsPlain (r : CompactRules) : Prop where
  expiry : r.expiry = .integer r.expiry.value
  maxUses : r.maxUses = .integer r.maxUses.value

variable {r : CompactRules}

theorem IsPlain.limitsUses_eq (plain : r.IsPlain) : r.limitsUses = (r.maxUses.value != 0) := by
  have uses := plain.maxUses
  unfold limitsUses
  generalize r.maxUses.value = n at uses
  rw [uses, Document.isNumber_integer]
  rfl

/-- Whether plain rules have expired at a moment. -/
def isOver (r : CompactRules) (now : Int) : Bool :=
  r.expiry.value != 0 && decide (r.expiry.value ≤ now)

theorem IsPlain.hasExpired_eq (plain : r.IsPlain) (now : Int) :
    r.hasExpired (.integer now) = .ok (r.isOver now) := by
  have expiry := plain.expiry
  unfold hasExpired isOver
  generalize r.expiry.value = n at expiry
  rw [expiry, Document.isNumber_integer, Document.isAtMost_integer]
  by_cases never : n = 0 <;> simp [never]

end CompactRules

/-- Whether a request is refused because its action is forbidden. -/
def Refusal.isForbidden : Refusal → Bool
  | forbidden _ _ _ => true
  | _ => false

/-! ## Verdicts as functions of the standing -/

/-- What verdicts change of a record. -/
structure Standing where
  locked : Bool
  violations : Int
  uses : Int
  deriving DecidableEq

namespace Standing

/-- The standing of a new object. -/
def initial (rules : CompactRules) : Standing := ⟨false, 0, rules.maxUses.value⟩

/-- The standing after a verdict under rules. -/
def after (st : Standing) (rules : CompactRules) : Option Refusal → Standing
  | none => if rules.limitsUses then { st with uses := st.uses - 1 } else st
  | some (.forbidden _ _ locks) =>
    { st with violations := st.violations + 1, locked := locks || st.locked }
  | some _ => st

@[simp] theorem after_none_locked (st : Standing) (rules : CompactRules) :
    (st.after rules none).locked = st.locked := by
  simp only [after]
  split <;> rfl

@[simp] theorem after_none_violations (st : Standing) (rules : CompactRules) :
    (st.after rules none).violations = st.violations := by
  simp only [after]
  split <;> rfl

/-- A refusal changes nothing unless the action is forbidden. -/
theorem after_of_not_isForbidden (st : Standing) (rules : CompactRules) {why : Refusal}
    (other : why.isForbidden = false) : st.after rules (some why) = st := by
  cases why <;> first | rfl | cases other

end Standing

namespace Minting

/-- The record of an object that was minted under an identifier at a moment. -/
def recordAt (m : Minting) (id born : Int) (st : Standing) : Record :=
  { Registry.newRecord id born m with
    locked := .bool st.locked
    violations := .integer st.violations
    usesRemaining := .integer st.uses }

/-- Whether the scope of what was minted leaves an actor out, and how. -/
def outOfScope? (m : Minting) (actor : String) : Option Refusal :=
  if m.rules.hasScope .list then
    if m.whitelist.contains (.text actor) then none else some .notListed
  else if m.rules.hasScope .creatorOnly then
    if m.creator = actor then none else some .notCreator
  else none

/-- The first rule that a request of an actor in scope breaks, none if it is allowed. -/
def refusalInScope? (m : Minting) (st : Standing) (now : Int) (action : Action) :
    Option Refusal :=
  if m.rules.isOver now then some .expired
  else if m.rules.forbids action then
    some (.forbidden action m.rules.isLegacy m.rules.lockOnViolation.isTrue)
  else if m.rules.limitsUses && decide (st.uses ≤ 0) then some .usedUp
  else none

/-- The first rule that a request breaks, none if it is allowed. -/
def refusal? (m : Minting) (st : Standing) (now : Int) (action : Action) (actor : String) :
    Option Refusal :=
  if st.locked then some .locked
  else (m.outOfScope? actor).or (m.refusalInScope? st now action)

variable {m : Minting}

theorem newRecord_eq (plain : m.rules.IsPlain) (id born : Int) :
    Registry.newRecord id born m = m.recordAt id born (.initial m.rules) := by
  have uses : m.rules.maxUses = .integer m.rules.maxUses.value := plain.maxUses
  unfold recordAt Standing.initial Registry.newRecord
  rw [← uses]

theorem outOfScope?_recordAt (id born : Int) (st : Standing) (actor : String) :
    (m.recordAt id born st).outOfScope? m.rules actor = .ok (m.outOfScope? actor) := by
  unfold Record.outOfScope? outOfScope?
  by_cases list : m.rules.hasScope .list = true
  · rw [if_pos list, if_pos list]
    rfl
  rw [if_neg list, if_neg list]
  by_cases only : m.rules.hasScope .creatorOnly = true
  · rw [if_pos only, if_pos only]
    have same : (m.recordAt id born st).creator = .text actor ↔ m.creator = actor := by
      simp [recordAt, Registry.newRecord]
    simp only [same]
    rfl
  · rw [if_neg only, if_neg only]
    rfl

theorem refusalInScope?_recordAt (plain : m.rules.IsPlain) (id born : Int) (st : Standing)
    (now : Int) (action : Action) :
    (m.recordAt id born st).refusalInScope? m.rules now action =
      .ok (m.refusalInScope? st now action) := by
  have uses : (m.recordAt id born st).usesRemaining = .integer st.uses := rfl
  unfold Record.refusalInScope? refusalInScope?
  rw [plain.hasExpired_eq]
  simp only [bind, Except.bind, pure, Except.pure]
  cases m.rules.isOver now with
  | true => rfl
  | false =>
    cases m.rules.forbids action with
    | true => rfl
    | false =>
      cases m.rules.limitsUses with
      | false => rfl
      | true =>
        rw [uses, Document.isAtMost_integer]
        rfl

/-- The verdict on a request is that of the standing. -/
theorem refusal?_recordAt (plain : m.rules.IsPlain) (id born : Int) (st : Standing) (now : Int)
    (action : Action) (actor : String) :
    (m.recordAt id born st).refusal? now action actor = .ok (m.refusal? st now action actor) := by
  have locked : (m.recordAt id born st).locked.isTrue = st.locked := rfl
  have rules : (m.recordAt id born st).compactRules = .ok m.rules := rfl
  unfold Record.refusal? refusal?
  rw [locked, rules]
  cases st.locked with
  | true => rfl
  | false =>
    simp only [bind, Except.bind, outOfScope?_recordAt]
    cases m.outOfScope? actor with
    | some why => rfl
    | none => exact refusalInScope?_recordAt plain id born st now action

/-- The record after a verdict is that of the standing after it. -/
theorem after_recordAt (id born : Int) (st : Standing) (refusal : Option Refusal) :
    (m.recordAt id born st).after refusal = .ok (m.recordAt id born (st.after m.rules refusal)) := by
  cases refusal with
  | none =>
    have rules : (m.recordAt id born st).compactRules = .ok m.rules := rfl
    unfold Record.after Standing.after
    rw [rules]
    simp only [bind, Except.bind]
    cases m.rules.limitsUses <;> rfl
  | some why =>
    cases why with
    | forbidden action legacy locks => cases locks <;> rfl
    | _ => rfl

end Minting

/-! ## The kinds of verdicts -/

namespace Minting

/-- Whether a request is one by an actor in scope, before the expiry, for a forbidden action. -/
def violates (m : Minting) (now : Int) (req : Request) : Bool :=
  (m.outOfScope? req.actor).isNone && !m.rules.isOver now && m.rules.forbids req.action

/-- The verdicts that a request can get, each with what it tells of the standing. -/
inductive Ruling (m : Minting) (st : Standing) (now : Int) (req : Request) : Option Refusal → Prop
  | allowed (unlocked : st.locked = false) (fine : m.violates now req = false)
    (scope : m.outOfScope? req.actor = none)
    (past : m.rules.isOver now = false) (permitted : m.rules.forbids req.action = false)
    (budget : m.rules.limitsUses = true → 0 < st.uses) : Ruling m st now req none
  | forbidden (unlocked : st.locked = false) (violates : m.violates now req = true) :
    Ruling m st now req
      (some (.forbidden req.action m.rules.isLegacy m.rules.lockOnViolation.isTrue))
  | locked (locked : st.locked = true) : Ruling m st now req (some .locked)
  | refused (why : Refusal) (unlocked : st.locked = false) (fine : m.violates now req = false)
    (other : why.isForbidden = false) (why_ne : why ≠ .locked)
    (broken : m.outOfScope? req.actor ≠ none ∨ m.rules.isOver now = true ∨
      m.rules.limitsUses = true ∧ st.uses ≤ 0) : Ruling m st now req (some why)

theorem isForbidden_of_outOfScope? {m : Minting} {actor : String} {why : Refusal}
    (out : m.outOfScope? actor = some why) : why.isForbidden = false ∧ why ≠ .locked := by
  unfold outOfScope? at out
  split_ifs at out <;> cases out <;> simp [Refusal.isForbidden]

/-- Every verdict is one of these. -/
theorem ruling (m : Minting) (st : Standing) (now : Int) (req : Request) :
    Ruling m st now req (m.refusal? st now req.action req.actor) := by
  unfold refusal? refusalInScope?
  cases lock : st.locked with
  | true => exact .locked lock
  | false =>
    rw [if_neg Bool.false_ne_true]
    cases out : m.outOfScope? req.actor with
    | some why =>
      obtain ⟨other, why_ne⟩ := isForbidden_of_outOfScope? out
      exact .refused why lock (by simp [violates, out]) other why_ne (.inl (by simp [out]))
    | none =>
      rw [Option.none_or]
      cases past : m.rules.isOver now with
      | true =>
        exact .refused .expired lock (by simp [violates, past]) rfl (by simp) (.inr (.inl past))
      | false =>
        rw [if_neg Bool.false_ne_true]
        cases forbids : m.rules.forbids req.action with
        | true => exact .forbidden lock (by simp [violates, out, past, forbids])
        | false =>
          rw [if_neg Bool.false_ne_true]
          have fine : m.violates now req = false := by simp [violates, forbids]
          by_cases spent : (m.rules.limitsUses && decide (st.uses ≤ 0)) = true
          · rw [if_pos spent]
            exact .refused .usedUp lock fine rfl (by simp) (.inr (.inr (by simpa using spent)))
          · rw [if_neg spent]
            exact .allowed lock fine out past forbids (by simpa using spent)

/-- What allows a request. -/
theorem refusal?_eq_none_iff (m : Minting) (st : Standing) (now : Int) (action : Action)
    (actor : String) :
    m.refusal? st now action actor = none ↔
      st.locked = false ∧ m.outOfScope? actor = none ∧ m.rules.isOver now = false ∧
        m.rules.forbids action = false ∧ (m.rules.limitsUses = true → 0 < st.uses) := by
  unfold refusal? refusalInScope?
  cases st.locked with
  | true => simp
  | false =>
    cases m.outOfScope? actor with
    | some why => simp
    | none =>
      cases m.rules.isOver now with
      | true => simp
      | false =>
        cases m.rules.forbids action with
        | true => simp
        | false => cases m.rules.limitsUses <;> simp

end Minting

/-! ## Verdicts in a row -/

/-- A request that has been decided: when, what was asked for, and the first rule that it broke. -/
structure Verdict where
  now : Int
  request : Request
  refusal : Option Refusal

namespace Verdict

/-- Whether a request was allowed. -/
def isAllowed (v : Verdict) : Bool := v.refusal.isNone

/-- Whether a request was refused because its action is forbidden. -/
def isForbidden (v : Verdict) : Bool := v.refusal.any Refusal.isForbidden

end Verdict

/-- The verdicts on one object in a row, from its mint on, and the standing behind them. -/
inductive Decided (m : Minting) : Standing → List Verdict → Prop
  | start : Decided m (.initial m.rules) []
  | next {st : Standing} {vs : List Verdict} (earlier : Decided m st vs) (now : Int)
    (req : Request) :
    Decided m (st.after m.rules (m.refusal? st now req.action req.actor))
      (vs ++ [⟨now, req, m.refusal? st now req.action req.actor⟩])

namespace Decided

variable {m : Minting} {st : Standing} {vs : List Verdict}

/-- An object is locked exactly if its rules lock it and there was a violation. -/
theorem locked_eq (decided : Decided m st vs) :
    st.locked = (m.rules.lockOnViolation.isTrue && vs.any fun v => m.violates v.now v.request) := by
  induction decided with
  | start => simp [Standing.initial]
  | @next st vs earlier now req ih =>
    rw [List.any_append, List.any_cons, List.any_nil, Bool.or_false]
    have ruling := m.ruling st now req
    generalize m.refusal? st now req.action req.actor = refusal at ruling ⊢
    cases ruling with
    | allowed unlocked fine => rw [Standing.after_none_locked, fine, Bool.or_false, ih]
    | forbidden unlocked violates =>
      simp only [violates, Bool.or_true, Bool.and_true, Standing.after, unlocked, Bool.or_false]
    | locked locked =>
      have lock : m.rules.lockOnViolation.isTrue = true := by
        rw [ih] at locked
        exact (Bool.and_eq_true_iff.mp locked).1
      have before : (vs.any fun v => m.violates v.now v.request) = true := by
        rw [ih] at locked
        exact (Bool.and_eq_true_iff.mp locked).2
      rw [Standing.after_of_not_isForbidden _ _ rfl, locked, lock, before]
      rfl
    | refused why unlocked fine other =>
      rw [Standing.after_of_not_isForbidden _ _ other, fine, Bool.or_false, ih]

/-- Each allowed request has cost one use, if uses are limited. -/
theorem uses_eq (decided : Decided m st vs) :
    st.uses = m.rules.maxUses.value -
      if m.rules.limitsUses then (vs.countP Verdict.isAllowed : Int) else 0 := by
  induction decided with
  | start => simp [Standing.initial]
  | @next st vs earlier now req ih =>
    rw [List.countP_append, List.countP_singleton]
    cases refusal : m.refusal? st now req.action req.actor with
    | none =>
      unfold Standing.after
      cases limits : m.rules.limitsUses with
      | true =>
        simp only [limits, if_true, Verdict.isAllowed, Option.isNone_none] at ih ⊢
        push_cast
        omega
      | false => simpa [limits] using ih
    | some why =>
      have same : (st.after m.rules (some why)).uses = st.uses := by cases why <;> rfl
      rw [same, ih]
      simp [Verdict.isAllowed]

/-- A limited number of uses is not overdrawn. -/
theorem uses_nonneg (decided : Decided m st vs) (start : 0 ≤ m.rules.maxUses.value) :
    0 ≤ st.uses := by
  induction decided with
  | start => exact start
  | @next st vs earlier now req ih =>
    have ruling := m.ruling st now req
    generalize m.refusal? st now req.action req.actor = refusal at ruling ⊢
    cases ruling with
    | allowed _ _ _ _ _ budget =>
      unfold Standing.after
      by_cases limits : m.rules.limitsUses = true
      · have left := budget limits
        rw [if_pos limits]
        change 0 ≤ st.uses - 1
        omega
      · rw [if_neg limits]
        exact ih
    | forbidden => exact ih
    | locked => exact ih
    | refused why _ _ other =>
      rw [Standing.after_of_not_isForbidden _ _ other]
      exact ih

/-- Each refusal of a forbidden action is one violation. -/
theorem violations_eq (decided : Decided m st vs) :
    st.violations = vs.countP Verdict.isForbidden := by
  induction decided with
  | start => rfl
  | @next st vs earlier now req ih =>
    rw [List.countP_append, List.countP_singleton]
    have ruling := m.ruling st now req
    generalize m.refusal? st now req.action req.actor = refusal at ruling ⊢
    cases ruling with
    | allowed => simpa [Verdict.isForbidden] using ih
    | forbidden =>
      simp only [Standing.after, Verdict.isForbidden, Option.any_some, Refusal.isForbidden, ih,
        if_true]
      push_cast
      rfl
    | locked => simpa [Verdict.isForbidden, Refusal.isForbidden, Standing.after] using ih
    | refused why _ _ other =>
      rw [Standing.after_of_not_isForbidden _ _ other]
      simpa [Verdict.isForbidden, other] using ih

/-- Under rules that lock, either nothing forbidden was requested, or there is one violation and
everything after it was refused because the object was locked. -/
theorem exists_locking (decided : Decided m st vs)
    (locks : m.rules.lockOnViolation.isTrue = true) :
    (st.locked = false ∧ ∀ v ∈ vs, v.isForbidden = false) ∨
      (st.locked = true ∧ ∃ earlier v later, vs = earlier ++ v :: later ∧
        (∀ w ∈ earlier, w.isForbidden = false) ∧ v.isForbidden = true ∧
        ∀ w ∈ later, w.refusal = some .locked) := by
  induction decided with
  | start => exact .inl ⟨rfl, by simp⟩
  | @next st vs earlier now req ih =>
    have ruling := m.ruling st now req
    generalize m.refusal? st now req.action req.actor = refusal at ruling ⊢
    rcases ih with ⟨unlocked, fine⟩ | ⟨locked, before, v, after, rfl, fine, forbidden, shut⟩
    · cases ruling with
      | allowed =>
        refine .inl ⟨by simpa using unlocked, ?_⟩
        simpa [or_imp, forall_and, Verdict.isForbidden] using fine
      | forbidden =>
        refine .inr ⟨by simp [Standing.after, locks], vs, _, [], rfl, fine, rfl, by simp⟩
      | locked locked =>
        rw [unlocked] at locked
        cases locked
      | refused why _ _ other =>
        refine .inl ⟨by rw [Standing.after_of_not_isForbidden _ _ other, unlocked], ?_⟩
        simpa [or_imp, forall_and, Verdict.isForbidden, other] using fine
    · cases ruling with
      | locked =>
        refine .inr ⟨locked, before, v, after ++ [⟨now, req, some .locked⟩], by simp, fine,
          forbidden, ?_⟩
        simpa [or_imp, forall_and] using shut
      | allowed unlocked =>
        rw [locked] at unlocked
        cases unlocked
      | forbidden unlocked =>
        rw [locked] at unlocked
        cases unlocked
      | refused _ unlocked =>
        rw [locked] at unlocked
        cases unlocked

/-- An object is locked exactly if its rules lock it and something forbidden was refused. -/
theorem locked_eq_countP (decided : Decided m st vs) :
    st.locked = (m.rules.lockOnViolation.isTrue && decide (0 < vs.countP Verdict.isForbidden)) := by
  cases locks : m.rules.lockOnViolation.isTrue with
  | false => rw [decided.locked_eq, locks, Bool.false_and, Bool.false_and]
  | true =>
    rcases decided.exists_locking locks with
      ⟨unlocked, fine⟩ | ⟨locked, before, v, after, rfl, -, forbidden, -⟩
    · rw [unlocked, List.countP_eq_zero.mpr fun v mem => by simp [fine v mem]]
      rfl
    · have some : 0 < (before ++ v :: after).countP Verdict.isForbidden :=
        List.countP_pos_iff.mpr ⟨v, by simp, forbidden⟩
      rw [locked, decide_eq_true some, Bool.true_and]

/-- An action that was refused as forbidden is one that rules can forbid. -/
theorem forbids_of_mem (decided : Decided m st vs) {v : Verdict} (mem : v ∈ vs) {action : Action}
    {legacy locks : Bool} (refused : v.refusal = some (.forbidden action legacy locks)) :
    m.rules.forbids action = true := by
  induction decided with
  | start => cases mem
  | @next st vs earlier now req ih =>
    rcases List.mem_append.mp mem with before | last
    · exact ih before
    · have ruling := m.ruling st now req
      rw [List.mem_singleton.mp last] at refused
      replace refused : m.refusal? st now req.action req.actor = _ := refused
      rw [refused] at ruling
      cases ruling with
      | forbidden _ violates => exact (Bool.and_eq_true_iff.mp violates).2
      | refused _ _ _ other => cases other

end Decided

end RuleBound
