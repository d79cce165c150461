import RuleBound.Proofs.Registry.Keyed
import RuleBound.Proofs.Registry.Lasting

/-!
Objects do not interfere. A verdict on an object reads the record of the object and the clock, and
nothing that requests on other objects move. So a run from which these requests are erased passes
the same verdicts on the object and leaves the same record of it; what differs between the two runs
is the log and how much has been drawn.
-/

namespace RuleBound.Registry

/-! ## Erasing requests -/

/-- Whether a step is a request that names an object. -/
def Step.asks (id : Int) (x : Step) : Bool :=
  match x.call with
  | .request named _ _ _ => decide (named = .integer id)
  | _ => false

/-- Whether a step stays when the requests that do not name an object are erased. -/
def Step.stays (id : Int) (x : Step) : Bool :=
  match x.call with
  | .request .. => x.asks id
  | _ => true

/-- What an answer tells of a verdict: whether it allows and for what reason it does not. -/
def Answer.told? : Answer → Option (Bool × String)
  | .decided (.ok o) => some (o.allowed, o.reason)
  | _ => none

/-- What the requests on an object are told in a run, one after the other; nothing if they fail. -/
def State.toldOn (id : Int) : State → List Step → List (Option (Bool × String))
  | _, [] => []
  | st, x :: xs =>
    (if x.asks id then [(st.step x).2.told?] else []) ++ State.toldOn id (st.step x).1 xs

theorem Step.exists_of_asks {id : Int} {x : Step} (asks : x.asks id = true) :
    ∃ s action context actor, x = ⟨s, .request (.integer id) action context actor⟩ := by
  obtain ⟨s, call⟩ := x
  cases call with
  | request named action context actor =>
    have named' : named = .integer id := of_decide_eq_true asks
    exact ⟨s, action, context, actor, by rw [named']⟩
  | _ => cases asks

/-- A step that is erased brings nothing about, or a verdict on another object. -/
theorem State.objectId_ne_of_erased {id : Int} {st : State} {x : Step} (erased : x.stays id = false)
    {d : Deed} (deed : st.deed? x = some d) :
    d.objectId ≠ id ∧ ∃ req refusal, d.act = .verdict req refusal := by
  obtain ⟨s, call⟩ := x
  cases call with
  | request named action context actor =>
    have other : named ≠ .integer id := of_decide_eq_false erased
    cases checked : Request.check action context actor with
    | error f =>
      simp only [deed?, checked] at deed
      cases deed
    | ok req =>
      cases decided : st.registry.verdict s.now named req with
      | error f =>
        simp only [deed?, checked, decided] at deed
        cases deed
      | ok v =>
        obtain ⟨key, refusal, r'⟩ := v
        obtain ⟨-, named', -⟩ := exists_of_verdict decided
        simp only [deed?, checked, decided] at deed
        cases deed
        refine ⟨fun same => other ?_, req, refusal, rfl⟩
        rw [named', ← same]
  | _ => cases erased

/-! ## Registries that are alike for an object -/

/-- Whether two registries are alike for an object: both give the same identifier next and have the
same record of the object. -/
structure AlikeOn (id : Int) (reg reg' : Registry) : Prop where
  nextId : reg.nextId = reg'.nextId
  record : reg.record? id = reg'.record? id

theorem AlikeOn.refl (id : Int) (reg : Registry) : AlikeOn id reg reg := ⟨rfl, rfl⟩

/-- What a deed leaves for an object depends on what there was for it, not on the event of the
deed. -/
theorem AlikeOn.happens {id : Int} {reg₁ reg₂ reg₁' reg₂' : Registry}
    (alike : AlikeOn id reg₁ reg₂) {d₁ d₂ : Deed} (first : Happens reg₁ d₁ reg₁')
    (second : Happens reg₂ d₂ reg₂') (on : d₁.objectId = d₂.objectId) (now : d₁.now = d₂.now)
    (act : d₁.act = d₂.act) : AlikeOn id reg₁' reg₂' := by
  have elsewhere : d₁.objectId ≠ id → reg₁'.record? id = reg₂'.record? id := fun other => by
    rw [first.record?_of_ne other, second.record?_of_ne (on ▸ other), alike.record]
  cases kind : d₁.act with
  | mint m =>
    obtain ⟨-, next₁, found₁, -⟩ := first.chronicle_of_mint kind
    obtain ⟨-, next₂, found₂, -⟩ := second.chronicle_of_mint (act ▸ kind)
    refine ⟨by rw [next₁, next₂, alike.nextId], ?_⟩
    by_cases here : d₁.objectId = id
    · rw [← here, found₁, on, found₂, now]
    · exact elsewhere here
  | verdict req refusal =>
    obtain ⟨next₁, r₁, r₁', found₁, after₁, -, left₁⟩ := first.record?_of_verdict kind
    obtain ⟨next₂, r₂, r₂', found₂, after₂, -, left₂⟩ := second.record?_of_verdict (act ▸ kind)
    refine ⟨by rw [next₁, next₂, alike.nextId], ?_⟩
    by_cases here : d₁.objectId = id
    · subst here
      have same : r₁ = r₂ := by
        rw [← on] at found₂
        exact Option.some.inj (found₁.symm.trans (alike.record.trans found₂))
      rw [same, after₂] at after₁
      cases after₁
      rw [left₁, on, left₂]
    · exact elsewhere here

/-- A step that is erased leaves a registry alike for the object. -/
theorem AlikeOn.of_erased {id : Int} {st : State} {reg' : Registry}
    (alike : AlikeOn id st.registry reg') {x : Step} (erased : x.stays id = false) :
    AlikeOn id (st.step x).1.registry reg' := by
  cases deed : st.deed? x with
  | none =>
    rw [State.step_registry_of_no_deed deed]
    exact alike
  | some d =>
    obtain ⟨other, req, refusal, act⟩ := State.objectId_ne_of_erased erased deed
    have happens := State.happens_of_deed? deed
    exact ⟨(happens.record?_of_verdict act).1.trans alike.nextId,
      (happens.record?_of_ne other).trans alike.record⟩

/-! ## Steps that stay -/

/-- A request on an object brings the same about on alike registries: nothing, or one verdict on one
record. -/
theorem AlikeOn.deed?_of_asks {id : Int} {st st' : State} (alike : AlikeOn id st.registry st'.registry)
    (s : Surroundings) (action : Document) (context : Given Bytes) (actor : Document) :
    let x : Step := ⟨s, .request (.integer id) action context actor⟩
    (st.deed? x = none ∧ st'.deed? x = none) ∨ ∃ r req refusal,
      st.deed? x = some ⟨id, s.now, .verdict req refusal,
        verdictEvent r req refusal (s.correlate st.draws).1 (s.stamp (s.correlate st.draws).2)⟩ ∧
      st'.deed? x = some ⟨id, s.now, .verdict req refusal,
        verdictEvent r req refusal (s.correlate st'.draws).1
          (s.stamp (s.correlate st'.draws).2)⟩ := by
  intro x
  cases checked : Request.check action context actor with
  | error f =>
    refine .inl ⟨?_, ?_⟩ <;> simp only [x, State.deed?, checked]
  | ok req =>
    have same : st.registry.verdict s.now (.integer id) req =
        st'.registry.verdict s.now (.integer id) req := by
      unfold Registry.verdict find
      simp only [alike.record]
    cases decided : st.registry.verdict s.now (.integer id) req with
    | error f =>
      refine .inl ⟨?_, ?_⟩ <;> simp only [x, State.deed?, checked, ← same, decided]
    | ok v =>
      obtain ⟨key, refusal, r'⟩ := v
      obtain ⟨r, named, -⟩ := exists_of_verdict decided
      cases named
      refine .inr ⟨r', req, refusal, ?_, ?_⟩ <;> simp only [x, State.deed?, checked, ← same, decided]

/-- A step that stays brings the same about on alike registries, but for the event. -/
theorem AlikeOn.deed?_of_stays {id : Int} {st st' : State}
    (alike : AlikeOn id st.registry st'.registry) {x : Step} (stays : x.stays id = true) :
    (st.deed? x = none ∧ st'.deed? x = none) ∨ ∃ d d', st.deed? x = some d ∧ st'.deed? x = some d' ∧
      d.objectId = d'.objectId ∧ d.now = d'.now ∧ d.act = d'.act := by
  obtain ⟨s, call⟩ := x
  cases call with
  | create unchecked =>
    cases checked : unchecked.check with
    | error f =>
      refine .inl ⟨?_, ?_⟩ <;> simp only [State.deed?, checked]
    | ok m =>
      exact .inr ⟨_, _, st.deed?_create s checked, st'.deed?_create s checked, alike.nextId, rfl, rfl⟩
  | request named action context actor =>
    have named' : named = .integer id := of_decide_eq_true stays
    subst named'
    rcases alike.deed?_of_asks s action context actor with idle | ⟨r, req, refusal, deed, deed'⟩
    · exact .inl idle
    · exact .inr ⟨_, _, deed, deed', rfl, rfl, rfl⟩
  | _ => exact .inl ⟨rfl, rfl⟩

/-- The verdict of a deed does not depend on the event of the deed. -/
theorem verdicts_deedsOn_congr (id : Int) {d d' : Deed} (on : d.objectId = d'.objectId)
    (now : d.now = d'.now) (act : d.act = d'.act) :
    verdicts (deedsOn id [d]) = verdicts (deedsOn id [d']) := by
  have same : d.verdict? = d'.verdict? := by
    unfold Deed.verdict?
    rw [now, act]
  by_cases here : d.objectId = id
  · rw [deedsOn_of_eq here, deedsOn_of_eq (on ▸ here)]
    unfold verdicts
    rw [List.filterMap_cons, List.filterMap_cons, same]
  · rw [deedsOn_of_ne here, deedsOn_of_ne (on ▸ here)]

/-- A step that stays leaves alike registries alike, and passes the same verdicts. -/
theorem AlikeOn.step {id : Int} {st st' : State} (alike : AlikeOn id st.registry st'.registry)
    {x : Step} (stays : x.stays id = true) :
    AlikeOn id (st.step x).1.registry (st'.step x).1.registry ∧
      verdicts (deedsOn id (st.deed? x).toList) = verdicts (deedsOn id (st'.deed? x).toList) := by
  rcases alike.deed?_of_stays stays with ⟨none, none'⟩ | ⟨d, d', deed, deed', on, now, act⟩
  · rw [State.step_registry_of_no_deed none, State.step_registry_of_no_deed none', none, none']
    exact ⟨alike, rfl⟩
  · rw [deed, deed']
    exact ⟨alike.happens (State.happens_of_deed? deed) (State.happens_of_deed? deed') on now act,
      verdicts_deedsOn_congr id on now act⟩

/-! ## What a request is told -/

theorem told?_of_no_deed {st : State} {x : Step} (idle : st.deed? x = none) :
    (st.step x).2.told? = none := by
  have stepped := st.stepped x
  rw [idle] at stepped
  generalize (st.step x).1.registry = reg' at stepped
  generalize (st.step x).2 = answer at stepped ⊢
  cases stepped with
  | idle _ undecided =>
    unfold Answer.told?
    split
    · exact absurd rfl (undecided _)
    · rfl

/-- A verdict is told exactly if it is recorded. -/
theorem told?_of_verdict {st : State} (keyed : st.registry.IsKeyed) {x : Step} {d : Deed}
    (deed : st.deed? x = some d) {req : Request} {refusal : Option Refusal}
    (act : d.act = .verdict req refusal) :
    (st.step x).2.told? = if d.isRecorded then
      some (refusal.isNone, (refusal.map Refusal.reason).getD "") else none := by
  rcases State.answer_of_verdict deed act (keyed d.objectId) with
    ⟨reference, recorded, -, answer⟩ | ⟨f, unrecorded, answer⟩
  · rw [answer, recorded, if_pos rfl]
    rfl
  · rw [answer, unrecorded, if_neg Bool.false_ne_true]
    rfl

/-- An event can be recorded exactly if its object has a stream and each of its fields a canonical
text. -/
theorem isRecordable_iff_fields (id : Int) (event : Event) :
    isRecordable id event = true ↔ Document.IsShort (.integer id) ∧
      ∀ f ∈ event.fields, ∃ text, f.2.canonical = .ok text := by
  rw [isRecordable_iff, Event.exact_toDocument_iff, Event.short_toDocument_iff,
    Event.whole_toDocument_iff]
  simp only [Document.canonical_eq_ok_iff, exists_and_left, exists_eq, and_true]
  constructor
  · rintro ⟨stream, exact, short, whole⟩
    exact ⟨stream, fun f mem => ⟨exact f mem, short f mem, whole f mem⟩⟩
  · rintro ⟨stream, fields⟩
    exact ⟨stream, fun f mem => (fields f mem).1, fun f mem => (fields f mem).2.1,
      fun f mem => (fields f mem).2.2⟩

/-- Whether a verdict can be recorded does not depend on what was drawn before. -/
theorem isRecordable_verdictEvent_congr (id : Int) (r : Record) (req : Request)
    (refusal : Option Refusal) {s : Surroundings} (written : s.IsWritten) (d d' : Draws) :
    isRecordable id (verdictEvent r req refusal (s.correlate d).1 (s.stamp (s.correlate d).2)) =
      isRecordable id
        (verdictEvent r req refusal (s.correlate d').1 (s.stamp (s.correlate d').2)) := by
  have drawn : ∀ n, ∃ text, (Document.text (s.source.eventId n)).canonical = .ok text :=
    fun n => Document.exists_canonical_text (written.eventId n)
  have correlated : ∀ d, (∃ text, (s.correlate d).1.canonical = .ok text) ↔ s.IsTellable :=
    Surroundings.exists_canonical_correlate_iff written
  rw [Bool.eq_iff_iff, isRecordable_iff_fields, isRecordable_iff_fields]
  simp only [Event.fields, verdictEvent, Surroundings.stamp, List.forall_mem_append,
    List.forall_mem_cons, drawn, correlated]

/-- A request is told the same on alike registries. -/
theorem AlikeOn.told?_eq {id : Int} {st st' : State} (alike : AlikeOn id st.registry st'.registry)
    (keyed : st.registry.IsKeyed) (keyed' : st'.registry.IsKeyed) {x : Step}
    (written : x.surroundings.IsWritten) (asks : x.asks id = true) :
    (st.step x).2.told? = (st'.step x).2.told? := by
  obtain ⟨s, action, context, actor, rfl⟩ := x.exists_of_asks asks
  rcases alike.deed?_of_asks s action context actor with
    ⟨none, none'⟩ | ⟨r, req, refusal, deed, deed'⟩
  · rw [told?_of_no_deed none, told?_of_no_deed none']
  · rw [told?_of_verdict keyed deed rfl, told?_of_verdict keyed' deed' rfl]
    unfold Deed.isRecorded
    dsimp only
    rw [isRecordable_verdictEvent_congr id r req refusal written st.draws st'.draws]

/-! ## Runs -/

theorem stays_of_asks {id : Int} {x : Step} (asks : x.asks id = true) : x.stays id = true := by
  obtain ⟨s, action, context, actor, rfl⟩ := x.exists_of_asks asks
  exact asks

theorem IsKeyed.step {st : State} (keyed : st.registry.IsKeyed) (x : Step) :
    (st.step x).1.registry.IsKeyed := keyed.run [x]

/-- Erasing the requests that do not name an object from a run leaves the registry alike for the
object, and the verdicts on the object are the same. -/
theorem AlikeOn.run {id : Int} {st st' : State} (alike : AlikeOn id st.registry st'.registry)
    (xs : List Step) :
    AlikeOn id (st.run xs).registry (st'.run (xs.filter (Step.stays id))).registry ∧
      st.verdictsOn id xs = st'.verdictsOn id (xs.filter (Step.stays id)) := by
  induction xs generalizing st st' with
  | nil => exact ⟨alike, rfl⟩
  | cons x xs ih =>
    have split : ∀ (u : State) (ys : List Step), u.verdictsOn id (x :: ys) =
        verdicts (deedsOn id (u.deed? x).toList) ++ (u.step x).1.verdictsOn id ys := by
      intro u ys
      unfold State.verdictsOn
      rw [State.deeds, deedsOn_append, verdicts, List.filterMap_append]
      rfl
    rw [split, State.run_cons]
    cases stays : x.stays id with
    | true =>
      obtain ⟨next, verdict⟩ := alike.step stays
      rw [List.filter_cons_of_pos stays, State.run_cons, split, verdict]
      exact ⟨(ih next).1, by rw [(ih next).2]⟩
    | false =>
      have none : verdicts (deedsOn id (st.deed? x).toList) = [] := by
        cases deed : st.deed? x with
        | none => rfl
        | some d =>
          rw [Option.toList_some, deedsOn_of_ne (State.objectId_ne_of_erased stays deed).1]
          rfl
      rw [List.filter_cons_of_neg (by simp [stays]), none, List.nil_append]
      exact ih (alike.of_erased stays)

theorem AlikeOn.toldOn_eq {id : Int} {st st' : State} (alike : AlikeOn id st.registry st'.registry)
    (keyed : st.registry.IsKeyed) (keyed' : st'.registry.IsKeyed) {xs : List Step}
    (written : ∀ x ∈ xs, x.surroundings.IsWritten) :
    st.toldOn id xs = st'.toldOn id (xs.filter (Step.stays id)) := by
  induction xs generalizing st st' with
  | nil => rfl
  | cons x xs ih =>
    rw [List.forall_mem_cons] at written
    cases stays : x.stays id with
    | true =>
      have rest := ih (alike.step stays).1 (keyed.step x) (keyed'.step x) written.2
      rw [List.filter_cons_of_pos stays, State.toldOn, State.toldOn, rest]
      cases asks : x.asks id with
      | true => rw [alike.told?_eq keyed keyed' written.1 asks]
      | false => rfl
    | false =>
      have silent : x.asks id = false := by
        rw [← Bool.not_eq_true]
        intro asks
        rw [stays_of_asks asks] at stays
        cases stays
      have rest := ih (alike.of_erased stays) (keyed.step x) keyed' written.2
      rw [List.filter_cons_of_neg (by simp [stays]), State.toldOn, silent,
        if_neg Bool.false_ne_true, List.nil_append, rest]

/-- Requests on other objects do not show. Whatever is called in a run from an empty registry, erasing
all requests that do not name an object leaves its final record and the verdicts on it, and as long as
whole texts are drawn every request on it is told the same. -/
theorem requests_undisturbed (id : Int) (xs : List Step) :
    let rest := xs.filter (Step.stays id)
    (State.run {} rest).registry.record? id = (State.run {} xs).registry.record? id ∧
      State.verdictsOn {} id rest = State.verdictsOn {} id xs ∧
      ((∀ x ∈ xs, x.surroundings.IsWritten) → State.toldOn id {} rest = State.toldOn id {} xs) := by
  intro rest
  have start : AlikeOn id ({} : State).registry ({} : State).registry := .refl id {}
  obtain ⟨alike, verdicts⟩ := start.run xs
  refine ⟨alike.record.symm, verdicts.symm, fun written => ?_⟩
  exact (start.toldOn_eq isKeyed_empty isKeyed_empty written).symm

/-- Whoever reads the first of two objects that can be used once does not keep others from the
second. -/
theorem requests_undisturbed_twice :
    let s : Surroundings := ⟨0, "", .null, .numbered⟩
    let mint : Step := ⟨s, .create (onceRequest "alice")⟩
    let read (id : Int) : Step :=
      ⟨s, .request (.integer id) (.text "READ") (.member []) (.text "bob")⟩
    State.toldOn 2 {} [mint, mint, read 2] = State.toldOn 2 {} [mint, mint, read 1, read 2] := by
  intro s mint read
  have written : s.IsWritten := Source.isWritten_numbered 0 .null
  have each : ∀ x ∈ [mint, mint, read 1, read 2], x.surroundings.IsWritten := by
    simp only [List.forall_mem_cons]
    exact ⟨written, written, written, written, List.forall_mem_nil _⟩
  have rest : [mint, mint, read 1, read 2].filter (Step.stays 2) = [mint, mint, read 2] := rfl
  have same := (requests_undisturbed 2 [mint, mint, read 1, read 2]).2.2 each
  rw [rest] at same
  exact same

end RuleBound.Registry
