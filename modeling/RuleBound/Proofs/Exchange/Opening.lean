import RuleBound.Proofs.Exchange.Store
import RuleBound.Proofs.Registry.Run
import RuleBound.Exchange.Access

/-!
Where the fault of opening sealed content comes from. Of all that an access does, only opening the
content ends in that fault: not reading the link, not the registry, not the metadata, and not the
delays between attempts at the store. Whether the store itself does is up to the store.
-/

namespace RuleBound

/-- Whether a result is anything but the fault of opening sealed content. -/
def Unopened {α : Type} (r : Except Fault α) : Prop := ∀ f, r ≠ .error (.sealed f)

section Unopened

variable {α β : Type}

@[simp] theorem unopened_ok (a : α) : Unopened (.ok a : Except Fault α) := by
  simp [Unopened]

@[simp] theorem unopened_pure (a : α) : Unopened (pure a : Except Fault α) := unopened_ok a

theorem unopened_error_iff (f : Fault) :
    Unopened (.error f : Except Fault α) ↔ ∀ g, f ≠ .sealed g := by
  simp [Unopened]

theorem unopened_error {f : Fault} (other : ∀ g, f ≠ .sealed g) :
    Unopened (.error f : Except Fault α) :=
  (unopened_error_iff f).mpr other

theorem unopened_faultShowing {f : Fault} (other : ∀ g, f ≠ .sealed g) (d : Document) :
    Unopened (.error (d.faultShowing f) : Except Fault α) :=
  unopened_error (Document.faultShowing_of (fun f => ∀ g, f ≠ .sealed g) other d (by simp))

/-- A fault that ends one computation and not by opening does not end another by opening. -/
theorem Unopened.fails {x : Except Fault α} (unopened : Unopened x) {f : Fault}
    (failed : x = .error f) : Unopened (.error f : Except Fault β) := by
  intro g same
  cases same
  exact unopened g failed

theorem unopened_bind {x : Except Fault α} {f : α → Except Fault β} (first : Unopened x)
    (second : ∀ a, Unopened (f a)) : Unopened (x >>= f) := by
  cases x with
  | ok a => exact second a
  | error e => exact first.fails rfl

theorem unopened_map {x : Except Fault α} {f : α → β} (first : Unopened x) : Unopened (x.map f) := by
  cases x with
  | ok a => exact unopened_ok _
  | error e => exact first.fails rfl

theorem unopened_mapM {f : α → Except Fault β} (each : ∀ a, Unopened (f a)) (items : List α) :
    Unopened (items.mapM f) := by
  induction items with
  | nil => exact unopened_ok []
  | cons a items ih =>
    rw [List.mapM_cons]
    exact unopened_bind (each a) fun b => unopened_bind ih fun bs => unopened_ok _

end Unopened

/-! ## Numbers and documents -/

namespace Document

theorem unopened_toNumber (d : Document) : Unopened d.toNumber := by
  unfold toNumber
  split <;> simp [unopened_error_iff]

theorem Numeric.unopened_toDouble (n : Numeric) : Unopened n.toDouble := by
  unfold toDouble
  split
  · simp
  · split <;> simp [unopened_error_iff]

theorem Numeric.unopened_combine (exact : Int → Int → Int)
    (rounded : Binary64 → Binary64 → Binary64) (a b : Numeric) :
    Unopened (combine exact rounded a b) := by
  unfold combine
  split
  · simp
  · exact unopened_bind a.unopened_toDouble fun _ =>
      unopened_bind b.unopened_toDouble fun _ => unopened_ok _

theorem Numeric.unopened_twoTo (n : Numeric) : Unopened n.twoTo := by
  unfold twoTo
  split
  · simp
  · refine unopened_bind n.unopened_toDouble fun x => ?_
    split
    · simp
    · exact unopened_error (by simp)

theorem unopened_calculate {operation : Numeric → Numeric → Except Fault Numeric}
    (each : ∀ a b, Unopened (operation a b)) (a b : Document) :
    Unopened (calculate operation a b) :=
  unopened_bind a.unopened_toNumber fun _ => unopened_bind b.unopened_toNumber fun _ =>
    unopened_bind (each _ _) fun _ => unopened_ok _

theorem unopened_plus (a b : Document) : Unopened (a.plus b) :=
  unopened_calculate (Numeric.unopened_combine _ _) a b

theorem unopened_minus (a b : Document) : Unopened (a.minus b) :=
  unopened_calculate (Numeric.unopened_combine _ _) a b

theorem unopened_times (a b : Document) : Unopened (a.times b) :=
  unopened_calculate (Numeric.unopened_combine _ _) a b

theorem unopened_isBelow (a b : Document) : Unopened (a.isBelow b) :=
  unopened_bind a.unopened_toNumber fun _ => unopened_bind b.unopened_toNumber fun _ =>
    unopened_ok _

theorem unopened_isAtMost (a b : Document) : Unopened (a.isAtMost b) :=
  unopened_bind a.unopened_toNumber fun _ => unopened_bind b.unopened_toNumber fun _ =>
    unopened_ok _

theorem unopened_canonicalDigest (d : Document) : Unopened d.canonicalDigest := by
  refine unopened_map ?_
  unfold canonical
  split
  · simp [unopened_error_iff]
  · split
    · simp [unopened_error_iff]
    · extract_lets text
      split <;> simp [unopened_error_iff]

theorem unopened_toBytes (d : Document) : Unopened d.toBytes := by
  have byte : ∀ item : Document, Unopened item.toByte := by
    intro item
    unfold toByte
    split
    · simp
    · split <;> simp [unopened_error_iff]
    · simp [unopened_error_iff]
  unfold toBytes
  split
  · simp
  · split
    · simp [unopened_error_iff]
    · split <;> simp [unopened_error_iff]
  · exact unopened_mapM byte _
  · simp
  · simp [unopened_error_iff]

end Document

/-! ## Delays -/

theorem RetryPolicy.unopened_delayAfter (p : RetryPolicy) (share attempt : Document) :
    Unopened (p.delayAfter share attempt) := by
  have scaled : Unopened (p.scaled attempt) :=
    unopened_bind (Document.unopened_toNumber _) fun _ =>
      unopened_bind (Document.Numeric.unopened_combine _ _ _ _) fun _ =>
        unopened_bind (Document.Numeric.unopened_twoTo _) fun _ =>
          unopened_bind (Document.unopened_toNumber _) fun _ =>
            unopened_bind (Document.Numeric.unopened_combine _ _ _ _) fun _ => unopened_ok _
  have random : ∀ bound, Unopened (randomUpTo share bound) := fun bound =>
    unopened_bind (Document.unopened_minus _ _) fun _ =>
      unopened_bind (Document.unopened_times _ _) fun _ => Document.unopened_plus _ _
  refine unopened_bind ?_ fun delay => ?_
  · unfold growth
    split
    · simp
    · exact Document.unopened_times _ _
    · exact scaled
    · exact unopened_bind scaled fun _ => unopened_bind (Document.unopened_times _ _) fun _ =>
        unopened_bind (random _) fun _ => Document.unopened_plus _ _
  · exact unopened_bind (Document.unopened_isBelow _ _) fun _ => unopened_ok _

theorem RetryPolicy.CannotWait.ne_sealed {p : RetryPolicy} {share : Document} {f : Fault}
    (cannot : p.CannotWait share f) (g : OpenFault) : f ≠ .sealed g := by
  obtain ⟨attempt, spent, failed⟩ := cannot
  have unopened := unopened_bind (p.unopened_delayAfter share (.integer attempt)) fun delay =>
    unopened_bind (Document.unopened_plus spent delay) fun total => unopened_ok (delay, total)
  exact (unopened_error_iff f).mp (failed ▸ unopened) g

/-- A store operation does not end in the fault of opening unless an attempt at it does. -/
theorem Task.unopened_throughStore {σ α : Type} {s s' : Session σ} {c : Client} {what : String}
    {operation : σ → Reply σ α} (each : ∀ st, Unopened (operation st).result) {r : Except Fault α}
    (ends : (throughStore c what operation).Ends s r s') : Unopened r := by
  obtain ⟨-, -, ⟨st, -, -, ended⟩ | ⟨store, f, count, g, failed, same⟩⟩ := ends_throughStore ends
  · have tried := each st
    generalize (operation st).result = attempt at ended tried
    cases ended with
    | same => exact tried
    | exhausted => simp [unopened_error_iff]
    | unwaited f cannot => exact unopened_error cannot.ne_sealed
  · subst failed
    rcases same with rfl | ⟨attempts, last, rfl⟩
    · unfold RetryPolicy.attemptCount at count
      split at count
      · cases count
      · cases count
      · cases count
        simp [unopened_error_iff]
    · simp [unopened_error_iff]

/-! ## Links -/

theorem Web.unopened_split (text : String) : Unopened (Web.split text) := by
  have host : ∀ cs, Unopened (Web.splitHost cs) := by
    intro cs
    unfold Web.splitHost
    split
    · extract_lets host
      split <;> simp [unopened_error_iff]
    · simp
  unfold Web.split
  extract_lets cs kept
  refine unopened_bind (host _) fun parts => ?_
  dsimp only
  split
  · exact unopened_error (by simp)
  · exact unopened_ok _

theorem CapabilityLink.unopened_objectIdOf (segment : List Char) :
    Unopened (CapabilityLink.objectIdOf segment) := by
  unfold CapabilityLink.objectIdOf
  split
  · simp
  · split <;> simp [unopened_error_iff]

theorem CapabilityLink.unopened_parse (d : Document) : Unopened (CapabilityLink.parse d) := by
  have text : ∀ s, Unopened (CapabilityLink.parseText s) := by
    intro s
    unfold CapabilityLink.parseText
    extract_lets cs base fragment rest
    split
    · exact unopened_error (by simp)
    refine unopened_bind (Web.unopened_split _) fun a => ?_
    dsimp only
    split
    · exact unopened_error (by simp)
    refine unopened_bind (CapabilityLink.unopened_objectIdOf _) fun id? => ?_
    split
    · exact unopened_error (by simp)
    · split
      · exact unopened_error (by simp)
      · exact unopened_ok _
  unfold CapabilityLink.parse
  split
  · exact text _
  · exact unopened_error (by simp)

/-! ## Requests -/

theorem Action.unopened_ofDocument (d : Document) : Unopened (Action.ofDocument d) := by
  unfold Action.ofDocument
  split
  · split <;> simp [unopened_error_iff]
  · split
    · exact unopened_ok _
    · exact unopened_faultShowing (by simp) _
  · exact unopened_faultShowing (by simp) _

theorem Request.unopened_check (action : Document) (context : Given Bytes) (actor : Document) :
    Unopened (Request.check action context actor) := by
  refine unopened_bind (Action.unopened_ofDocument action) fun a => ?_
  cases context with
  | other d => exact unopened_error (by simp)
  | member context =>
    dsimp only
    split
    · exact unopened_error (by simp)
    · exact unopened_ok _

namespace Record

variable (r : Record)

theorem unopened_compactRules : Unopened r.compactRules := by
  unfold compactRules
  split <;> simp [unopened_error_iff]

theorem unopened_refusal? (now : Int) (action : Action) (actor : String) :
    Unopened (r.refusal? now action actor) := by
  have listed : Unopened (r.lists actor) := by
    unfold lists
    split
    · exact unopened_ok _
    · unfold Document.holds
      split <;> simp [unopened_error_iff]
  have scope (rules : CompactRules) : Unopened (r.outOfScope? rules actor) := by
    unfold outOfScope?
    split
    · exact unopened_bind listed fun _ => unopened_ok _
    · split <;> exact unopened_ok _
  have rest (rules : CompactRules) : Unopened (r.refusalInScope? rules now action) := by
    have expired : Unopened (rules.hasExpired (.integer now)) := by
      unfold CompactRules.hasExpired
      split
      · exact unopened_ok _
      · exact Document.unopened_isAtMost _ _
    refine unopened_bind expired fun past => ?_
    split
    · exact unopened_ok _
    split
    · exact unopened_ok _
    split
    · exact unopened_bind (Document.unopened_isAtMost _ _) fun _ => unopened_ok _
    · exact unopened_ok _
  unfold refusal?
  split
  · exact unopened_ok _
  · refine unopened_bind r.unopened_compactRules fun rules =>
      unopened_bind (scope rules) fun out => ?_
    split
    · exact unopened_ok _
    · exact rest rules

theorem unopened_after (refusal : Option Refusal) : Unopened (r.after refusal) := by
  cases refusal with
  | none =>
    refine unopened_bind r.unopened_compactRules fun rules => ?_
    split
    · exact unopened_bind (Document.unopened_minus _ _) fun _ => unopened_ok _
    · exact unopened_ok _
  | some why =>
    cases why with
    | forbidden action legacy locks =>
      exact unopened_bind (Document.unopened_plus _ _) fun _ => unopened_ok _
    | _ => exact unopened_ok _

end Record

theorem EventLog.unopened_append (log : EventLog) (stream : Document) (event : Event) :
    Unopened (log.append stream event).2 := by
  have digested : Unopened event.digest := event.toDocument.unopened_canonicalDigest
  unfold append
  split
  · exact unopened_error (by simp)
  · generalize event.digest = digest at digested
    cases digest with
    | ok reference => exact unopened_ok _
    | error f => exact digested.fails rfl

namespace Registry

variable (reg : Registry)

theorem unopened_find (id : Document) : Unopened (reg.find id) := by
  unfold find
  split
  · split
    · exact unopened_ok _
    · exact unopened_faultShowing (by simp) _
  · exact unopened_faultShowing (by simp) _

theorem unopened_emit (id : Document) (event : Event) : Unopened (reg.emit id event).2 := by
  have stream : Unopened (streamOf id) := by
    unfold streamOf Document.spelled
    split <;> simp [unopened_error_iff]
  unfold emit
  generalize streamOf id = name at stream
  cases name with
  | error f => exact stream.fails rfl
  | ok name => exact reg.log.unopened_append (.text name) event

theorem unopened_request (s : Surroundings) (d : Draws) (id action : Document)
    (context : Given Bytes) (actor : Document) :
    Unopened (reg.request s d id action context actor).2.2 := by
  have checked := Request.unopened_check action context actor
  unfold request
  generalize Request.check action context actor = check at checked
  cases check with
  | error f => exact checked.fails rfl
  | ok req =>
    have decided : Unopened (reg.verdict s.now id req) :=
      unopened_bind (reg.unopened_find id) fun ⟨key, r⟩ =>
        unopened_bind (r.unopened_refusal? _ _ _) fun refusal =>
          unopened_bind (r.unopened_after refusal) fun _ => unopened_ok _
    simp only [requestChecked]
    generalize reg.verdict s.now id req = verdict at decided
    cases verdict with
    | error f => exact decided.fails rfl
    | ok v =>
      obtain ⟨key, refusal, r⟩ := v
      simp only [conclude_snd]
      exact unopened_map (unopened_emit _ _ _)

end Registry

/-! ## Metadata and content -/

theorem Metadata.unopened_ofDocument (d : Document) : Unopened (Metadata.ofDocument d) := by
  unfold Metadata.ofDocument
  split <;> simp [unopened_error_iff]

theorem Client.unopened_contextBytes (context : Given Bytes) :
    Unopened (Client.contextBytes context) := by
  cases context with
  | member bytes => exact unopened_ok _
  | other d => exact d.unopened_toBytes

theorem unopened_documentOfBytes (pointer : Document) (content : Bytes) :
    Unopened (documentOfBytes pointer content) := by
  unfold documentOfBytes
  extract_lets fault
  split
  · exact unopened_error (by simp [fault])
  · split
    · exact unopened_ok _
    · exact unopened_error (by simp [fault])

end RuleBound
