import RuleBound.Proofs.Guard
import RuleBound.Registry.Snapshot

/-!
Why a document is no snapshot. If it cannot be read as one, that is for the types and the values that
it has, and for no reason of the domain; so no request is malformed by a snapshot, and none names an
object that is not there.
-/

namespace RuleBound

variable {α β : Type}

/-- Whether a computation fails for no reason of the domain. -/
abbrev Foreign (x : Except Fault α) : Prop := FailsBy (fun f => f.isDomainFault = false) x

namespace Document

theorem foreign_lookup (d : Document) (name : String) (default : Document) :
    Foreign (d.lookup name default) := by
  unfold lookup
  split
  · exact failsBy_ok _
  · exact failsBy_error rfl

theorem foreign_require (d : Document) (name : String) : Foreign (d.require name) := by
  unfold require
  split
  · split
    · exact failsBy_ok _
    · exact failsBy_error rfl
  · exact failsBy_error rfl

theorem foreign_toItems (d : Document) : Foreign d.toItems := by
  unfold toItems
  split
  · exact failsBy_ok _
  · exact failsBy_ok _
  · exact failsBy_ok _
  · exact failsBy_error rfl

theorem foreign_toInteger (d : Document) : Foreign d.toInteger := by
  unfold toInteger
  split
  · exact failsBy_ok _
  · exact failsBy_ok _
  · split
    · exact failsBy_error rfl
    · exact failsBy_error rfl
    · split
      · exact failsBy_ok _
      · exact failsBy_error rfl
  · split
    · exact failsBy_ok _
    · exact failsBy_error rfl
    · exact failsBy_error rfl
  all_goals exact failsBy_error rfl

theorem foreign_canonicalDigest (d : Document) : Foreign d.canonicalDigest := by
  refine FailsBy.map ⟨fun f failed => ?_⟩ _
  have bad := isValueFault_of_canonical failed
  cases f <;> first | rfl | cases bad

end Document

theorem foreign_byName {all : List α} {name : α → String} (d : Document) :
    Foreign (byName all name d) := by
  unfold byName
  split
  · exact failsBy_ok _
  · split <;> exact failsBy_error rfl

theorem CompactRules.foreign_ofDocument (d : Document) : Foreign (CompactRules.ofDocument d) := by
  have scope : ∀ d, Foreign (CompactRules.scopeOf d) := by
    intro d
    unfold CompactRules.scopeOf
    split
    · exact foreign_byName _
    · unfold AccessScope.ofNumber byNumber
      split
      · exact failsBy_ok _
      · exact failsBy_error rfl
  have flag (name : String) : Foreign (do
      return .bool (← d.lookup name (.bool false)).isTrue : Except Fault Document) :=
    (d.foreign_lookup _ _).bind fun _ _ => failsBy_ok _
  have whole (name : String) (n : Int) : Foreign (do
      return .integer (← (← d.lookup name (.integer n)).toInteger) : Except Fault Document) :=
    (d.foreign_lookup _ _).bind fun v _ => v.foreign_toInteger.bind fun _ _ => failsBy_ok _
  exact (d.foreign_lookup _ _).bind fun v _ => (scope v).bind fun _ _ =>
    (flag _).bind fun _ _ => (flag _).bind fun _ _ => (flag _).bind fun _ _ =>
    (whole _ _).bind fun _ _ => (whole _ _).bind fun _ _ => (flag _).bind fun _ _ =>
    (flag _).bind fun _ _ => (whole _ _).bind fun _ _ => failsBy_ok _

theorem Record.foreign_ofDocument (d : Document) : Foreign (Record.ofDocument d) := by
  have members : ∀ items, Foreign (distinctMembers items) := by
    intro items
    unfold distinctMembers
    split
    · exact failsBy_ok _
    · exact failsBy_error rfl
  exact (d.foreign_require _).bind fun id _ => id.foreign_toInteger.bind fun _ _ =>
    (d.foreign_require _).bind fun _ _ => (d.foreign_require _).bind fun kind _ =>
    (foreign_byName kind).bind fun _ _ => (d.foreign_require _).bind fun _ _ =>
    (d.foreign_require _).bind fun rules _ => (CompactRules.foreign_ofDocument rules).bind fun _ _ =>
    (d.foreign_lookup _ _).bind fun listed _ => listed.foreign_toItems.bind fun items _ =>
    (members items).bind fun _ _ => (d.foreign_require _).bind fun _ _ =>
    (d.foreign_lookup _ _).bind fun born _ => born.foreign_toInteger.bind fun _ _ =>
    (d.foreign_lookup _ _).bind fun _ _ => (d.foreign_lookup _ _).bind fun violations _ =>
    violations.foreign_toInteger.bind fun _ _ => (d.foreign_lookup _ _).bind fun uses _ =>
    uses.foreign_toInteger.bind fun _ _ => failsBy_ok _

theorem LogRecord.foreign_ofDocument (s : Surroundings) (drawn : Nat) (d : Document) :
    Foreign (LogRecord.ofDocument s drawn d).2 := by
  have head : Foreign (do
      let sequence ← (← d.require "sequence_number").toInteger
      return (sequence, ← d.require "event") : Except Fault (Int × Document)) :=
    (d.foreign_require _).bind fun number _ => number.foreign_toInteger.bind fun _ _ =>
      (d.foreign_require _).bind fun _ _ => failsBy_ok _
  have event : ∀ drawn body, Foreign (Event.ofDocument s drawn body).2 := by
    intro drawn body
    have named : Foreign (Event.classOf body) := by
      refine (body.foreign_lookup _ _).bind fun name _ => ?_
      split
      · split
        · exact failsBy_error rfl
        · exact failsBy_ok _
      · exact failsBy_error rfl
    unfold Event.ofDocument
    split
    · next f failed => exact failsBy_error (named.reason f failed)
    · exact failsBy_ok _
  unfold LogRecord.ofDocument
  extract_lets first
  replace head : Foreign first := head
  clear_value first
  cases first with
  | error f => exact failsBy_error (head.reason f rfl)
  | ok found =>
    obtain ⟨sequence, body⟩ := found
    have read := event drawn body
    dsimp only
    split
    · next f failed =>
      rw [failed] at read
      exact failsBy_error (read.reason f rfl)
    · next drawn' e _ =>
      refine (d.foreign_require _).bind fun _ _ => (d.foreign_require _).bind fun version _ =>
        version.foreign_toInteger.bind fun _ _ => (d.foreign_lookup _ _).bind fun given _ => ?_
      dsimp only
      split
      · exact failsBy_ok _
      · exact e.toDocument.foreign_canonicalDigest.bind fun _ _ => failsBy_ok _

theorem EventLog.foreign_ofDocument (s : Surroundings) (drawn : Nat) (d : Document) :
    Foreign (EventLog.ofDocument s drawn d).2 := by
  have all : ∀ items drawn log, Foreign (EventLog.loadAll s drawn log items).2 := by
    intro items
    induction items with
    | nil => exact fun _ _ => failsBy_ok _
    | cons item rest ih =>
      intro drawn log
      have first := LogRecord.foreign_ofDocument s drawn item
      rw [EventLog.loadAll]
      split
      · next f failed =>
        rw [failed] at first
        exact failsBy_error (first.reason f rfl)
      · exact ih _ _
  have items := d.foreign_toItems
  unfold EventLog.ofDocument
  split
  · next f failed => exact failsBy_error (items.reason f failed)
  · exact all _ _ _

/-- A document is restored, or not for no reason of the domain. -/
theorem Registry.foreign_restore (s : Surroundings) (drawn : Nat) (d : Document) :
    Foreign (restore s drawn d).2 := by
  have events := d.foreign_lookup "events" (.list [])
  unfold restore
  split
  · next f failed => exact failsBy_error (events.reason f failed)
  · next items _ =>
    have log := EventLog.foreign_ofDocument s drawn items
    split
    · next f failed =>
      rw [failed] at log
      exact failsBy_error (log.reason f rfl)
    · exact (d.foreign_lookup _ _).bind fun listed _ => listed.foreign_toItems.bind fun items _ =>
        (failsBy_mapM fun item _ => Record.foreign_ofDocument item).bind fun _ _ =>
          (d.foreign_lookup _ _).bind fun next _ => next.foreign_toInteger.bind fun _ _ => failsBy_ok _

end RuleBound
