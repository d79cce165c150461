import RuleBound.Proofs.Cli.Visit

/-!
What the snapshot tells. A registry in memory that attends all commands on a state, from the time
when there was no snapshot yet, is the one of which the snapshot tells after each of them, as long as
it comes back whenever a command begins. An object of a creator whose name is half of a pair is
minted without being told of, and after that it does not: the snapshot forgets the number that the
event would have had.
-/

namespace RuleBound.Cli

/-- Whether a registry in memory has attended all commands on a state since before there was a
snapshot, with a condition holding of it whenever a command began. Between the commands everything
but the snapshot may have been changed. -/
inductive Attended (P : Registry → Prop) (root : String) : Disk → Registry → Prop
  | start {d : Disk} (absent : snapshotAt root d = none) : Attended P root d {}
  | between {d d' : Disk} {kept : Registry} (before : Attended P root d kept)
    (same : snapshotAt root d' = snapshotAt root d) : Attended P root d' kept
  | command {m : Machine} {args : List String} {kept : Registry}
    (before : Attended P root m.disk kept) (holds : P kept)
    (here : ∀ w c, m.setup? args = some (w, c) → w.IsAt root) :
    Attended P root (m.run args).1.disk (m.attend args kept)

/-- As long as the registry in memory comes back whenever a command begins, the snapshot after the
commands is that of the registry in memory, if that can be written. A command without an errand
leaves the snapshot and all else on the disk as it is, whatever is there. -/
theorem isKept_of_attended {root : String} {d : Disk} {kept : Registry}
    (attended : Attended Registry.ComesBack root d kept) :
    ((∃ text, kept.saved = .ok text) → IsKept root d kept) ∧
      ∀ (m : Machine) (args : List String),
        (∀ w c, m.setup? args = some (w, c) → c.errand? = none) → (m.run args).1.disk = m.disk := by
  refine ⟨?_, fun m args idle => Machine.disk_run_of_idle idle⟩
  have both : kept.IsPaged ∧ ((∃ text, kept.saved = .ok text) → IsKept root d kept) := by
    induction attended with
    | start absent => exact ⟨Registry.isPaged_empty, fun _ => .inl ⟨absent, rfl⟩⟩
    | between before same ih => exact ⟨ih.1, fun written => (ih.2 written).of_same same⟩
    | command before back here ih =>
      exact Machine.isKept_attend here ih.1 back (ih.2 back.written)
  exact both.2

open Visit

/-- The snapshot after a first visit is that of the registry that attended it, which has given an
identifier. -/
theorem isKept_of_first_visit :
    ((machine desk).attend (line "carol") {}).nextId = 2 ∧
      IsKept "." ((machine desk).run (line "carol")).1.disk
        ((machine desk).attend (line "carol") {}) := by
  have head : "carol".toList.head? ≠ some '-' := by decide
  have attended : Attended Registry.ComesBack "." _ ((machine desk).attend (line "carol") {}) :=
    .command (.start snapshotAt_desk) Registry.comesBack_empty (isAt_of_setup?_line isBare_desk head)
  obtain ⟨stamp, m, note, is⟩ :=
    exists_attend_line isBare_desk (.inl ⟨absent_desk, rfl⟩) head (by decide) {}
  have brief : (Registry.mint {} 0 stamp m).1.IsBrief :=
    note.isBrief_mint Registry.isBrief_empty (Document.isShort_of_natAbs_lt (by decide))
      Document.isShort_one Document.isShort_one
  obtain ⟨es, holds⟩ := (Registry.isPaged_empty.mint note.checked note.rules 0 stamp).entries
  refine ⟨?_, (isKept_of_attended attended).1 ?_⟩
  · rw [is]
    exact Registry.nextId_mint ..
  · rw [is]
    exact holds.written_iff_isBrief.mpr brief

/-- A name that is half of a pair, as arguments that are not text come to have it. -/
def stray : String := String.singleton (Text.standIn 0xdc80)

/-- A first visitor whose name is half of a pair leaves a number given and no event. -/
theorem exists_attended_stray : ∃ d reg doc, Attended (fun _ => True) "." d reg ∧ reg.IsPaged ∧
    reg.IsBrief ∧ reg.nextId = 2 ∧ reg.log = ⟨[], 1⟩ ∧ reg.snapshot = .ok doc ∧
    snapshotAt "." d = some (Text.utf8 (doc.toJson .page)) := by
  have head : stray.toList.head? ≠ some '-' := by decide
  have half : ¬ Text.IsWhole stray := by decide
  have here := isAt_of_setup?_line isBare_desk head
  obtain ⟨stamp, m, note, is⟩ :=
    exists_attend_line isBare_desk (.inl ⟨absent_desk, rfl⟩) head (by decide) {}
  have attended : Attended (fun _ => True) "." _ ((machine desk).attend (line stray) {}) :=
    .command (.start snapshotAt_desk) trivial here
  have kept := (Machine.isKept_attend here Registry.isPaged_empty Registry.comesBack_empty
    (.inl ⟨snapshotAt_desk, rfl⟩)).2
  have paged := Registry.isPaged_empty.mint note.checked note.rules 0 stamp
  have brief := note.isBrief_mint Registry.isBrief_empty
    (Document.isShort_of_natAbs_lt (by decide)) Document.isShort_one Document.isShort_one
  have next := Registry.nextId_mint {} 0 stamp m
  have log : (Registry.mint {} 0 stamp m).1.log = ⟨[], 1⟩ :=
    note.log_mint_of_half Document.isShort_one half
  rw [is] at attended kept
  obtain ⟨es, holds⟩ := paged.entries
  rcases kept (holds.written_iff_isBrief.mpr brief) with ⟨-, empty⟩ | ⟨doc, snapshot, held⟩
  · rw [empty] at next
    cases next
  · exact ⟨_, _, doc, attended, paged, brief, next, log, snapshot, held⟩

/-- If the first visitor's name is half of a pair, then after a second visit the snapshot is not that
of the registry that attended both: in it the second event has the number of the first. -/
theorem not_isKept_after_stray : ∃ d kept, Attended (fun _ => True) "." d kept ∧
    (∃ text, kept.saved = .ok text) ∧ ¬ IsKept "." d kept := by
  obtain ⟨d, reg, doc, attended, paged, brief, next, log, snapshot, held⟩ := exists_attended_stray
  have head : "carol".toList.head? ≠ some '-' := by decide
  obtain ⟨es, holds⟩ := paged.entries
  have written := holds.written_iff_isBrief.mpr brief
  -- The second visitor finds the snapshot on a disk that is otherwise as the first one found it.
  obtain ⟨d', bare, held'⟩ := exists_isBare_of_content (Text.utf8 (doc.toJson .page))
  have attended' : Attended (fun _ => True) "." (machine d').disk reg :=
    .between attended (held'.trans held.symm)
  obtain ⟨loaded, loads, -⟩ := exists_loads_of_snapshotAt paged written snapshot held' bare.here
  obtain ⟨stamp, m, note, is⟩ := exists_attend_line bare loads head (by decide) reg
  have short : ∀ n : Int, n.natAbs < 10 → Document.IsShort (.integer n) :=
    fun n small => Document.isShort_of_natAbs_lt small
  have brief' : (reg.mint 0 stamp m).1.IsBrief := by
    refine note.isBrief_mint brief ?_ ?_ ?_
    · exact next ▸ short 3 (by decide)
    · exact log ▸ short 2 (by decide)
    · exact log ▸ short 1 (by decide)
  obtain ⟨es', holds'⟩ := (paged.mint note.checked note.rules 0 stamp).entries
  have written' := holds'.written_iff_isBrief.mpr brief'
  rw [← is] at written'
  have ahead : reg.log.sequence ≠ EventLog.lastNumber reg.log.records := by
    rw [log]
    decide
  exact ⟨_, _, .command attended' trivial (isAt_of_setup?_line bare head), written',
    not_isKept_of_ahead paged written snapshot held' bare ahead (next ▸ short 2 (by decide)) head
      (by decide) (by decide) written'⟩

end RuleBound.Cli
