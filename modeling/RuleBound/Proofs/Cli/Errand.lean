import RuleBound.Cli.Run
import RuleBound.Proofs.Exchange.Creation

/-!
Errands. Two commands want something of the registry: that an object be created, or that one be
accessed. What such a command does falls into three parts. It comes to its errand and to the state,
does the errand on the registry that it finds there, and writes the registry back whatever came of
that. No other command writes to the disk.
-/

namespace RuleBound.Cli

open RuleBound.Task

/-- What a command wants of the registry. -/
inductive Errand
  | create (identity : String) (intent : Intent)
  | access (link identity : String) (action context : Document)

/-- Who wants it. -/
def Errand.identity : Errand → String
  | create identity _ => identity
  | access _ identity _ _ => identity

/-- How a command comes to its errand, if it has one. -/
def Command.errand? : Command → Option (Task Shelf Errand)
  | .create path identity contentFile => some do
    let intent ← Workplace.intentAt path contentFile
    return .create identity intent
  | .access link identity action context => some (return .access link identity action context)
  | _ => none

namespace Workplace

variable {α : Type} (w : Workplace) {s s' : Session Shelf}

/-- Go to the state: make its directory, mark it as in use, and load the registry. -/
def enter : Task Shelf Unit := do
  let root ← Task.ofExcept w.root
  let _ ← Task.ofExcept w.snapshotPath
  makeDirectory root
  changeDisk (touch (Path.join root lockName))
  let _ ← w.loadRegistry
  return ()

/-- Do an errand on the registry at hand. -/
def carry (e : Errand) : Task Shelf Unit := do
  let store ← w.contentStore
  let c ← Task.ofExcept (w.client e.identity)
  match e with
  | .create _ intent => discard (c.create store intent)
  | .access link _ action context =>
    match context with
    | .text s => discard (c.access store (.text link) action (.member (Text.utf8 s)))
    | _ => throw .noPart

/-- Come to an errand and to the state. -/
def approach (errand : Task Shelf Errand) : Task Shelf Errand := do
  let e ← errand
  w.enter
  return e

/-! ## The parts of a command with an errand -/

/-- How a session passes into another: one cannot come to the state, or what is done there is
written back whatever came of it. -/
inductive Passes (come : Task Shelf α) (body : α → Task Shelf Unit) (s s' : Session Shelf) : Prop
  | stopped {f : Fault} (failed : come.Ends s (.error f) s')
  | saved {a : α} {u v : Session Shelf} {x saved : Except Fault Unit} (came : come.Ends s (.ok a) u)
    (done : (body a).Ends u x v) (written : w.saveRegistry.Ends v saved s')

/-- Whether a task leaves what another leaves, whatever they answer. -/
def LeavesAs {β : Type} (t' : Task Shelf β) (t : Task Shelf α) : Prop :=
  ∀ s r s', t.Ends s r s' → ∃ x, t'.Ends s x s'

theorem leavesAs_discard (t : Task Shelf α) : LeavesAs (discard t) t := by
  intro s r s' ends
  cases r with
  | ok a => exact ⟨.ok (), ends.bind (ends_pure_iff.mpr ⟨rfl, rfl⟩)⟩
  | error f => exact ⟨.error f, ends_bind_iff.mpr (.inr ⟨f, ends, rfl⟩)⟩

theorem leavesAs_throw {β : Type} (f : Fault) :
    LeavesAs (throw f : Task Shelf β) (throw f : Task Shelf α) := by
  intro s r s' ends
  exact ⟨.error f, ends_throw_iff.mpr ⟨rfl, (ends_throw_iff.mp ends).2⟩⟩

theorem leavesAs_bind {β γ : Type} (t : Task Shelf α) {f' : α → Task Shelf γ} {f : α → Task Shelf β}
    (rest : ∀ a, LeavesAs (f' a) (f a)) : LeavesAs (t >>= f') (t >>= f) := by
  intro s r s' ends
  rcases ends_bind_iff.mp ends with ⟨a, u, answers, ends⟩ | ⟨e, fails, -⟩
  · obtain ⟨x, ends⟩ := rest a u r s' ends
    exact ⟨x, answers.bind ends⟩
  · exact ⟨.error e, ends_bind_iff.mpr (.inr ⟨e, fails, rfl⟩)⟩

theorem ends_lift_iff {t : Task Shelf α} {r : Except Fault (Except Fault α)} :
    Task.Ends (ExceptT.lift t.run) s r s' ↔ ∃ x, t.Ends s x s' ∧ r = .ok x := by
  have lifted : Task.Ends (ExceptT.lift t.run) s (.ok (t.run.run s).run.1) (t.run.run s).run.2 :=
    rfl
  rw [ends_iff_of_ends lifted]
  constructor
  · rintro ⟨rfl, rfl⟩
    exact ⟨_, rfl, rfl⟩
  · rintro ⟨x, ends, rfl⟩
    rw [Ends] at ends
    rw [ends]
    exact ⟨rfl, rfl⟩

variable {w}

theorem transaction_eq (w : Workplace) (body : Task Shelf α) : w.transaction body = w.enter >>=
    fun _ => ExceptT.lift body.run >>= fun result => w.saveRegistry >>= fun _ =>
      Task.ofExcept result := by
  unfold transaction enter
  simp only [bind_assoc, pure_bind]

/-- Work on the state is done after coming to it, and written back whatever came of it. -/
theorem passes_transaction {body : Task Shelf α} {body' : Task Shelf Unit}
    (leaves : LeavesAs body' body) {r : Except Fault α} (ends : (w.transaction body).Ends s r s') :
    w.Passes w.enter (fun _ => body') s s' := by
  rw [w.transaction_eq] at ends
  rcases ends_bind_iff.mp ends with ⟨⟨⟩, u, entered, ends⟩ | ⟨f, failed, -⟩
  · rcases ends_bind_iff.mp ends with ⟨x, v, done, ends⟩ | ⟨f, failed, -⟩
    · obtain ⟨y, done, -⟩ := ends_lift_iff.mp done
      obtain ⟨z, done⟩ := leaves u y v done
      rcases ends_bind_iff.mp ends with ⟨⟨⟩, t, written, ends⟩ | ⟨f, failed, -⟩
      · obtain ⟨-, rfl⟩ := ends_ofExcept_iff.mp ends
        exact .saved entered done written
      · exact .saved entered done failed
    · obtain ⟨y, -, same⟩ := ends_lift_iff.mp failed
      cases same
  · exact .stopped failed

/-- What is made of the answer of an exchange does not matter for what it leaves. -/
theorem passes_exchange {β : Type} {identity : String}
    {body : ContentStore Shelf → Client → Task Shelf α}
    {body' : ContentStore Shelf → Client → Task Shelf Unit}
    (leaves : ∀ store c, LeavesAs (body' store c) (body store c)) {g : α → β} {r : Except Fault β}
    (ends : Task.Ends (do return g (← w.exchange identity body)) s r s') :
    w.Passes w.enter (fun _ => do
      let store ← w.contentStore
      let c ← Task.ofExcept (w.client identity)
      body' store c) s s' := by
  have exchanged : ∃ x, (w.exchange identity body).Ends s x s' := by
    rcases ends_bind_iff.mp ends with ⟨a, u, done, ends⟩ | ⟨f, failed, -⟩
    · obtain ⟨-, rfl⟩ := ends_pure_iff.mp ends
      exact ⟨_, done⟩
    · exact ⟨_, failed⟩
  obtain ⟨x, ends⟩ := exchanged
  exact passes_transaction (leavesAs_bind _ fun store => leavesAs_bind _ (leaves store)) ends

/-- One comes to the state after one has come to the errand. -/
theorem Passes.approach {errand : Task Shelf Errand} {e : Errand} {t : Session Shelf}
    (found : errand.Ends s (.ok e) t) (passes : w.Passes w.enter (fun _ => w.carry e) t s') :
    w.Passes (w.approach errand) w.carry s s' := by
  cases passes with
  | stopped failed => exact .stopped (found.bind (ends_bind_iff.mpr (.inr ⟨_, failed, rfl⟩)))
  | saved came done written =>
    exact .saved (found.bind (came.bind (ends_pure_iff.mpr ⟨rfl, rfl⟩))) done written

/-- Creating an object passes as its errand does. -/
theorem passes_create {path identity : String} {contentFile : Option String}
    {r : Except Fault (Nat × Document)}
    (ends : (w.perform (.create path identity contentFile)).Ends s r s') :
    w.Passes (w.approach do return .create identity (← intentAt path contentFile)) w.carry s s' := by
  rw [perform] at ends
  rcases ends_bind_iff.mp ends with ⟨intent, t, found, ends⟩ | ⟨f, failed, -⟩
  · have come := found.bind (f := fun intent => pure (Errand.create identity intent))
      (ends_pure_iff.mpr ⟨rfl, rfl⟩)
    exact .approach come (passes_exchange (fun store c => leavesAs_discard _) ends)
  · refine .stopped (ends_bind_iff.mpr (.inr ⟨f, ?_, rfl⟩))
    exact ends_bind_iff.mpr (.inr ⟨f, failed, rfl⟩)

/-- Accessing an object passes as its errand does. -/
theorem passes_access {link identity : String} {action context : Document}
    {r : Except Fault (Nat × Document)}
    (ends : (w.perform (.access link identity action context)).Ends s r s') :
    w.Passes (w.approach (pure (.access link identity action context))) w.carry s s' := by
  rw [perform] at ends
  have come : (pure (.access link identity action context) : Task Shelf Errand).Ends s (.ok _) s :=
    ends_pure_iff.mpr ⟨rfl, rfl⟩
  refine .approach come ?_
  cases context with
  | text s => exact passes_exchange (fun store c => leavesAs_discard _) ends
  | _ => exact passes_exchange (fun store c => leavesAs_throw .noPart) ends

/-- A command with an errand does it between coming to the state and writing the registry back. -/
theorem passes_perform {c : Command} {errand : Task Shelf Errand} (wanted : c.errand? = some errand)
    {r : Except Fault (Nat × Document)} (ends : (w.perform c).Ends s r s') :
    w.Passes (w.approach errand) w.carry s s' := by
  cases c with
  | create path identity contentFile =>
    rw [← Option.some.inj wanted]
    exact passes_create ends
  | access link identity action context =>
    rw [← Option.some.inj wanted]
    exact passes_access ends
  | _ => cases wanted

/-! ## Tasks that write nothing -/

/-- Whether a task leaves the disk, however it ends. -/
def IsReading (t : Task Shelf α) : Prop :=
  ∀ s r s', t.Ends s r s' → s'.store.disk = s.store.disk

theorem IsReading.bind {β : Type} {t : Task Shelf α} {f : α → Task Shelf β} (first : IsReading t)
    (rest : ∀ a, IsReading (f a)) : IsReading (t >>= f) := by
  intro s r s' ends
  rcases ends_bind_iff.mp ends with ⟨a, u, answers, ends⟩ | ⟨e, fails, -⟩
  · exact (rest a u r s' ends).trans (first s _ u answers)
  · exact first s _ s' fails

theorem isReading_pure (a : α) : IsReading (pure a) := by
  intro s r s' ends
  obtain ⟨-, rfl⟩ := ends_pure_iff.mp ends
  rfl

theorem isReading_throw (f : Fault) : IsReading (throw f : Task Shelf α) := by
  intro s r s' ends
  obtain ⟨-, rfl⟩ := ends_throw_iff.mp ends
  rfl

/-- Nothing is done behind a failure. -/
theorem isReading_throw_bind {β : Type} (f : Fault) (rest : β → Task Shelf α) :
    IsReading (throw f >>= rest) := by
  intro s r s' ends
  rcases ends_bind_iff.mp ends with ⟨a, u, answers, -⟩ | ⟨e, fails, -⟩
  · cases (ends_throw_iff.mp answers).1
  · rw [(ends_throw_iff.mp fails).2]

theorem isReading_ofExcept (x : Except Fault α) : IsReading (Task.ofExcept x) := by
  intro s r s' ends
  obtain ⟨-, rfl⟩ := ends_ofExcept_iff.mp ends
  rfl

theorem isReading_get_bind {f : Session Shelf → Task Shelf α} (rest : ∀ s, IsReading (f s)) :
    IsReading (get >>= f) := by
  intro s r s' ends
  exact rest s s r s' (ends_get_bind_iff.mp ends)

theorem ends_modify_iff {f : Session Shelf → Session Shelf} {r : Except Fault PUnit} :
    (modify f : Task Shelf PUnit).Ends s r s' ↔ r = .ok ⟨⟩ ∧ s' = f s :=
  ends_iff_of_ends rfl

theorem isReading_modify {f : Session Shelf → Session Shelf}
    (same : ∀ s, (f s).store.disk = s.store.disk) : IsReading (modify f) := by
  intro s r s' ends
  obtain ⟨-, rfl⟩ := ends_modify_iff.mp ends
  exact same s

theorem isReading_note (c : Client) (notes : List Note) : IsReading (Task.note c notes) :=
  isReading_modify fun _ => rfl

theorem isReading_drawKey (c : Client) : IsReading (Task.drawKey c) := by
  intro s r s' ends
  obtain ⟨-, rfl⟩ := ends_drawKey_iff.mp ends
  rfl

theorem isReading_isThere (path : String) : IsReading (isThere path) := by
  refine isReading_get_bind fun s => ?_
  cases s.store.disk.exists? path with
  | ok found => exact isReading_pure found
  | error fault => exact isReading_throw _

theorem isReading_readFile (path : String) : IsReading (readFile path) := by
  refine isReading_get_bind fun s => ?_
  cases s.store.disk.read path with
  | ok content => exact isReading_pure content
  | error fault => exact isReading_throw _

/-- An intent is read without anything being written. -/
theorem isReading_intentAt (path : String) (contentFile : Option String) :
    IsReading (intentAt path contentFile) := by
  refine (isReading_isThere _).bind fun found => ?_
  cases found with
  | false => exact isReading_throw_bind _ _
  | true =>
    refine (isReading_readFile _).bind fun content => (isReading_ofExcept _).bind fun d =>
      (isReading_ofExcept _).bind fun intent => ?_
    cases contentFile.filter (· != "") with
    | none => exact isReading_pure intent
    | some other =>
      cases intent.payload with
      | file name mime content reference =>
        exact (isReading_readFile _).bind fun content => isReading_pure _
      | _ => exact isReading_throw _

/-- The registry is loaded without anything being written. -/
theorem isReading_loadRegistry (w : Workplace) : IsReading w.loadRegistry := by
  refine (isReading_ofExcept _).bind fun path => (isReading_isThere _).bind fun found => ?_
  cases found with
  | false =>
    refine (isReading_modify ?_).bind fun _ => isReading_pure _
    intro s
    rfl
  | true =>
    refine (isReading_readFile _).bind fun content => (isReading_ofExcept _).bind fun d =>
      isReading_get_bind fun s => ?_
    dsimp only
    generalize Registry.restore w.surroundings s.draws.eventIds d = restored
    refine (isReading_modify ?_).bind fun _ => (isReading_ofExcept _).bind fun _ =>
      (isReading_modify ?_).bind fun _ => isReading_pure _
    · intro s
      rfl
    · intro s
      rfl

/-- A command without an errand writes nothing. -/
theorem isReading_perform (w : Workplace) {c : Command} (idle : c.errand? = none) :
    IsReading (w.perform c) := by
  cases c with
  | compile path now =>
    exact (isReading_intentAt _ _).bind fun intent => (isReading_ofExcept _).bind fun compiled =>
      (isReading_note _ _).bind fun _ => (isReading_ofExcept _).bind fun compact =>
        (isReading_ofExcept _).bind fun _ => isReading_pure _
  | keygen => exact (isReading_drawKey _).bind fun _ => isReading_pure _
  | create path identity contentFile => cases idle
  | access link identity action context => cases idle
  | «show» id =>
    refine w.isReading_loadRegistry.bind fun registry => (isReading_ofExcept _).bind fun r =>
      (isReading_ofExcept _).bind fun d => ?_
    cases d with
    | object fields => exact (isReading_ofExcept _).bind fun _ => isReading_pure _
    | _ => exact isReading_pure _
  | events id => exact w.isReading_loadRegistry.bind fun _ => isReading_pure _
  | verifyRefusal reference =>
    exact w.isReading_loadRegistry.bind fun _ => (isReading_ofExcept _).bind fun _ =>
      isReading_pure _
  | showSettings => exact (isReading_ofExcept _).bind fun _ => isReading_pure _
  | checkSettings => exact isReading_pure _
  | settings => exact isReading_throw _

end Workplace

/-! ## Command lines -/

namespace Machine

variable {m : Machine} {c : Command}

/-- What a command starts from. -/
def session (m : Machine) : Session Shelf where
  registry := {}
  store := ⟨m.disk, {}, ⟨m.network, [], m.draws.boundaries⟩⟩
  draws := m.draws

/-- The workplace and the command of a command line that comes to be carried out. -/
def setup? (m : Machine) (args : List String) : Option (Workplace × Command) :=
  match Invocation.ofArguments args with
  | .error _ => none
  | .ok inv =>
    let setup : Except Fault (Settings × JournalStyle) := do
      let s ← m.settingsFor inv
      return (s, ← journalStyle s)
    match inv.command, setup, inv.format with
    | some c, .ok (settings, _), some _ =>
      some (⟨settings, inv.stateDirectory, m.surroundings, m.share⟩, c)
    | _, _, _ => none

/-- A command that is carried out leaves what its session is left with. -/
theorem disk_carryOut_of_format {inv : Invocation} {format : OutputFormat}
    (formatted : inv.format = some format) {settings : Settings} {style : JournalStyle}
    {r : Except Fault (Nat × Document)} {s : Session Shelf}
    (ends : (Workplace.perform ⟨settings, inv.stateDirectory, m.surroundings, m.share⟩ c).Ends
      m.session r s) : (m.carryOut inv c settings style).1.disk = s.store.disk := by
  unfold carryOut
  extract_lets w before formatted'
  have all : ∃ x, formatted'.Ends before x s := by
    simp only [formatted', formatted]
    cases r with
    | ok a => exact ⟨_, ends.bind (ends_pure_iff.mpr ⟨rfl, rfl⟩)⟩
    | error f => exact ⟨_, ends_bind_iff.mpr (.inr ⟨f, ends, rfl⟩)⟩
  obtain ⟨x, ends⟩ := all
  have ran : formatted'.run.run before = (x, s) := ends
  rw [ran]
  cases x with
  | ok a => rfl
  | error f => rfl

theorem disk_carryOut_of_no_format {inv : Invocation} (formatted : inv.format = none)
    {settings : Settings} {style : JournalStyle} :
    (m.carryOut inv c settings style).1.disk = m.disk := by
  unfold carryOut
  rw [formatted]
  rfl

/-- What a command line leaves of the disk is what its command does, if it comes to be carried
out. -/
theorem disk_run (m : Machine) (args : List String) :
    (∃ w c r s, m.setup? args = some (w, c) ∧ (w.perform c).Ends m.session r s ∧
      (m.run args).1.disk = s.store.disk) ∨
    m.setup? args = none ∧ (m.run args).1.disk = m.disk := by
  unfold setup? run
  cases Invocation.ofArguments args with
  | error stop => exact .inr ⟨rfl, rfl⟩
  | ok inv =>
    unfold invoke
    dsimp only
    generalize (do
      let s ← m.settingsFor inv
      return (s, ← journalStyle s) : Except Fault (Settings × JournalStyle)) = setup
    cases inv.command with
    | none => exact .inr ⟨rfl, rfl⟩
    | some c =>
      cases setup with
      | error f => exact .inr ⟨rfl, rfl⟩
      | ok found =>
        obtain ⟨settings, style⟩ := found
        cases formatted : inv.format with
        | none => exact .inr ⟨rfl, disk_carryOut_of_no_format formatted⟩
        | some format =>
          obtain ⟨r, s, ends⟩ := exists_ends (Workplace.perform
            ⟨settings, inv.stateDirectory, m.surroundings, m.share⟩ c) m.session
          exact .inl ⟨_, c, r, s, rfl, ends, disk_carryOut_of_format formatted ends⟩

/-- A command line without an errand writes nothing. -/
theorem disk_run_of_idle {m : Machine} {args : List String}
    (idle : ∀ w c, m.setup? args = some (w, c) → c.errand? = none) :
    (m.run args).1.disk = m.disk := by
  rcases m.disk_run args with ⟨w, c, r, s, is, ends, left⟩ | ⟨-, left⟩
  · rw [left]
    exact w.isReading_perform (idle w c is) _ r s ends
  · exact left

end Machine

end RuleBound.Cli
