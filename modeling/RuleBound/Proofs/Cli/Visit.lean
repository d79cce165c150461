import RuleBound.Proofs.Cli.Attendance
import RuleBound.Proofs.Exchange.Rehearsal
import RuleBound.Proofs.Registry.Growth

/-!
Visits. A visitor comes to the current directory, in which there is nothing but an intent and perhaps
a snapshot, and creates an object of a note. Whoever the visitor is, and whatever is in the snapshot
as long as it can be loaded, the command comes to its errand, and the errand is one mint.
-/

namespace RuleBound.Cli

open RuleBound.Task
open Document (IsOrderly HasWholeTexts IsShort)
open Invocation
open RuleBound.Path (IsPlain)
open Registry (isRecordable createdEvent nextLogRecord)

open Sha256 (ofBytes ofText isHex_ofBytes)

namespace Visit

/-! ## The command line -/

/-- The command line of a visitor. -/
def line (identity : String) : List String := ["-s", ".", "create", "i.json", "-i", identity]

theorem word_of_head (g : Grammar) {arg : String} (head : arg.toList.head? ≠ some '-') :
    g.word arg = .ok (.plain arg) := by
  rw [Grammar.word, if_pos (by simp [head])]

/-- The command line of a visitor whose name does not look like an option is read. -/
theorem ofArguments_line {identity : String} (head : identity.toList.head? ≠ some '-') :
    ofArguments (line identity) =
      .ok ⟨some .json, false, none, some ".", none, some (.create "i.json" identity none)⟩ := by
  have other : identity ≠ "--" := by
    rintro rfl
    exact head rfl
  let state : OptionForm := ⟨"state-dir", ["--state-dir", "-s"], .value⟩
  have words : mainGrammar.words (line identity) = .ok [("-s", .option state true none),
      (".", .plain "."), ("create", .plain "create"), ("i.json", .plain "i.json"),
      ("-i", .unknown), (identity, .plain identity)] := by
    have first : mainGrammar.word "-s" = .ok (.option state true none) := by rfl
    have letter : mainGrammar.word "-i" = .ok .unknown := by rfl
    have here : mainGrammar.word "." = .ok (.plain ".") := word_of_head _ (by decide)
    have name : mainGrammar.word "create" = .ok (.plain "create") := word_of_head _ (by decide)
    have file : mainGrammar.word "i.json" = .ok (.plain "i.json") := word_of_head _ (by decide)
    simp [line, Grammar.words, first, letter, here, name, file, word_of_head _ head]
  have rest : (grammarOf "create").words ["i.json", "-i", identity] =
      .ok [("i.json", .plain "i.json"), ("-i", .option identityForm true none),
        (identity, .plain identity)] := by
    have letter : (grammarOf "create").word "-i" = .ok (.option identityForm true none) := by
      rfl
    have file : (grammarOf "create").word "i.json" = .ok (.plain "i.json") :=
      word_of_head _ (by decide)
    simp [Grammar.words, letter, file, word_of_head _ head]
  have main : mainGrammar.read (line identity) = .ok
      { values := [("state-dir", .text ".")], operand := some "create",
        rest := ["i.json", "-i", identity] } := by
    unfold Grammar.read
    rw [words, ok_bind]
    simp [Grammar.readWords, state, Grammar.steps, Grammar.needsValue, Grammar.perform,
      mainGrammar, Taken.record]
  have inner : (grammarOf "create").read ["i.json", "-i", identity] = .ok
      { values := [("identity", .text identity)], operand := some "i.json" } := by
    unfold Grammar.read
    rw [rest, ok_bind]
    simp [Grammar.readWords, identityForm, Grammar.steps, Grammar.needsValue, Grammar.perform,
      grammarOf, Taken.record, Grammar.takeOperand, other]
  unfold ofArguments
  rw [main, ok_bind]
  dsimp only
  have known : commandNames.contains "create" = true := by decide
  rw [known, inner]
  rfl

/-! ## The desk -/

/-- The intent of a visitor as a document. -/
def noteDocument : Document :=
  .object [("type", .text "MESSAGE"), ("name", .text "Note"),
    ("payload", .object [("text", .text "hi")]), ("forbiddenActions", .list [.text "FORWARD"])]

/-- The file in which it stands. -/
def noteFile : Bytes := Text.utf8 (noteDocument.toJson .line)

theorem loadIntent_noteDocument : loadIntent noteDocument = .ok (.note "hi") := by
  with_unfolding_all rfl

theorem ofFile_noteFile : Document.ofFile "i.json" noteFile = .ok noteDocument := by
  have orderly : Document.Every IsOrderly noteDocument := by
    simp [noteDocument, IsOrderly]
    decide
  have whole : Document.Whole noteDocument := by
    simp [noteDocument, HasWholeTexts]
    decide
  have readable := Document.readable_of_orderly orderly (by simp [noteDocument])
  have json : Document.namesYaml "i.json" = false := by rfl
  unfold Document.ofFile noteFile
  rw [Text.fromUtf8_utf8]
  dsimp only
  rw [json, if_neg Bool.false_ne_true, Document.parse_toJson_line readable whole]

/-- What a visitor works with. -/
def workplace : Workplace := ⟨{}, some ".", ⟨0, "", .null, .numbered⟩, .integer 0⟩

theorem isAt_workplace : workplace.IsAt "." where
  root := by
    change Except.ok (Path.normal ".") = _
    rw [Path.normal_here]
  snapshot := by rfl
  backend := by rfl
  correlation := rfl

theorem exists_client (identity : String) : ∃ c, workplace.client identity = .ok c ∧
    c.identity = identity ∧ c.image = .text Metadata.defaultImage ∧
    c.policy.attemptCount = .ok 3 :=
  ⟨_, rfl, rfl, rfl, rfl⟩

/-- A machine with a disk and nothing else. -/
def machine (d : Disk) : Machine where
  disk := d
  home := ""
  environment := []
  surroundings := ⟨0, "", .null, .numbered⟩
  share := .integer 0
  network := .ok []

/-- The names under which content or settings would lie. -/
def freeNames : List String := [Workplace.contentDirectory, ".rdo", "config", "rdo.yaml"]

/-- Whether the intent lies in the current directory, and nothing in the way of content or in place
of settings. -/
structure IsBare (d : Disk) : Prop where
  here : d.here = ""
  intent : d.entry? ["i.json"] = some (.file noteFile)
  unlocked : d.entry? [".lock"] ≠ some .directory
  free : ∀ name ∈ freeNames, ∀ rest, d.entry? (name :: rest) = none

/-- A disk with the intent on it. -/
def desk : Disk := { entries := [(["i.json"], .file noteFile)] }

theorem isBare_desk : IsBare desk where
  here := rfl
  intent := by simp [desk, Disk.entry?, Disk.isGiven]
  unlocked := by simp [desk, Disk.entry?, Disk.isGiven]
  free := by simp [desk, Disk.entry?, Disk.isGiven, freeNames, Workplace.contentDirectory]

namespace IsBare

variable {d : Disk}

/-- A file that lies beside leaves a disk bare. -/
theorem put (bare : IsBare d) {name : String}
    (other : name ∉ "i.json" :: freeNames) (content : Bytes) :
    IsBare (d.put [name] (.file content)) := by
  rw [List.mem_cons, not_or] at other
  refine ⟨bare.here, ?_, ?_, fun name' mem rest => ?_⟩
  · rw [Disk.entry_put, if_neg (by decide), if_neg, bare.intent]
    simpa using Ne.symm other.1
  · rw [Disk.entry_put, if_neg (by decide)]
    split
    · nofun
    · exact bare.unlocked
  · have free := bare.free name' mem rest
    have given : ¬ Disk.isGiven (name' :: rest) = true := by
      intro given
      rw [ Disk.entry?, if_pos given] at free
      cases free
    rw [Disk.entry_put, if_neg given, if_neg, free]
    intro same
    have first := (List.cons.inj same).1
    exact other.2 (first ▸ mem)

/-- What would lie below something that is not there is not there either. -/
theorem exists?_join (bare : IsBare d) {name child : String} (plain : IsPlain name)
    (plain' : IsPlain child) (mem : name ∈ freeNames) :
    d.exists? (Path.join name child) = .ok false := by
  unfold Disk.exists? Disk.look
  rw [Disk.locate_join bare.here plain plain', bare.free name mem []]
  rfl

theorem exists?_plain (bare : IsBare d) {name : String} (plain : IsPlain name)
    (mem : name ∈ freeNames) : d.exists? name = .ok false := by
  unfold Disk.exists? Disk.look
  rw [Disk.locate_plain bare.here plain, ok_bind, bare.free name mem []]
  rfl

/-- A bare disk takes content. -/
theorem isTidy (bare : IsBare d) : FileStore.IsTidy Workplace.contentDirectory d where
  own content node there := by
    rw [FileStore.placeOf_plain bare.here isPlain_contentDirectory,
      bare.free _ List.mem_cons_self] at there
    cases there
  here := bare.here
  way content there := by
    rw [bare.free _ List.mem_cons_self] at there
    cases there

/-- Where no file of settings is there, none is read. -/
theorem loadPresent_of_missing {paths : List String}
    (missing : ∀ path ∈ paths, d.exists? path = .ok false) (s : Settings) :
    Settings.loadPresent d s paths = (s, .ok []) := by
  induction paths with
  | nil => rfl
  | cons path paths ih =>
    rw [List.forall_mem_cons] at missing
    rw [Settings.loadPresent, Settings.loadIfPresent, missing.1]
    simp only [ih missing.2]
    rfl

/-- On a bare disk there are no settings. -/
theorem loadDefaults (bare : IsBare d) (s : Settings) : s.loadDefaults d "" = (s, .ok []) := by
  have config : IsPlain "config" := ⟨by decide, by decide, by decide, by decide, by decide⟩
  have hidden : IsPlain ".rdo" := ⟨by decide, by decide, by decide, by decide, by decide⟩
  have json : IsPlain "config.yaml" := ⟨by decide, by decide, by decide, by decide, by decide⟩
  have yaml : IsPlain "rdo.yaml" := ⟨by decide, by decide, by decide, by decide, by decide⟩
  have paths : Settings.defaultPaths "" =
      [Path.join ".rdo" "config.yaml", Path.join "config" "rdo.yaml", "rdo.yaml"] := by
    rfl
  unfold Settings.loadDefaults
  rw [paths]
  refine loadPresent_of_missing ?_ s
  rw [List.forall_mem_cons, List.forall_mem_cons, List.forall_mem_singleton]
  exact ⟨bare.exists?_join hidden json (by simp [freeNames]),
    bare.exists?_join config yaml (by simp [freeNames]),
    bare.exists?_plain yaml (by simp [freeNames])⟩

/-- A visit to a bare disk is set up. -/
theorem setup?_line (bare : IsBare d) {identity : String}
    (head : identity.toList.head? ≠ some '-') :
    (machine d).setup? (line identity) = some (workplace, .create "i.json" identity none) := by
  have settings : ∀ inv : Invocation, inv.settingsFile = none → inv.level = none →
      (machine d).settingsFor inv = .ok {} := by
    intro inv unnamed level
    have loaded := bare.loadDefaults {}
    unfold Machine.settingsFor
    simp only [unnamed, level, Option.filter_none]
    change (Except.bind ((Settings.loadDefaults {} d "").2.map fun _ => ())
      fun _ => Except.pure (Settings.loadDefaults {} d "").1) = _
    generalize Settings.loadDefaults {} d "" = answer at loaded ⊢
    rw [loaded]
    rfl
  have style : ∃ style, journalStyle {} = .ok style := ⟨_, rfl⟩
  obtain ⟨style, styled⟩ := style
  unfold Machine.setup?
  rw [ofArguments_line head]
  dsimp only
  rw [settings _ rfl rfl, ok_bind, styled]
  rfl

/-! ## Coming to the state -/

/-- The intent of a visitor is read. -/
theorem ends_intentAt (bare : IsBare d) {s : Session Shelf} (on : s.store.disk = d) :
    (Workplace.intentAt "i.json" none).Ends s (.ok (.note "hi")) s := by
  have plain : IsPlain "i.json" := ⟨by decide, by decide, by decide, by decide, by decide⟩
  have look : d.look "i.json" = .ok (.file noteFile) :=
    Disk.look_eq_ok_iff.mpr ⟨_, Disk.locate_plain bare.here plain, bare.intent⟩
  have there : s.store.disk.exists? "i.json" = .ok true := by
    rw [on, Disk.exists?, look]
  have read : s.store.disk.read "i.json" = .ok noteFile := by
    rw [on]
    exact Disk.read_eq_ok_iff.mpr look
  unfold Workplace.intentAt
  rw [plain.normal_eq]
  refine Ends.bind (Workplace.ends_isThere_of_exists? there) ?_
  refine Ends.bind (Workplace.ends_readFile_of_read read) ?_
  refine Ends.bind (ends_ofExcept_iff.mpr ⟨ofFile_noteFile.symm, rfl⟩) ?_
  refine Ends.bind (ends_ofExcept_iff.mpr ⟨loadIntent_noteDocument.symm, rfl⟩) ?_
  exact ends_pure_iff.mpr ⟨rfl, rfl⟩

/-- A bare disk is marked, which leaves it bare and the snapshot as it is. -/
theorem exists_touch (bare : IsBare d) : ∃ d', Workplace.touch Workplace.lockName d = .ok d' ∧
    IsBare d' ∧ d'.entry? [snapshotName] = d.entry? [snapshotName] := by
  have located := Disk.locate_plain bare.here isPlain_lockName
  have marked : IsBare (d.put [Workplace.lockName] (.file [])) ∧
      Disk.entry? (d.put [Workplace.lockName] (.file [])) [snapshotName] =
        d.entry? [snapshotName] := by
    refine ⟨bare.put (by decide) [], ?_⟩
    rw [Disk.entry_put, if_neg (by decide), if_neg (by decide)]
  have written (free : d.entry? [Workplace.lockName] ≠ some .directory) :
      d.write Workplace.lockName [] = .ok (d.put [Workplace.lockName] (.file [])) := by
    unfold Disk.write
    rw [located, ok_bind]
    split
    · next there => exact absurd there free
    · rfl
  unfold Workplace.touch Disk.look
  rw [located, ok_bind]
  cases there : d.entry? [Workplace.lockName] with
  | none => exact ⟨_, written bare.unlocked, marked⟩
  | some node =>
    cases node with
    | file content => exact ⟨d, rfl, bare, rfl⟩
    | directory => exact absurd there bare.unlocked

end IsBare

/-- Whether a registry is loaded from what stands in the place of the snapshot. -/
def Loads (d : Disk) (reg : Registry) : Prop :=
  d.entry? [snapshotName] = none ∧ reg = {} ∨
    ∃ content doc, d.entry? [snapshotName] = some (.file content) ∧
      Workplace.snapshotDocument snapshotName content = .ok doc ∧
      ∀ drawn, ∃ drawn', Registry.restore workplace.surroundings drawn doc = (drawn', .ok reg)

/-- What stands in the place of the snapshot is loaded. -/
theorem Loads.exists_ends {s : Session Shelf} {reg : Registry} (loads : Loads s.store.disk reg)
    (here : s.store.disk.here = "") : ∃ s', workplace.loadRegistry.Ends s (.ok reg) s' ∧
      s'.store = s.store ∧ s'.registry = reg := by
  have located := Disk.locate_plain here isPlain_snapshotName
  have named : workplace.snapshotPath = .ok snapshotName := by
    rw [isAt_workplace.snapshotPath_eq, isPlain_snapshotName.join_here]
  refine Workplace.exists_ends_loadRegistry named ?_
  rcases loads with ⟨missing, empty⟩ | ⟨content, doc, there, parsed, restores⟩
  · refine .inl ⟨?_, empty⟩
    rw [Disk.exists?, Disk.look, located, ok_bind, missing]
    rfl
  · have look : s.store.disk.look snapshotName = .ok (.file content) :=
      Disk.look_eq_ok_iff.mpr ⟨_, located, there⟩
    refine .inr ⟨content, doc, ?_, Disk.read_eq_ok_iff.mpr look, parsed, restores⟩
    rw [Disk.exists?, look]

/-- A visitor comes to the state. -/
theorem exists_ends_approach {d : Disk} (bare : IsBare d) {reg : Registry} (loads : Loads d reg)
    (identity : String) : ∃ errand s,
    Command.errand? (.create "i.json" identity none) = some errand ∧
    (workplace.approach errand).Ends (machine d).session (.ok (.create identity (.note "hi"))) s ∧
    IsBare s.store.disk ∧ s.registry = reg := by
  obtain ⟨d', touched, bare', same⟩ := bare.exists_touch
  have loads' : Loads d' reg := by
    rw [Loads, same]
    exact loads
  obtain ⟨s, loaded, store, registry⟩ := Loads.exists_ends
    (s := { (machine d).session with store := { (machine d).session.store with disk := d' } })
    loads' bare'.here
  have made : (machine d).session.store.disk.makeDirectory "." = (d, .ok ()) := by
    change Disk.makeDirectory d "." = _
    rw [Disk.makeDirectory, Path.ways_here, Disk.ensure]
  rw [← isPlain_lockName.join_here] at touched
  have entered : workplace.enter.Ends (machine d).session (.ok ()) s :=
    isAt_workplace.ends_enter made touched loaded
  have found := (bare.ends_intentAt (s := (machine d).session) rfl).bind
    (f := fun intent => pure (Errand.create identity intent)) (ends_pure_iff.mpr ⟨rfl, rfl⟩)
  refine ⟨_, s, rfl, found.bind (entered.bind (ends_pure_iff.mpr ⟨rfl, rfl⟩)), ?_, registry⟩
  rw [store]
  exact bare'

/-! ## Doing the errand -/

/-- Whether something that is minted is the note of a visitor: its rules are in short numbers, and
its event can be told exactly if the visitor is a whole text. -/
structure IsNote (identity : String) (stamp : Stamp) (m : Minting) : Prop where
  checked : m.IsChecked
  rules : m.rules.IsTyped
  brief : m.rules.IsBrief
  told : ∀ id, isRecordable id (createdEvent id m stamp) = true ↔
    IsShort (.integer id) ∧ Text.IsWhole identity

namespace IsNote

variable {identity : String} {stamp : Stamp} {m : Minting} (note : IsNote identity stamp m)
  {reg : Registry}

include note

/-- A note can be minted and written for as long as all that counts is short. -/
theorem isBrief_mint (before : reg.IsBrief) (next : IsShort (.integer (reg.nextId + 1)))
    (number : IsShort (.integer (reg.log.sequence + 1)))
    (version : IsShort (.integer
      ((reg.log.stream (.text (toString reg.nextId))).length + 1))) :
    (reg.mint 0 stamp m).1.IsBrief :=
  before.mint (note.checked.isTyped note.rules) note.brief Document.isShort_zero stamp next number
    version

/-- The note of a visitor that is a whole text is told of under the next number. -/
theorem exists_log_mint (short : IsShort (.integer reg.nextId)) (whole : Text.IsWhole identity) :
    ∃ reference, (reg.mint 0 stamp m).1.log =
      ⟨reg.log.records ++ [nextLogRecord reg.log reg.nextId (createdEvent reg.nextId m stamp)
        reference], reg.log.sequence + 1⟩ := by
  rcases reg.log_mint_cases 0 stamp m with ⟨reference, -, told⟩ | ⟨untold, -⟩
  · exact ⟨reference, told⟩
  · cases untold.symm.trans ((note.told _).mpr ⟨short, whole⟩)

/-- That of another takes a number and is not told of. -/
theorem log_mint_of_half (short : IsShort (.integer reg.nextId)) (half : ¬ Text.IsWhole identity) :
    (reg.mint 0 stamp m).1.log = ⟨reg.log.records, reg.log.sequence + 1⟩ := by
  have numeral := Document.hasLongNumeral_eq_false_iff (.integer reg.nextId)
  rcases reg.log_mint_cases 0 stamp m with ⟨reference, told, -⟩ | ⟨-, untold⟩
  · exact absurd ((note.told _).mp told).2 half
  · rw [untold, numeral.mpr (by simpa using short), if_neg Bool.false_ne_true]

end IsNote

theorem put_files (st : Shelf) (content : Bytes) :
    (((Workplace.files ".").put st content).result =
      ((FileStore.store Workplace.contentDirectory).put st.disk content).result) ∧
    ((Workplace.files ".").put st content).state.disk =
      ((FileStore.store Workplace.contentDirectory).put st.disk content).state := by
  unfold Workplace.files
  rw [isPlain_contentDirectory.join_here]
  generalize FileStore.store Workplace.contentDirectory = store
  exact ⟨rfl, rfl⟩

/-- On a bare disk the errand of a visitor is one mint. -/
theorem exists_ends_carry {identity : String} (named : Text.isBlankText identity = false)
    {s : Session Shelf} (bare : IsBare s.store.disk) : ∃ stamp m r v,
    (workplace.carry (.create identity (.note "hi"))).Ends s r v ∧ IsNote identity stamp m ∧
      v.registry = (s.registry.mint 0 stamp m).1 := by
  obtain ⟨c, made, is, image, count⟩ := exists_client identity
  have around : c.surroundings = workplace.surroundings := Workplace.surroundings_of_client made
  have whole : Text.IsWhole "hi" := by decide
  have clear := FileStore.isClear_of_isPlain isPlain_contentDirectory (by decide)
  generalize drawn : c.surroundings.source.key s.draws.keys = key
  generalize drawn' : c.surroundings.source.nonce s.draws.nonces = nonce
  obtain ⟨put, tidy⟩ := bare.isTidy.put isPlain_contentDirectory clear
    (Gcm.encrypt key.bytes nonce (Text.utf8 "hi"))
  rw [← (put_files ..).1] at put
  rw [← (put_files ..).2] at tidy
  have now : c.surroundings.now = 0 := by rw [around]; rfl
  have hash : Text.IsWhole (ofText (Intent.noteSheet "hi").canonicalText) :=
    (isHex_ofBytes _).isWhole
  have described := Client.canonical_metadataOf_note image (now ▸ Document.isShort_zero) "hi" hash
    (isHex_ofBytes (Gcm.encrypt key.bytes nonce (Text.utf8 "hi"))).isWhole
    (Text.isHex_toHex nonce).isWhole
  obtain ⟨put', -⟩ := tidy.put isPlain_contentDirectory clear (Text.utf8 _)
  rw [← (put_files ..).1] at put'
  obtain ⟨m, draws, r, u, ends, checked, creator, points, rules, registry, -⟩ :=
    Client.exists_mint_of_create (Intent.hasTerms_note "hi") Rehearsal.accepted_hi
      (Intent.compile_note whole _) (by rw [now]) (Intent.content_note whole)
      (by rw [is]; exact named) count drawn drawn' put rfl described put' rfl
      (Text.isBlankText_ofBytes _)
  rw [now] at registry rules
  have typed : m.rules.IsTyped := by
    rw [rules]
    exact ⟨⟨rfl, rfl⟩, ⟨_, rfl⟩, ⟨_, rfl⟩, ⟨_, rfl⟩, ⟨_, rfl⟩, ⟨_, rfl⟩, ⟨_, rfl⟩, ⟨_, rfl⟩⟩
  have brief : m.rules.IsBrief := by
    rw [rules]
    exact ⟨Document.isShort_zero, Document.isShort_zero, Document.isShort_one⟩
  obtain ⟨x, does⟩ := Workplace.leavesAs_discard _ _ _ _ ends
  refine ⟨c.surroundings.stamp draws, m, x, u, ?_, ⟨checked, typed, brief, fun id => ?_⟩,
    registry⟩
  · rw [isAt_workplace.carry_eq]
    exact (ends_ofExcept_iff.mpr ⟨made.symm, rfl⟩).bind does
  · have written : c.surroundings.IsWritten := around ▸ Source.isWritten_numbered 0 .null
    rw [Registry.isRecordable_createdEvent_iff, creator, is, points]
    exact ⟨fun all => ⟨all.1, all.2.2.2.1⟩, fun all => ⟨all.1, written.eventId _,
      written.timestamp, all.2, Text.isWhole_of_isDigest checked.isDigest,
      (isHex_ofBytes _).isWhole⟩⟩

/-! ## A visit -/

section

variable {d : Disk} (bare : IsBare d) {reg : Registry} (loads : Loads d reg) {identity : String}
  (head : identity.toList.head? ≠ some '-') (named : Text.isBlankText identity = false)

include bare loads head named

/-- A visit is attended by one mint. -/
theorem exists_attend_line (kept : Registry) : ∃ stamp m, IsNote identity stamp m ∧
    (machine d).attend (line identity) kept = (kept.mint 0 stamp m).1 := by
  obtain ⟨errand, s, wanted, came, bare', -⟩ := exists_ends_approach bare loads identity
  obtain ⟨stamp, m, r, v, done, note, registry⟩ :=
    exists_ends_carry named (s := { s with registry := kept }) bare'
  refine ⟨stamp, m, note, ?_⟩
  rw [Machine.attend_of_came (bare.setup?_line head) wanted came done, registry]

/-- A visit leaves the snapshot that it finds, or that of the registry that it loads, after one
mint. -/
theorem isKept_run_line :
    snapshotAt "." ((machine d).run (line identity)).1.disk = snapshotAt "." d ∨
    ∃ stamp m, IsNote identity stamp m ∧ (∃ text, (reg.mint 0 stamp m).1.saved = .ok text) ∧
      IsKept "." ((machine d).run (line identity)).1.disk (reg.mint 0 stamp m).1 := by
  obtain ⟨errand, s, wanted, came, bare', rfl⟩ := exists_ends_approach bare loads identity
  obtain ⟨stamp, m, r, v, done, note, registry⟩ := exists_ends_carry named bare'
  rcases (machine d).disk_run (line identity) with ⟨w, c, r', s', is, ends, left⟩ | ⟨is, left⟩
  · cases (bare.setup?_line head).symm.trans is
    rw [left]
    cases Workplace.passes_perform wanted ends with
    | stopped failed => cases (came.unique failed).1
    | saved came' done' written =>
      obtain ⟨same, rfl⟩ := came.unique came'
      cases same
      obtain ⟨-, rfl⟩ := done.unique done'
      obtain ⟨site, inside⟩ := isAt_workplace.isIn_of_approach came
      obtain ⟨located, free, same⟩ := inside.after_carry isAt_workplace done
      have before := isAt_workplace.keepsSnapshot_approach wanted _ _ _ came
      by_cases short : ∃ doc, v.registry.snapshot = .ok doc ∧ doc.hasLongNumeral = false
      · obtain ⟨doc, snapshot, short⟩ := short
        have saved : v.registry.saved = .ok (doc.toJson .line) := by
          rw [Registry.saved, snapshot, ok_bind, short]
          rfl
        refine .inr ⟨stamp, m, note, registry ▸ ⟨_, saved⟩, registry ▸ .inr ⟨doc, snapshot, ?_⟩⟩
        exact Workplace.snapshotAt_of_saveRegistry isAt_workplace located free snapshot short written
      · left
        have long : ∀ doc, v.registry.snapshot = .ok doc → doc.hasLongNumeral = true := by
          intro doc snapshot
          rw [← Bool.not_eq_false]
          exact fun is => short ⟨doc, snapshot, is⟩
        rw [Workplace.eq_of_saveRegistry isAt_workplace long written, same, before]
        rfl
  · cases (bare.setup?_line head).symm.trans is

end

theorem isAt_of_setup?_line {d : Disk} (bare : IsBare d) {identity : String}
    (head : identity.toList.head? ≠ some '-') :
    ∀ w c, (machine d).setup? (line identity) = some (w, c) → w.IsAt "." := by
  intro w c is
  cases (bare.setup?_line head).symm.trans is
  exact isAt_workplace

theorem snapshotAt_here {d : Disk} (here : d.here = "") : snapshotAt "." d =
    match d.entry? [snapshotName] with
    | some (.file content) => some content
    | _ => none := by
  apply Workplace.snapshotAt_of_locate
  rw [isPlain_snapshotName.join_here, Disk.locate_plain here isPlain_snapshotName]

theorem absent_desk : desk.entry? [snapshotName] = none := by
  simp [desk, Disk.entry?, Disk.isGiven, snapshotName]

theorem snapshotAt_desk : snapshotAt "." (machine desk).disk = none := by
  change snapshotAt "." desk = none
  rw [snapshotAt_here rfl, absent_desk]

/-- A snapshot of any content can lie on a bare disk. -/
theorem exists_isBare_of_content (content : Bytes) :
    ∃ d, IsBare d ∧ snapshotAt "." d = some content := by
  have bare : IsBare (desk.put [snapshotName] (.file content)) := isBare_desk.put (by decide) content
  refine ⟨_, bare, ?_⟩
  rw [snapshotAt_here bare.here, Disk.entry_put, if_neg (by decide), if_pos rfl]

/-! ## A snapshot that falls behind -/

section

variable {d : Disk} {reg : Registry} (paged : reg.IsPaged) (written : ∃ text, reg.saved = .ok text)
  {doc : Document} (snapshot : reg.snapshot = .ok doc)
  (held : snapshotAt "." d = some (Text.utf8 (doc.toJson .page)))

include paged written snapshot held

/-- From a snapshot the registry is loaded with the last number that it tells of. -/
theorem exists_loads_of_snapshotAt (here : d.here = "") : ∃ loaded, Loads d loaded ∧ loaded.IsPaged ∧
    loaded.nextId = reg.nextId ∧
    loaded.log = ⟨reg.log.records, EventLog.lastNumber reg.log.records⟩ := by
  obtain ⟨es, holds⟩ := paged.entries
  cases holds.snapshot_eq.symm.trans snapshot
  have there : d.entry? [snapshotName] =
      some (.file (Text.utf8 ((reg.document es).toJson .page))) := by
    rw [snapshotAt_here here] at held
    split at held
    · next content there => rw [there, Option.some.inj held]
    · cases held
  have parsed := holds.parse_page (holds.written_iff.mp written)
  refine ⟨reg.reread es, .inr ⟨_, (reg.document es).reread .page, there, ?_,
    fun drawn => ⟨drawn, ?_⟩⟩,
    ⟨⟨_, holds.reread⟩, paged.flat⟩, rfl, rfl⟩
  · unfold Workplace.snapshotDocument
    simp only [Text.fromUtf8_utf8, parsed]
  · exact holds.restore_page paged.flat _ drawn

/-- If the registry in memory has given a number that its records do not tell of, then after another
visit the snapshot is not that of the registry in memory any more. -/
theorem not_isKept_of_ahead (bare : IsBare d)
    (ahead : reg.log.sequence ≠ EventLog.lastNumber reg.log.records)
    (short : IsShort (.integer reg.nextId)) {identity : String}
    (head : identity.toList.head? ≠ some '-') (named : Text.isBlankText identity = false)
    (whole : Text.IsWhole identity)
    (written' : ∃ text, ((machine d).attend (line identity) reg).saved = .ok text) :
    ¬ IsKept "." ((machine d).run (line identity)).1.disk
      ((machine d).attend (line identity) reg) := by
  obtain ⟨loaded, loads, paged', next, log⟩ :=
    exists_loads_of_snapshotAt paged written snapshot held bare.here
  obtain ⟨stamp, m, note, is⟩ := exists_attend_line bare loads head named reg
  obtain ⟨reference, told⟩ := note.exists_log_mint short whole
  have left := paged.mint note.checked note.rules 0 stamp
  rw [is] at written' ⊢
  intro final
  rcases isKept_run_line bare loads head named with same | ⟨stamp', m', note', written'', final'⟩
  · have final' : IsKept "." _ reg := .of_same (.inr ⟨doc, snapshot, held⟩) same
    have records := final.records_eq final' left paged written' written
    rw [told] at records
    simp at records
  · obtain ⟨reference', told'⟩ := note'.exists_log_mint (next ▸ short) whole
    have left' := paged'.mint note'.checked note'.rules 0 stamp'
    have records := final.records_eq final' left left' written' written''
    rw [told, told', log] at records
    have last := List.singleton_inj.mp (List.append_cancel_left records)
    have numbers : reg.log.sequence + 1 = EventLog.lastNumber reg.log.records + 1 :=
      congrArg LogRecord.sequence last
    exact ahead (by omega)

end

end Visit

end RuleBound.Cli
