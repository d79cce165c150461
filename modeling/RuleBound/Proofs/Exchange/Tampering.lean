import RuleBound.Proofs.Exchange.Delivery
import RuleBound.Proofs.Tidy

/-!
Tampering: what a store on disk cannot do to an object. The record of an object names its metadata
by digest, the metadata names the content by digest, and the key to the content is in the link. So
whatever becomes of the files, an access that is answered with content is answered with the content
that was sealed. Files can be taken away, or spoiled, but not exchanged for others.

This rests on the link being read as the link that was written. An origin with a number sign ends
the address early, and what follows it is taken for the key.
-/

namespace RuleBound

open Document (IsShort)
open Sha256 (ofBytes)

variable {σ α : Type}

/-- Attempts at an operation that leaves the store leave it. -/
theorem Reply.Leads.eq_of_still {operation : σ → Reply σ α} {s s' : σ}
    (leads : Reply.Leads operation s s') (still : ∀ s, (operation s).state = s) : s' = s :=
  leads.keeps (P := (· = s)) (fun u same => (still u).trans same) rfl

theorem ContentStore.result_put_watched (store : ContentStore σ) (st : σ × List Query)
    (content : Bytes) : (store.watched.put st content).result = (store.put st.1 content).result :=
  rfl

/-- What was put into a watched store stands in its list of queries. -/
theorem ContentStore.put_mem_of_stores {store : ContentStore σ} {st w : σ × List Query}
    {content : Bytes} {pointer : String} (stores : store.watched.Stores st w content pointer) :
    .put content ∈ w.2 := by
  obtain ⟨u, -, -, after⟩ := stores
  induction after with
  | refl => exact List.mem_append_right _ List.mem_cons_self
  | tail _ next ih =>
    rcases next with ⟨other, rfl⟩ | ⟨pointer, rfl⟩
    · exact List.mem_append_left _ ih
    · exact List.mem_append_left _ ih

namespace FileStore

variable {root : String} {d : Disk}

/-- A put that is answered is answered with the digest, whatever stands on the disk. -/
theorem eq_of_put {content : Bytes} {pointer : String}
    (answered : ((store root).put d content).result = .ok pointer) : pointer = ofBytes content := by
  change (put root d content).result = _ at answered
  unfold put at answered
  extract_lets digest at answered
  split at answered
  · cases answered
  · exact (Except.ok.inj answered).symm
  · unfold write at answered
    extract_lets target fail at answered
    split at answered
    · cases answered
    · split at answered
      · cases answered
      · exact (Except.ok.inj answered).symm

/-- Whether a disk has a file with some content. -/
def Holds (d : Disk) (content : Bytes) : Prop := ∃ place, d.entry? place = some (.file content)

/-- What a disk holds after a put it held before, or it is what was put. -/
theorem holds_of_put (own : IsOwn root d) (clear : IsClear root) {content b : Bytes}
    (holds : Holds ((store root).put d content).state b) : b = content ∨ Holds d b := by
  obtain ⟨place, stands⟩ := holds
  rcases (putLeaves own clear content).grows.fresh _ _ stands with old | directory | same
  · exact .inr ⟨place, old⟩
  · cases directory
  · cases same
    exact .inl rfl

theorem holds_of_get {content : Bytes} {pointer : Document}
    (got : ((store root).get d pointer).result = .ok content) : Holds d content := by
  obtain ⟨digest, -, found, -⟩ := get_eq_ok_iff.mp got
  obtain ⟨place, -, stands⟩ := Disk.look_eq_ok_iff.mp found
  exact ⟨place, stands⟩

/-- The digest of some content gets nothing else, whatever stands on the disk, if no file has other
content of the same digest. -/
theorem eq_of_get {content b : Bytes} {known : Set Bytes} (faithful : Set.InjOn ofBytes known)
    (here : content ∈ known) (held : ∀ b, Holds d b → b ∈ known)
    (got : ((store root).get d (.text (ofBytes content))).result = .ok b) : b = content := by
  obtain ⟨digest, spelled, found, same⟩ := get_eq_ok_iff.mp got
  cases (digestOfPointer_ofBytes content).symm.trans spelled
  obtain ⟨place, -, stands⟩ := Disk.look_eq_ok_iff.mp found
  exact faithful (held b ⟨place, stands⟩) here same

end FileStore

namespace Client

variable {c : Client} {store : ContentStore σ} {s s' : Session σ}

/-- How an access that is answered comes about: its object and the metadata are found, and unless it
is refused, content is got and opened. -/
theorem ends_accessWithin_ok {link : CapabilityLink} {a : Action} {context : Given Bytes}
    {result : AccessResult} (ends : (c.accessWithin store link a context).Ends s (.ok result) s') :
    ∃ id record m u, s.registry.find link.objectId = .ok (id, record) ∧
      (c.fetchMetadata store record.pointer).Ends s (.ok m) u ∧
      ((result.allowed = false ∧ result.content = none) ∨
        result.allowed = true ∧ ∃ v ciphertext content, result.content = some content ∧
          Reply.Leads (store.get · (.text m.pointer)) u.store v ∧
          (store.get v (.text m.pointer)).result = .ok ciphertext ∧
          link.key.unseal ⟨m.nonce, Text.toHex ciphertext⟩ = .ok content) := by
  unfold accessWithin at ends
  rw [Task.ends_get_bind_iff] at ends
  obtain ⟨⟨id, record⟩, found, ends⟩ := Task.ends_ofExcept_bind_ok_iff.mp ends
  obtain ⟨m, u, fetched, ends⟩ := Task.ends_bind_ok_iff.mp ends
  refine ⟨id, record, m, u, found, fetched, ?_⟩
  by_cases differ : Document.text m.rulesHash ≠ record.rulesHash
  · rw [if_pos differ] at ends
    cases (Task.ends_throw_bind_iff.mp ends).1
  rw [if_neg differ] at ends
  obtain ⟨bytes, given, ends⟩ := Task.ends_ofExcept_bind_ok_iff.mp ends
  obtain ⟨outcome, v, decided, ends⟩ := Task.ends_bind_ok_iff.mp ends
  obtain ⟨left, -⟩ := Task.ends_request decided
  cases verdict : outcome.allowed with
  | false =>
    rw [verdict, if_pos (by rfl), Task.ends_note_bind_iff] at ends
    cases (Task.ends_pure_iff.mp ends).1
    exact .inl ⟨rfl, rfl⟩
  | true =>
    rw [verdict, if_neg (by simp)] at ends
    obtain ⟨ciphertext, w, got, ends⟩ := Task.ends_bind_ok_iff.mp ends
    obtain ⟨-, st, leads, -, got⟩ := Task.ends_throughStore_ok got
    obtain ⟨content, x, unsealed, ends⟩ := Task.ends_bind_ok_iff.mp ends
    cases (Task.ends_pure_iff.mp ends).1
    refine .inr ⟨rfl, st, ciphertext, content, rfl, left ▸ leads, got, ?_⟩
    have opened := (Task.ends_openContent unsealed).1
    cases tried : link.key.unseal ⟨m.nonce, Text.toHex ciphertext⟩ with
    | ok bytes =>
      rw [tried] at opened
      cases opened
      rfl
    | error f =>
      rw [tried] at opened
      cases opened

end Client

section Created

variable {root : String} {s w : Session (Disk × List Query)} {c : Client} {intent : Intent}
  {o : CreatedObject} {k : Making}
  (made : k.IsOf c (FileStore.store root).watched intent s w o)
  (distinct : Document.Every Document.HasDistinctNames c.image)
  {known : Set Bytes} (faithful : Set.InjOn ofBytes known)
  (put : ∀ b, .put b ∈ w.store.2 → b ∈ known)

include made faithful put

include distinct in
/-- Metadata that is fetched from a disk by the pointer of an object is what was written of it. -/
theorem Making.IsOf.eq_of_fetchMetadata {c' : Client} {t u : Session Disk} {m : Metadata}
    (held : ∀ b, FileStore.Holds t.store b → b ∈ known)
    (fetched : (c'.fetchMetadata (FileStore.store root) (.text k.minting.pointer)).Ends t (.ok m) u) :
    u.store = t.store ∧ m.pointer = o.contentPointer ∧ m.nonce = Text.toHex k.nonce := by
  obtain ⟨v, -, answered, -⟩ := made.metadata
  rw [ContentStore.result_put_watched] at answered
  have pointer : k.minting.pointer = ofBytes k.metadata :=
    made.pointer.trans (FileStore.eq_of_put answered)
  unfold Client.fetchMetadata at fetched
  obtain ⟨d, x, got, ends⟩ := Task.ends_bind_ok_iff.mp fetched
  obtain ⟨read, rfl⟩ := Task.ends_ofExcept_iff.mp ends
  obtain ⟨-, st, leads, left, got⟩ := Task.ends_throughStore_ok got
  cases leads.eq_of_still fun _ => rfl
  obtain ⟨b, got, spelled⟩ := bind_eq_ok_iff.mp got
  rw [pointer] at got
  have same := FileStore.eq_of_get faithful (put _ (ContentStore.put_mem_of_stores made.metadata))
    held got
  have fields : (c.metadataOf intent k.minting.rulesHash o.contentPointer
      (Text.toHex k.nonce)).IsDistinct := ⟨distinct, (Document.Every.integer_iff _).mpr trivial⟩
  rw [same, Making.metadata, documentOfBytes_canonical made.written fields.toDocument] at spelled
  rw [← Except.ok.inj spelled] at read
  obtain ⟨-, pointer', nonce⟩ := Metadata.eq_of_ofDocument_reread made.written fields read.symm
  exact ⟨left, pointer', nonce⟩

/-- Content that is got from a disk through the metadata of an object, and opened under its key, is
what was sealed. -/
theorem Making.IsOf.eq_of_unseal {d : Disk} {nonce : String} {ciphertext content : Bytes}
    (held : ∀ b, FileStore.Holds d b → b ∈ known) (drawn : nonce = Text.toHex k.nonce)
    (got : ((FileStore.store root).get d (.text o.contentPointer)).result = .ok ciphertext)
    (opened : k.key.unseal ⟨nonce, Text.toHex ciphertext⟩ = .ok content) : content = k.content := by
  obtain ⟨v, -, answered, -⟩ := made.ciphertext
  rw [ContentStore.result_put_watched] at answered
  rw [FileStore.eq_of_put answered] at got
  have same := FileStore.eq_of_get faithful (put _ (ContentStore.put_mem_of_stores made.ciphertext))
    held got
  rw [drawn, same] at opened
  by_cases size : k.nonce.length = nonceSize
  · have seals := k.key.unseal_seal size k.content
    exact (Except.ok.inj (seals.symm.trans opened)).symm
  · unfold ContentKey.unseal at opened
    simp only [Text.fromHex?_toHex, ne_eq, size, not_false_eq_true, if_true] at opened
    cases opened

end Created

/-- An access to an object is answered with the content of the intent or with a refusal, whatever
has become of the files since the object was created over them. The origin of its link has no
query and no fragment, and no two contents that were put or that stand on the disk have one
digest. -/
theorem access_tampered {root : String} {s s₁ s' : Session Disk} {c c' : Client} {intent : Intent}
    {o : CreatedObject} (created : (c.create (FileStore.store root) intent).Ends s (.ok o) s₁)
    (distinct : Document.Every Document.HasDistinctNames c.image)
    (unmarked : '#' ∉ c.origin.toList) (queryless : '?' ∉ c.origin.toList)
    {ops : List (Operation Disk)}
    (faithful : Set.InjOn ofBytes {b | c.Puts (FileStore.store root) intent s b ∨
      FileStore.Holds (s₁.run (FileStore.store root) ops).store b})
    {action : Document} {context : Given Bytes} {result : AccessResult}
    (ends : (c'.access (FileStore.store root) (.text o.link) action context).Ends
      (s₁.run (FileStore.store root) ops) (.ok result) s') :
    (result.allowed = false ∧ result.content = none) ∨
      result.allowed = true ∧ ∃ content, result.content = some content ∧
        intent.payload.Carries content := by
  obtain ⟨w, watched, rfl⟩ := Client.exists_watched_of_create created
  obtain ⟨k, made⟩ := Client.exists_making watched
  have deeds : Registry.Leads (w.view Prod.fst).registry
      (Session.run (FileStore.store root) (w.view Prod.fst) ops).registry :=
    Session.registry_leads_run _ ops
  have minted := made.minted.leads deeds
  generalize Session.run (FileStore.store root) (w.view Prod.fst) ops = t at minted faithful ends
  have put : ∀ b, .put b ∈ w.store.2 → b ∈ {b | c.Puts (FileStore.store root) intent s b ∨
      FileStore.Holds t.store b} := fun b mem => .inl ⟨_, w, watched, mem⟩
  unfold Client.access at ends
  obtain ⟨link, parsed, ends⟩ := Task.ends_ofExcept_bind_ok_iff.mp ends
  rw [made.link] at parsed
  obtain ⟨named, unlocks⟩ := CapabilityLink.eq_of_parseText_build
    (l := ⟨c.origin, .integer o.id, k.key⟩) rfl unmarked queryless parsed
  unfold Client.accessThrough at ends
  obtain ⟨a, -, ends⟩ := Task.ends_ofExcept_bind_ok_iff.mp ends
  rw [Task.ends_bind_iff_of_ends (Task.ends_correlate_iff.mpr ⟨rfl, rfl⟩)] at ends
  generalize (c'.surroundings.correlate t.draws).2 = draws at ends
  obtain ⟨answer, u, answered, ends⟩ := Task.ends_bind_ok_iff.mp ends
  have same : result = answer := by
    dsimp only at ends
    split at ends
    · rw [Task.ends_note_bind_iff, Task.ends_pure_iff] at ends
      exact Except.ok.inj ends.1
    · exact Except.ok.inj (Task.ends_pure_iff.mp ends).1
  subst same
  obtain ⟨id, record, m, v, found, fetched, refused | ⟨allowed, x, ciphertext, content, carried, leads,
    got, opened⟩⟩ := Client.ends_accessWithin_ok answered
  · exact .inl refused
  obtain ⟨record', there, -, points⟩ := minted.exists_record
  have known : t.registry.find link.objectId = .ok (o.id, record') := by
    rw [named, Registry.find]
    simp only [there]
  cases known.symm.trans found
  rw [points] at fetched
  have held : ∀ b, FileStore.Holds t.store b → b ∈ {b | c.Puts (FileStore.store root) intent s b ∨
      FileStore.Holds t.store b} := fun b here => .inr here
  obtain ⟨left, pointer, nonce⟩ :=
    made.eq_of_fetchMetadata (t := { t with draws := draws }) distinct faithful put held fetched
  cases leads.eq_of_still fun _ => rfl
  rw [pointer, left] at got
  rw [unlocks] at opened
  exact .inr ⟨allowed, content, carried,
    made.eq_of_unseal faithful put held nonce got opened ▸ made.carries⟩

/-! ## Notes on disk -/

namespace Rehearsal

theorem isPlain_cas : Path.IsPlain "cas" := ⟨by decide, by decide, by decide, by decide, by decide⟩

theorem isClear_cas : FileStore.IsClear "cas" := FileStore.isClear_of_isPlain isPlain_cas (by decide)

theorem isTidy_cas : FileStore.IsTidy "cas" {} := FileStore.isTidy_empty isPlain_cas

section Creates

variable {s : Session Disk} (tidy : FileStore.IsTidy "cas" s.store) {text : String}
  (accepted : (Intent.note text).review = .ok (.accepted (.note text) [])) (whole : Text.IsWhole text)
  (origin : String) {identity : String} (named : Text.isBlankText identity = false)
  (whole' : Text.IsWhole identity) (short : IsShort (.integer s.registry.nextId))

include tidy accepted whole named whole' short

/-- A tidy disk takes a note, and nothing comes to stand on it but the sealed note and its
metadata. -/
theorem exists_ends_create_note_cas :
    ∃ o s₁, ((client origin identity).create (FileStore.store "cas") (.note text)).Ends s (.ok o) s₁ ∧
      o.id = s.registry.nextId ∧
      o.link = CapabilityLink.build ⟨origin, .integer o.id, Source.numbered.key s.draws.keys⟩ ∧
      s₁.registry.nextId = s.registry.nextId + 1 ∧ FileStore.IsTidy "cas" s₁.store ∧
      (∀ b, FileStore.Holds s₁.store b →
        b = description text s.draws ∨ b = ciphertext text s.draws ∨ FileStore.Holds s.store b) ∧
      ∀ b, (client origin identity).Puts (FileStore.store "cas") (.note text) s b →
        b = ciphertext text s.draws ∨ b = description text s.draws := by
  obtain ⟨put, tidy'⟩ := tidy.put isPlain_cas isClear_cas (ciphertext text s.draws)
  obtain ⟨put', tidy''⟩ := tidy'.put isPlain_cas isClear_cas (description text s.draws)
  obtain ⟨w, ends, left, next⟩ :=
    exists_ends_create_note accepted whole origin named put put' whole' short
  have ends' := Client.mirrors_create _ _ _ _ _ ends
  rw [Session.view_watched] at ends'
  have stored : (w.view Prod.fst).store = ((FileStore.store "cas").put ((FileStore.store "cas").put
      s.store (ciphertext text s.draws)).state (description text s.draws)).state := by
    change w.store.1 = _
    rw [left]
  refine ⟨_, _, ends', rfl, rfl, next, ?_, fun b holds => ?_, fun b puts => ?_⟩
  · rw [stored]
    exact tidy''
  · rw [stored] at holds
    exact (FileStore.holds_of_put tidy'.own isClear_cas holds).imp_right
      (FileStore.holds_of_put tidy.own isClear_cas)
  · exact eq_of_puts_note accepted whole named put put' whole' short puts

end Creates

theorem not_holds_empty (b : Bytes) : ¬ FileStore.Holds {} b := by
  rintro ⟨place, stands⟩
  simp only [ Disk.entry?] at stands
  split at stands
  · cases stands
  · cases stands

/-- Contents whose digests are told apart are told apart by their digests. -/
theorem injOn_of_nodup {contents : List Bytes} (apart : (contents.map ofBytes).Nodup)
    {known : Set Bytes} (among : ∀ b ∈ known, b ∈ contents) : Set.InjOn ofBytes known :=
  fun _ mem _ mem' same => List.inj_on_of_nodup_map apart (among _ mem) (among _ mem') same

end Rehearsal

open Rehearsal

/-- A note on disk is read as it was written although a file was added. -/
theorem access_tampered_hi :
    ∃ o s₁ d result s', ((client "http://h" "alice").create (FileStore.store "cas")
        (.note "hi")).Ends (opening {}) (.ok o) s₁ ∧
      FileStore.Holds d [0] ∧
      ((client "http://h" "bob").access (FileStore.store "cas") (.text o.link) (.text "READ")
        (.member [])).Ends (s₁.run (FileStore.store "cas") [.exchange d]) (.ok result) s' ∧
      result.allowed = true ∧ ∃ content, result.content = some content ∧
        (Intent.note "hi").payload.Carries content := by
  obtain ⟨o, s₁, created, -, -, -, tidy, holds, puts⟩ := exists_ends_create_note_cas
    (s := opening {}) isTidy_cas accepted_hi (by decide) "http://h"
    (by decide : Text.isBlankText "alice" = false) (by decide) Document.isShort_one
  have known : ∀ b, FileStore.Holds s₁.store b →
      b ∈ [[0], description "hi" {}, ciphertext "hi" {}] := by
    intro b held
    rcases holds b held with rfl | rfl | none
    · simp [opening]
    · simp [opening]
    · exact absurd none (not_holds_empty b)
  have put : ∀ b,
      (client "http://h" "alice").Puts (FileStore.store "cas") (.note "hi") (opening {}) b →
      b ∈ [[0], description "hi" {}, ciphertext "hi" {}] := by
    intro b puts'
    rcases puts b puts' with rfl | rfl
    · simp [opening]
    · simp [opening]
  have apart : ([[0], description "hi" {}, ciphertext "hi" {}].map ofBytes).Nodup := by
    simp only [List.map_cons, List.map_nil, ofBytes_description_hi, ofBytes_ciphertext_hi]
    decide +kernel
  have faithful : Set.InjOn ofBytes {b | (∃ pointer,
      ((FileStore.store "cas").get {} pointer).result = .ok b) ∨
      (client "http://h" "alice").Puts (FileStore.store "cas") (.note "hi") (opening {}) b} := by
    refine injOn_of_nodup apart fun b held => held.elim (fun ⟨pointer, got⟩ => ?_) (put b)
    exact absurd (FileStore.holds_of_get got) (not_holds_empty b)
  have named : Text.isBlankText "bob" = false := by decide
  have whole : Text.IsWhole "bob" := by decide
  have asked : ∀ x ∈ [Operation.put [0]], (x : Operation Disk).isExchange = false := by
    simp [Operation.isExchange]
  obtain ⟨result, s', ends, allowed, -⟩ := exists_ends_read_note
    (s := opening ({} : Disk)) (.file isClear_cas) isTidy_cas.own (by decide) isOrigin_http
    (by decide) created faithful asked "http://h" named whole
  generalize added : ((FileStore.store "cas").put s₁.store [0]).state = d
  have left : s₁.run (FileStore.store "cas") [.put [0]] =
      s₁.run (FileStore.store "cas") [.exchange d] := by
    rw [← added]
    rfl
  have held : ∀ b, FileStore.Holds d b → b ∈ [[0], description "hi" {}, ciphertext "hi" {}] := by
    intro b held
    rw [← added] at held
    rcases FileStore.holds_of_put tidy.own isClear_cas held with rfl | held
    · exact List.mem_cons_self
    · exact known b held
  rw [left] at ends
  refine ⟨o, s₁, d, result, s', created, ?_, ends, allowed, ?_⟩
  · obtain ⟨-, b, found, same⟩ := (FileStore.putLeaves tidy.own isClear_cas [0]).stored _
      (tidy.result_put isPlain_cas [0])
    obtain ⟨place, -, stands⟩ := Disk.look_eq_ok_iff.mp found
    have stands' : FileStore.Holds d b := ⟨place, added ▸ stands⟩
    have only : b = [0] := List.inj_on_of_nodup_map apart (held b stands') List.mem_cons_self same
    rw [← only]
    exact stands'
  have faithful' : Set.InjOn ofBytes
      {b | (client "http://h" "alice").Puts (FileStore.store "cas") (.note "hi") (opening {}) b ∨
        FileStore.Holds (s₁.run (FileStore.store "cas") [.exchange d]).store b} :=
    injOn_of_nodup apart fun b mem => mem.elim (put b) (held b)
  have carried := access_tampered created ((Document.Every.text_iff _).mpr trivial) (by decide)
    (by decide) faithful' ends
  rw [allowed] at carried
  simpa using carried

namespace Rehearsal

open CapabilityLink (dropEndSlashes fragmentOf visible_fragmentOf keyOfFragment_padded
  parseText_eq_ok_iff)

/-- The draws after one object was created. -/
def drawn : Draws := { keys := 1, nonces := 1 }

theorem accepted_ho : (Intent.note "ho").review = .ok (.accepted (.note "ho") []) := by rfl

/-- What the second note of a rehearsal is sealed to. -/
theorem ciphertext_ho : ciphertext "ho" drawn =
    [247, 161, 195, 141, 211, 161, 163, 3, 196, 147, 153, 192, 182, 39, 187, 11, 214, 220] := by
  decide +kernel

theorem ofBytes_ciphertext_ho : ofBytes (ciphertext "ho" drawn) =
    "839cd391b7a76c5fcd33f3b416f8d33a111c8922f3ecea91c75a1dfd0079f373" := by
  rw [ciphertext_ho]
  decide +kernel

theorem ofBytes_description_ho : ofBytes (description "ho" drawn) =
    "2616b64bb1f8e65b2edb6cc42af557381aece469be34d2e9339509b32ba22179" := by
  rw [description, metadata, ofBytes_ciphertext_ho]
  decide +kernel

/-- The link of the first note. -/
def linkOfHi : CapabilityLink := ⟨"http://h", .integer 1, Source.numbered.key 0⟩

theorem padded_linkOfHi :
    (Text.sextets (Text.utf8 linkOfHi.key.exported)).length % 4 = 3 := by
  rw [ContentKey.exported_eq]
  decide +kernel

theorem build_marked (key : ContentKey) :
    CapabilityLink.build ⟨linkOfHi.build ++ "=", .integer 2, key⟩ =
      "http://h/1#" ++ (fragmentOf linkOfHi.key ++ "=" ++ ("/2#" ++ fragmentOf key)) := by
  have first : linkOfHi.build = "http://h/1#" ++ fragmentOf linkOfHi.key := by rfl
  have kept : dropEndSlashes (linkOfHi.build ++ "=").toList = (linkOfHi.build ++ "=").toList := by
    rw [dropEndSlashes, Text.dropEndWhile, String.toList_append, List.reverse_append]
    change (List.dropWhile _ ('=' :: linkOfHi.build.toList.reverse)).reverse = _
    rw [List.dropWhile_cons_of_neg (by decide)]
    simp
  have shown : "/2#" = "/" ++ (Document.integer 2).shown ++ "#" := by decide
  rw [CapabilityLink.build, kept, String.ofList_toList, first, shown]
  simp only [String.append_assoc]

/-- The link of a second note is read as the link of the first if the first link, padded, is its
origin. -/
theorem parse_marked (key : ContentKey) :
    CapabilityLink.parse (.text (CapabilityLink.build ⟨linkOfHi.build ++ "=", .integer 2, key⟩)) =
      .ok linkOfHi := by
  have visible : ∀ c ∈ ("/2#" ++ fragmentOf key).toList, Text.isBlank c = false := by
    intro c mem
    rw [String.toList_append, List.mem_append] at mem
    rcases mem with mem | mem
    · have none : "/2#".toList.any Text.isBlank = false := by decide
      simpa using List.any_eq_false.mp none c mem
    · exact visible_fragmentOf key c mem
  have plain : (("/2#" ++ fragmentOf key).toList.all fun c => c.toNat < 0x80) = true := by
    rw [String.toList_append, List.all_append, fragmentOf, Text.all_ascii_toBase64Url]
    rfl
  have carried := keyOfFragment_padded padded_linkOfHi visible plain
  rw [build_marked]
  generalize fragmentOf linkOfHi.key ++ "=" ++ ("/2#" ++ fragmentOf key) = fragment at carried
  have front : ("http://h/1#" ++ fragment).toList =
      "http://h/1".toList ++ '#' :: fragment.toList := by
    rw [String.toList_append]
    rfl
  refine parseText_eq_ok_iff.mpr ⟨by rw [front]; simp, ⟨"http", "h", "/1"⟩, 1, linkOfHi.key, ?_,
    by decide, by decide, ?_, by rfl⟩
  · rw [front, List.takeWhile_append_of_pos (List.all_eq_true.mp (by decide)),
      List.takeWhile_cons_of_neg (by decide)]
    rfl
  · rw [front, List.dropWhile_append_of_pos (List.all_eq_true.mp (by decide)),
      List.dropWhile_cons_of_neg (by decide)]
    simpa using carried

end Rehearsal

/-- If an origin has a number sign, then the link of a note can lead to another note: whoever follows
it reads what somebody else wrote. -/
theorem reads_other_note :
    ∃ o₁ s₁ o₂ s₂ result s',
      ((client "http://h" "alice").create (FileStore.store "cas") (.note "hi")).Ends (opening {})
        (.ok o₁) s₁ ∧
      ((client (o₁.link ++ "=") "carol").create (FileStore.store "cas") (.note "ho")).Ends
        { s₁ with draws := drawn } (.ok o₂) s₂ ∧
      Set.InjOn ofBytes {b | (client (o₁.link ++ "=") "carol").Puts (FileStore.store "cas")
        (.note "ho") { s₁ with draws := drawn } b ∨ FileStore.Holds s₂.store b} ∧
      ((client "http://h" "bob").access (FileStore.store "cas") (.text o₂.link) (.text "READ")
        (.member [])).Ends s₂ (.ok result) s' ∧
      result.allowed = true ∧ result.content = some (Text.utf8 "hi") ∧
      ¬ (Intent.note "ho").payload.Carries (Text.utf8 "hi") := by
  have named : ∀ name ∈ ["alice", "bob", "carol"],
      Text.isBlankText name = false ∧ Text.IsWhole name := by decide
  simp only [List.forall_mem_cons] at named
  obtain ⟨⟨alice, alice'⟩, ⟨bob, bob'⟩, ⟨carol, carol'⟩, -⟩ := named
  obtain ⟨o₁, s₁, created, id, link, next, tidy, holds, puts⟩ := exists_ends_create_note_cas
    (s := opening ({} : Disk)) isTidy_cas accepted_hi (by decide) "http://h" alice alice'
    Document.isShort_one
  have id₁ : o₁.id = 1 := id
  have next₁ : s₁.registry.nextId = 2 := next
  have link₁ : o₁.link = linkOfHi.build := by
    rw [link, id₁]
    rfl
  have apart : ([description "ho" drawn, ciphertext "ho" drawn, description "hi" {},
      ciphertext "hi" {}].map ofBytes).Nodup := by
    simp only [List.map_cons, List.map_nil, ofBytes_description_hi, ofBytes_ciphertext_hi,
      ofBytes_description_ho, ofBytes_ciphertext_ho]
    decide
  have faithful : Set.InjOn ofBytes {b | (∃ pointer,
      ((FileStore.store "cas").get {} pointer).result = .ok b) ∨
      (client "http://h" "alice").Puts (FileStore.store "cas") (.note "hi") (opening {}) b} := by
    refine injOn_of_nodup apart fun b held => held.elim (fun ⟨pointer, got⟩ => ?_) fun put => ?_
    · exact absurd (FileStore.holds_of_get got) (not_holds_empty b)
    · rcases puts b put with rfl | rfl
      · simp [opening]
      · simp [opening]
  -- The first note stays at hand while the second is made.
  obtain ⟨k, carries, sound, atHand, origin, parsed⟩ := exists_atHand_of_create
    (s := opening ({} : Disk)) (.file isClear_cas) isTidy_cas.own (by decide)
    (isCreator isOrigin_http) created faithful (List.forall_mem_nil _)
  generalize moved : ({ s₁ with draws := drawn } : Session Disk) = t
  have store : t.store = s₁.store := by rw [← moved]
  have draws : t.draws = drawn := by rw [← moved]
  have short : IsShort (.integer t.registry.nextId) := by
    rw [← moved]
    change IsShort (.integer s₁.registry.nextId)
    rw [next₁]
    exact Document.isShort_of_natAbs_lt (by decide)
  obtain ⟨o₂, s₂, created₂, id₂, link₂, -, -, holds₂, puts₂⟩ := exists_ends_create_note_cas
    (s := t) (store ▸ tidy) accepted_ho (by decide) (o₁.link ++ "=") carol carol' short
  rw [draws] at holds₂ puts₂
  rw [store] at holds₂
  have atHand₂ : k.IsAtHand (FileStore.store "cas") s₂ o₁ := by
    have atHand' : k.IsAtHand (FileStore.store "cas") t o₁ := by
      rw [← moved]
      exact ⟨atHand.minted, atHand.metadata, atHand.ciphertext⟩
    refine atHand'.leads (.file isClear_cas) ?_ (Client.isLawful_create _ _ _ _ _ _ created₂)
    rw [← moved]
    exact tidy.own
  have key : linkOfHi.key = k.key := by
    have read : CapabilityLink.parseText linkOfHi.build = .ok ⟨origin, .integer o₁.id, k.key⟩ :=
      link₁ ▸ parsed
    exact (CapabilityLink.eq_of_parseText_build rfl (by decide) (by decide) read).2.symm
  have parsed₂ : CapabilityLink.parse (.text o₂.link) = .ok ⟨"http://h", .integer o₁.id, k.key⟩ := by
    have second : o₂.id = 2 := by
      rw [id₂, ← moved]
      exact next₁
    rw [link₂, link₁, second, parse_marked, ← key, id₁]
    rfl
  have later : Session.Leads (FileStore.store "cas") { s₁ with draws := drawn } s₂ :=
    moved ▸ Client.isLawful_create _ _ _ _ _ _ created₂
  obtain ⟨result, s', ends, allowed, content⟩ := exists_ends_read (.file isClear_cas) sound atHand₂
    parsed₂ "http://h" bob bob' fun record found =>
      refusal?_of_create_note (by decide) created later.registry found 0 "bob"
  rw [carries.unique (.inl (Intent.content_note (by decide)))] at content
  refine ⟨o₁, s₁, o₂, s₂, result, s', created, moved ▸ created₂, ?_, ends, allowed, content, ?_⟩
  · rw [moved]
    refine injOn_of_nodup apart fun b held => ?_
    simp only [List.mem_cons, List.not_mem_nil, or_false]
    rcases held with put | stands
    · exact (puts₂ b put).elim (fun is => .inr (.inl is)) .inl
    · refine (holds₂ b stands).imp_right (Or.imp_right fun before => ?_)
      exact (holds b before).imp_right fun rest => rest.resolve_right (not_holds_empty b)
  · intro carried
    have same := carried.unique (.inl (Intent.content_note (by decide)))
    exact absurd same (by decide +kernel)

end RuleBound
