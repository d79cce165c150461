import RuleBound.Proofs.Cipher.Gcm
import RuleBound.Proofs.Registry.Recheck
import RuleBound.Proofs.Registry.WellFormed

/-!
Legacy commitments. The packed encoding of a legacy sheet tells the sheet, so a hash commits to one
sheet as long as no two encodings have one digest. A mint request under legacy rules is accepted
exactly under the hash of the sheet that its rules are taken from, and no call and no reload comes
between a record and its hash.
-/

namespace RuleBound

open Sha256 (ofBytes)

-- Powers are those of the core library, as in the encoding.
attribute [local instance (high)] instPowNat

/-! ## The encoding -/

theorem natOfBytes_concat (bytes : Bytes) (b : UInt8) :
    natOfBytes (bytes ++ [b]) = natOfBytes bytes * 256 + b.toNat := by
  rw [natOfBytes, List.foldl_append]
  rfl

/-- A number that has room is read back from its bytes. -/
theorem natOfBytes_bytesOfNat {width n : Nat} (small : n < 256 ^ width) :
    natOfBytes (bytesOfNat width n) = n := by
  induction width generalizing n with
  | zero =>
    rw [Nat.pow_zero, Nat.lt_one_iff] at small
    rw [small]
    rfl
  | succ width ih =>
    rw [Nat.pow_succ] at small
    have high : n / 256 < 256 ^ width := Nat.div_lt_of_lt_mul (by rwa [Nat.mul_comm])
    have low : (UInt8.ofNat (n % 256)).toNat = n % 256 := by simp
    rw [bytesOfNat, natOfBytes_concat, ih high, low]
    omega

theorem eq_of_bytesOfNat {width n m : Nat} (small : n < 256 ^ width) (small' : m < 256 ^ width)
    (same : bytesOfNat width n = bytesOfNat width m) : n = m := by
  rw [← natOfBytes_bytesOfNat small, same, natOfBytes_bytesOfNat small']

namespace LegacySheet

variable {s s' : LegacySheet} {packed : Bytes}

theorem packed_eq_ok_iff : s.packed = .ok packed ↔ (0 ≤ s.expiry ∧ s.expiry < 2 ^ (256 : Nat)) ∧
    packed = bytesOfNat 32 s.expiry.toNat ++ [if s.allowForward then 1 else 0] := by
  unfold LegacySheet.packed
  by_cases within : 0 ≤ s.expiry ∧ s.expiry < 2 ^ (256 : Nat)
  · rw [if_pos within, Except.ok.injEq, and_iff_right within, eq_comm]
  · rw [if_neg within]
    exact ⟨nofun, fun same => absurd same.1 within⟩

theorem length_packed (encoded : s.packed = .ok packed) : packed.length = 33 := by
  rw [(packed_eq_ok_iff.mp encoded).2, List.length_append, length_bytesOfNat]
  rfl

theorem toNat_expiry_lt (encoded : s.packed = .ok packed) : s.expiry.toNat < 256 ^ 32 := by
  obtain ⟨⟨least, small⟩, -⟩ := packed_eq_ok_iff.mp encoded
  have width : ((256 ^ 32 : Nat) : Int) = 2 ^ (256 : Nat) := by decide
  rw [Int.toNat_lt least, width]
  exact small

/-- The packed encoding tells the sheet. -/
theorem eq_of_packed (encoded : s.packed = .ok packed) (encoded' : s'.packed = .ok packed) :
    s = s' := by
  have small := toNat_expiry_lt encoded
  have small' := toNat_expiry_lt encoded'
  obtain ⟨⟨least, -⟩, is⟩ := packed_eq_ok_iff.mp encoded
  obtain ⟨⟨least', -⟩, is'⟩ := packed_eq_ok_iff.mp encoded'
  rw [is] at is'
  obtain ⟨numbers, flags⟩ := List.append_inj' is' rfl
  refine congrArg₂ LegacySheet.mk ?_ ?_
  · have same := eq_of_bytesOfNat small small' numbers
    rw [← Int.toNat_of_nonneg least, ← Int.toNat_of_nonneg least', same]
  · have tells : ∀ b b' : Bool, (if b then (1 : UInt8) else 0) = (if b' then 1 else 0) → b = b' := by
      decide
    exact tells _ _ (List.singleton_inj.mp flags)

/-- A sheet whose expiry fits into the encoding has one. -/
theorem exists_packed (least : 0 ≤ s.expiry) (small : s.expiry < 2 ^ (256 : Nat)) :
    ∃ packed, s.packed = .ok packed :=
  ⟨_, packed_eq_ok_iff.mpr ⟨⟨least, small⟩, rfl⟩⟩

theorem digest_eq_of_packed (encoded : s.packed = .ok packed) : s.digest = .ok (ofBytes packed) := by
  rw [digest, encoded]
  rfl

/-- The rules of a sheet tell the sheet. -/
theorem legacySheet_toCompact (s : LegacySheet) : s.toCompact.legacySheet = .ok s := by
  obtain ⟨n, b⟩ := s
  cases b <;> rfl

end LegacySheet

/-! ## Rules under a hash -/

/-- Legacy rules pass their check exactly under the digest of the sheet that they are taken from. -/
theorem MintRequest.checkLegacy_eq_ok_iff {r : CompactRules} {hash : String}
    (legacy : r.isLegacy = true) :
    checkLegacy r hash = .ok () ↔ r.isLegacyShaped = true ∧
      ∃ s packed, r.legacySheet = .ok s ∧ LegacySheet.packed s = .ok packed ∧
        hash = ofBytes packed := by
  unfold checkLegacy
  rw [legacy, Bool.not_true, if_neg Bool.false_ne_true]
  cases shaped : r.isLegacyShaped with
  | false =>
    rw [Bool.not_false, if_pos rfl]
    exact ⟨nofun, fun same => by cases same.1⟩
  | true =>
    rw [Bool.not_true, if_neg Bool.false_ne_true, and_iff_right rfl]
    constructor
    · intro checked
      obtain ⟨s, taken, checked⟩ := bind_eq_ok_iff.mp checked
      obtain ⟨expected, digested, checked⟩ := bind_eq_ok_iff.mp checked
      obtain ⟨same, compared, checked⟩ := bind_eq_ok_iff.mp checked
      obtain ⟨packed, encoded, rfl⟩ := map_eq_ok_iff.mp digested
      cases same with
      | false => cases checked
      | true => exact ⟨s, packed, taken, encoded, (Registry.eq_of_sameDigest compared).symm⟩
    · rintro ⟨s, packed, taken, encoded, rfl⟩
      have ascii := (Sha256.isHex_ofBytes packed).isAscii
      rw [taken, ok_bind, s.digest_eq_of_packed encoded, ok_bind,
        (sameDigest_eq_ok_true_iff ascii).mpr rfl]
      rfl

/-- Typed rules of version 0 in the shape of legacy rules are those of the sheet that they are taken
from. -/
theorem CompactRules.IsTyped.toCompact_legacySheet {r : CompactRules} (typed : r.IsTyped)
    (shaped : r.isLegacyShaped = true) {s : LegacySheet} (taken : r.legacySheet = .ok s) :
    r = s.toCompact := by
  have shape := eq_of_isLegacyShaped typed shaped
  obtain ⟨forbids, flag⟩ := typed.forbidForward
  rw [flag, typed.expiry] at shape
  rw [shape] at taken ⊢
  cases taken
  cases forbids <;> rfl

/-! ## Minting under legacy rules -/

/-- What is handed in to mint an object under a legacy sheet. -/
def LegacySheet.request (s : LegacySheet) (hash creator pointer : String) (kind : ObjectKind) :
    MintRequest :=
  ⟨.text creator, .member kind, .text hash, .member s.toCompact, .text pointer, .null⟩

/-- What is minted under a legacy sheet. -/
def LegacySheet.minting (s : LegacySheet) (hash creator pointer : String) (kind : ObjectKind) :
    Minting :=
  ⟨creator, kind, hash, s.toCompact, pointer, []⟩

theorem LegacySheet.check_request {s : LegacySheet} {packed : Bytes} (encoded : s.packed = .ok packed)
    {creator pointer : String} (named : Text.isBlankText creator = false)
    (points : Text.isBlankText pointer = false) (kind : ObjectKind) :
    (s.request (ofBytes packed) creator pointer kind).check =
      .ok (s.minting (ofBytes packed) creator pointer kind) := by
  obtain ⟨⟨least, -⟩, -⟩ := packed_eq_ok_iff.mp encoded
  have legacy : s.toCompact.isLegacy = true := rfl
  have checked : MintRequest.checkLegacy s.toCompact (ofBytes packed) = .ok () :=
    (MintRequest.checkLegacy_eq_ok_iff legacy).mpr
      ⟨rfl, s, packed, s.legacySheet_toCompact, encoded, rfl⟩
  have identified : ∀ {t : String}, Text.isBlankText t = false →
      Request.identity? (.text t) = some t := by
    intro t visible
    rw [Request.identity?, visible]
    rfl
  have above : s.toCompact.expiry.isBelow (.integer 0) = .ok false := by
    change (Document.integer s.expiry).isBelow (.integer 0) = _
    rw [Document.isBelow_integer, decide_eq_false (not_lt.mpr least)]
  have unlimited : s.toCompact.maxUses.isBelow (.integer 0) = .ok false := rfl
  have ruled : MintRequest.checkRules (.member s.toCompact) = .ok s.toCompact := by
    have known : (!s.toCompact.version.isNumber 0 && !s.toCompact.version.isNumber 1) = false := rfl
    simp only [MintRequest.checkRules, known, above, unlimited, ok_bind, Bool.false_eq_true,
      if_false]
    rfl
  have anyone : MintRequest.checkWhitelist s.toCompact [] = .ok () := rfl
  unfold MintRequest.check
  simp only [request, MintRequest.members, Document.isTrue, Bool.false_eq_true, if_false, ok_bind,
    MintRequest.required, identified named, identified points, Sha256.isDigest_ofBytes, if_true,
    MintRequest.checkKind, ruled, anyone, checked]
  rfl

namespace Registry

/-- A mint request under the digest of a legacy sheet and the sheet's rules mints an object under
them, and is answered with it unless its event cannot be recorded. -/
theorem State.step_legacy (st : State) {s : LegacySheet} {packed : Bytes}
    (encoded : s.packed = .ok packed) {creator pointer : String}
    (named : Text.isBlankText creator = false) (points : Text.isBlankText pointer = false)
    (kind : ObjectKind) (x : Surroundings) :
    let m := s.minting (ofBytes packed) creator pointer kind
    let event := createdEvent st.registry.nextId m (x.stamp st.draws)
    let stepped := st.step ⟨x, .create (s.request (ofBytes packed) creator pointer kind)⟩
    stepped.1.registry.record? st.registry.nextId =
        some (newRecord st.registry.nextId x.now m) ∧
      (isRecordable st.registry.nextId event = true →
        stepped.2 = .created (.ok (st.registry.nextId, event))) := by
  intro m event stepped
  have checked := s.check_request encoded named points kind
  have state : stepped.1.registry = (st.registry.mint x.now (x.stamp st.draws) m).1 := by
    simp only [stepped, step, create, checked]
    rfl
  have answer : stepped.2 =
      .created (st.registry.mint x.now (x.stamp st.draws) m).2 := by
    simp only [stepped, step, create, checked]
    rfl
  refine ⟨?_, fun recordable => ?_⟩
  · rw [state, mint_fst, emit_record?]
    exact (record?_putRecord ..).trans (if_pos rfl)
  · rw [answer, mint_snd]
    rcases emit_cases _ st.registry.nextId event with ⟨reference, -, -, emitted⟩ | ⟨f, unable, -⟩
    · rw [emitted]
      rfl
    · rw [recordable] at unable
      cases unable

end Registry

/-! ## Records and their hashes -/

/-- Whether a record, if it is of version 0, carries nothing but what a legacy sheet says, and bears
the digest of the sheet that its rules are taken from. -/
def Record.IsCommitted (r : Record) : Prop :=
  ∀ rules, r.rules = .member rules → rules.isLegacy = true → rules.isLegacyShaped = true ∧
    ∃ s packed, rules.legacySheet = .ok s ∧ LegacySheet.packed s = .ok packed ∧
      r.rulesHash = .text (ofBytes packed)

theorem Record.IsCommitted.congr {r r' : Record} (committed : r.IsCommitted)
    (rules : r'.rules = r.rules) (hash : r'.rulesHash = r.rulesHash) : r'.IsCommitted := by
  intro given same legacy
  rw [hash]
  exact committed given (rules.symm.trans same) legacy

namespace Registry

/-- Whether all records of a registry bear the hashes that their rules commit to. -/
def IsCommitted (reg : Registry) : Prop := ∀ e ∈ reg.records, e.2.IsCommitted

variable {reg reg' : Registry} {es : List Entry} {d : Deed}

theorem isCommitted_newRecord {m : Minting} (checked : m.IsChecked) (id now : Int) :
    (newRecord id now m).IsCommitted := by
  obtain ⟨request, checked⟩ := checked
  have passes := MintRequest.passes_of_check checked
  intro rules same legacy
  cases same
  obtain ⟨shaped, s, packed, taken, encoded, hash⟩ :=
    (MintRequest.checkLegacy_eq_ok_iff legacy).mp passes.legacy
  exact ⟨shaped, s, packed, taken, encoded, congrArg Document.text hash⟩

theorem isCommitted_empty : ({} : Registry).IsCommitted := by
  intro e mem
  cases mem

/-- A mint is checked, and a verdict changes neither rules nor hash. -/
theorem IsCommitted.happens (committed : reg.IsCommitted) (happens : Happens reg d reg') :
    reg'.IsCommitted := by
  cases happens with
  | @mint now m checked stamp =>
    rw [IsCommitted, emit_records]
    intro e mem
    rcases mem_putRecord mem with rfl | known
    · exact isCommitted_newRecord checked _ _
    · exact committed e known
  | @verdict id now req refusal r r' found breaks after correlation stamp =>
    rw [IsCommitted, emit_records]
    intro e mem
    rcases mem_putRecord mem with rfl | known
    · rw [eq_of_after after]
      exact (committed _ (mem_of_record? found)).congr rfl rfl
    · exact committed e known

/-- A reload changes neither rules nor hash. -/
theorem IsCommitted.reread (committed : reg.IsCommitted) (holds : reg.Holds es) :
    (reg.reread es).IsCommitted := by
  intro e mem
  obtain ⟨f, within, rfl⟩ := List.mem_map.mp mem
  have stands : (f.id, f.record) ∈ reg.records := by
    rw [holds.records]
    exact List.mem_map_of_mem within
  exact (committed _ stands).congr rfl rfl

/-- After any calls whatever, every record of version 0 bears the digest of the sheet that its rules
are taken from. -/
theorem isCommitted_run (xs : List Step) : (State.run {} xs).registry.IsCommitted :=
  State.run_induction (fun reg _ => reg.IsCommitted) (fun before happens => before.happens happens) []
    isCommitted_empty xs

theorem isCommitted_moves {ms : List Move} (typed : ∀ mv ∈ ms, mv.IsTyped) :
    (State.moves {} ms).registry.IsCommitted :=
  (State.moves_induction (fun reg _ => reg.IsCommitted)
    (fun before _ happens _ => before.happens happens) (fun before holds => before.reread holds)
    holds_empty [] isCommitted_empty typed).1

/-- After typed moves a record of version 0 has the rules of a legacy sheet, and bears the digest of
the sheet's encoding. -/
theorem exists_sheet_of_moves {ms : List Move} (typed : ∀ mv ∈ ms, mv.IsTyped) {id : Int} {r : Record}
    (found : (State.moves {} ms).registry.record? id = some r) {rules : CompactRules}
    (ruled : r.rules = .member rules) (legacy : rules.isLegacy = true) :
    ∃ s packed, LegacySheet.packed s = .ok packed ∧ r.rulesHash = .text (ofBytes packed) ∧
      rules = s.toCompact := by
  obtain ⟨es, holds⟩ := State.holds_moves typed
  obtain ⟨e, mem, -, rfl⟩ := holds.exists_entry found
  obtain ⟨shaped, s, packed, taken, encoded, hash⟩ :=
    isCommitted_moves typed _ (mem_of_record? found) rules ruled legacy
  cases ruled
  exact ⟨s, packed, encoded, hash, (holds.typed e mem).rules.toCompact_legacySheet shaped taken⟩

end Registry

/-- Whether rules are those of a legacy sheet with a given encoding. -/
def CompactRules.IsPackedAs (r : CompactRules) (packed : Bytes) : Prop :=
  ∃ s : LegacySheet, s.packed = .ok packed ∧ r = s.toCompact

namespace Registry

/-- Whether a registry keeps legacy commitments exactly. -/
structure State.CommitsExactly (st : State) : Prop where
  /-- Under every legacy sheet an object can be minted, with the sheet's rules and digest. -/
  accepts : ∀ s : LegacySheet, 0 ≤ s.expiry → s.expiry < 2 ^ (256 : Nat) →
    ∃ hash, s.digest = .ok hash ∧ ∀ creator pointer kind x,
      Text.isBlankText creator = false → Text.isBlankText pointer = false →
        let m := s.minting hash creator pointer kind
        let event := createdEvent st.registry.nextId m (Surroundings.stamp x st.draws)
        let stepped := st.step ⟨x, .create (s.request hash creator pointer kind)⟩
        stepped.1.registry.record? st.registry.nextId =
            some (newRecord st.registry.nextId x.now m) ∧
          (isRecordable st.registry.nextId event = true →
            stepped.2 = .created (.ok (st.registry.nextId, event)))
  /-- Every record of version 0 has the rules of the one sheet whose encoding has its hash. -/
  sheets : ∀ id r rules, st.registry.record? id = some r → r.rules = .member rules →
    rules.isLegacy = true → ∃ s packed, LegacySheet.packed s = .ok packed ∧ packed.length = 33 ∧
      r.rulesHash = .text (ofBytes packed) ∧ rules = s.toCompact ∧
      ∀ s' packed', LegacySheet.packed s' = .ok packed' → ofBytes packed' = ofBytes packed →
        Set.InjOn ofBytes {packed, packed'} → s' = s
  /-- Two such records with one hash have the same rules. -/
  alike : ∀ id id' r r' rules rules', st.registry.record? id = some r →
    st.registry.record? id' = some r' → r.rules = .member rules → r'.rules = .member rules' →
    rules.isLegacy = true → rules'.isLegacy = true → r.rulesHash = r'.rulesHash →
    (∀ packed packed', rules.IsPackedAs packed → rules'.IsPackedAs packed' →
      Set.InjOn ofBytes {packed, packed'}) → rules = rules'

/-- After any calls with typed rules and any reloads in between, legacy commitments are exact. -/
theorem commitsExactly_moves {ms : List Move} (typed : ∀ mv ∈ ms, mv.IsTyped) :
    (State.moves {} ms).CommitsExactly where
  accepts s least small := by
    obtain ⟨packed, encoded⟩ := LegacySheet.exists_packed least small
    refine ⟨_, LegacySheet.digest_eq_of_packed encoded, ?_⟩
    intro creator pointer kind x named points
    exact State.step_legacy _ encoded named points kind x
  sheets id r rules found ruled legacy := by
    obtain ⟨s, packed, encoded, hash, same⟩ := exists_sheet_of_moves typed found ruled legacy
    refine ⟨s, packed, encoded, LegacySheet.length_packed encoded, hash, same, ?_⟩
    intro s' packed' encoded' digests apart
    have one := apart (.inr rfl) (.inl rfl) digests
    exact LegacySheet.eq_of_packed (one ▸ encoded') encoded
  alike id id' r r' rules rules' found found' ruled ruled' legacy legacy' hashes apart := by
    obtain ⟨s, packed, encoded, hash, same⟩ := exists_sheet_of_moves typed found ruled legacy
    obtain ⟨s', packed', encoded', hash', same'⟩ :=
      exists_sheet_of_moves typed found' ruled' legacy'
    rw [hash, hash', Document.text.injEq] at hashes
    have one := apart packed packed' ⟨s, encoded, same⟩ ⟨s', encoded', same'⟩ (.inl rfl) (.inr rfl)
      hashes
    rw [same, same', LegacySheet.eq_of_packed encoded (one ▸ encoded')]

/-- Two objects are minted under one hash, and the registry is read back. -/
theorem commitsExactly_twice :
    let hash := ofBytes (bytesOfNat 32 5 ++ [1])
    let s : Surroundings := ⟨0, "", .null, .numbered⟩
    let mint : Move := .call ⟨s, .create (LegacySheet.request ⟨5, true⟩ hash "alice" "p" .message)⟩
    (State.moves {} [mint, mint, .reload s]).CommitsExactly ∧
      (State.moves {} [mint, mint]).registry.records.map
        (fun e => (e.1, e.2.rulesHash, e.2.rules)) =
      [(1, .text hash, .member (LegacySheet.toCompact ⟨5, true⟩)),
        (2, .text hash, .member (LegacySheet.toCompact ⟨5, true⟩))] := by
  intro hash s mint
  have typed : mint.IsTyped := by
    refine ⟨fun m rules is ruled => ?_, by simp [s, Document.HasDistinctNames]⟩
    cases is
    cases ruled
    exact ⟨⟨rfl, rfl⟩, ⟨_, rfl⟩, ⟨_, rfl⟩, ⟨_, rfl⟩, ⟨_, rfl⟩, ⟨_, rfl⟩, ⟨_, rfl⟩, ⟨_, rfl⟩⟩
  refine ⟨commitsExactly_moves fun mv mem => ?_, by decide +kernel⟩
  simp only [List.mem_cons, List.not_mem_nil, or_false] at mem
  rcases mem with rfl | rfl | rfl
  · exact typed
  · exact typed
  · exact trivial

/-- Under an expiry that is no whole number an object is minted with the hash of another's rules. -/
theorem same_hash_half_expiry :
    let hash := ofBytes (bytesOfNat 32 5 ++ [1])
    let rules (expiry : Document) : CompactRules := { expiry, version := .integer 0 }
    let half : Document := .real (.ofDecimal false 55 (-1))
    let mint (expiry : Document) : Step := ⟨⟨0, "", .null, .numbered⟩, .create
      ⟨.text "alice", .member .message, .text hash, .member (rules expiry), .text "p", .null⟩⟩
    (State.run {} [mint (.integer 5), mint half]).registry.records.map
        (fun e => (e.1, e.2.rulesHash, e.2.rules)) =
      [(1, .text hash, .member (rules (.integer 5))), (2, .text hash, .member (rules half))] ∧
      rules (.integer 5) ≠ rules half := by
  decide +kernel

end Registry

end RuleBound
