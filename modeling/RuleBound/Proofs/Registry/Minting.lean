import RuleBound.Registry.Basic
import RuleBound.Proofs.Document.Number
import RuleBound.Proofs.Registry.Members
import RuleBound.Proofs.Registry.Standing

/-!
What a mint request that has passed its checks says: its whitelist is a set of texts, its hash is a
written digest, and its limits are not negative. Every object of a registry was minted from one.
-/

namespace RuleBound

namespace MintRequest

theorem exists_texts_of_members {whitelist : Document} {members : List Document}
    (made : MintRequest.members whitelist = .ok members) :
    ∃ texts, texts.Nodup ∧ members = Members.documents texts := by
  unfold MintRequest.members at made
  split at made
  · obtain ⟨items, -, made⟩ := bind_eq_ok_iff.mp made
    obtain ⟨texts, -, made⟩ := bind_eq_ok_iff.mp made
    change distinctMembers (Members.documents texts) = .ok members at made
    rw [Members.distinctMembers_documents] at made
    exact ⟨_, Members.nodup_distinct _, (Except.ok.inj made).symm⟩
  · exact ⟨[], .nil, (Except.ok.inj made).symm⟩

/-- Rules that pass their check are the ones that were given, of a version that is known, and their
limits are not negative. -/
theorem eq_of_checkRules {given : Given CompactRules} {rules : CompactRules}
    (checked : checkRules given = .ok rules) :
    given = .member rules ∧
      (rules.version.isNumber 0 = true ∨ rules.version.isNumber 1 = true) ∧
      rules.expiry.isBelow (.integer 0) = .ok false ∧
      rules.maxUses.isBelow (.integer 0) = .ok false := by
  cases given with
  | other d => cases checked
  | member r =>
    simp only [checkRules] at checked
    split at checked
    · cases checked
    next known =>
    obtain ⟨expired, expiry, checked⟩ := bind_eq_ok_iff.mp checked
    cases expired with
    | true => cases checked
    | false =>
      rw [if_neg Bool.false_ne_true] at checked
      obtain ⟨spent, uses, checked⟩ := bind_eq_ok_iff.mp checked
      cases spent with
      | true => cases checked
      | false =>
        cases checked
        exact ⟨rfl, by simpa [or_iff_not_imp_left] using known, expiry, uses⟩

/-- What a mint request is made of, check by check, that passes as something to be minted. -/
structure Passes (request : MintRequest) (m : Minting) : Prop where
  members : MintRequest.members request.whitelist = .ok m.whitelist
  creator : required "creator" "creator identity is required" request.creator = .ok m.creator
  rulesHash : request.rulesHash = .text m.rulesHash
  digest : Text.isDigest m.rulesHash = true
  kind : checkKind request.kind = .ok m.kind
  rules : checkRules request.rules = .ok m.rules
  pointer : required "metadata_pointer" "metadata pointer is required" request.pointer =
    .ok m.pointer
  listed : checkWhitelist m.rules m.whitelist = .ok ()
  legacy : checkLegacy m.rules m.rulesHash = .ok ()

theorem passes_of_check {request : MintRequest} {m : Minting} (checked : request.check = .ok m) :
    request.Passes m := by
  unfold check at checked
  obtain ⟨whitelist, members, named⟩ := bind_eq_ok_iff.mp checked
  obtain ⟨creator, creates, hashed⟩ := bind_eq_ok_iff.mp named
  extract_lets rest at hashed
  obtain ⟨rulesHash, cites, digest, sorted⟩ : ∃ rulesHash, request.rulesHash = .text rulesHash ∧
      Text.isDigest rulesHash = true ∧ rest rulesHash = .ok m := by
    split at hashed
    · next s is =>
      by_cases digest : Text.isDigest s = true
      · rw [if_pos digest] at hashed
        exact ⟨s, is, digest, hashed⟩
      · rw [if_neg digest] at hashed
        cases hashed
    · cases hashed
  obtain ⟨kind, kept, ruled⟩ := bind_eq_ok_iff.mp sorted
  obtain ⟨rules, fine, placed⟩ := bind_eq_ok_iff.mp ruled
  obtain ⟨pointer, points, whose⟩ := bind_eq_ok_iff.mp placed
  obtain ⟨⟨⟩, listed, committed⟩ := bind_eq_ok_iff.mp whose
  obtain ⟨⟨⟩, legacy, made⟩ := bind_eq_ok_iff.mp committed
  cases made
  exact ⟨members, creates, cites, digest, kept, fine, points, listed, legacy⟩

/-- What a mint request is made of that passes its checks. -/
theorem exists_of_check {request : MintRequest} {m : Minting} (checked : request.check = .ok m) :
    MintRequest.members request.whitelist = .ok m.whitelist ∧
      Text.isDigest m.rulesHash = true ∧ checkRules request.rules = .ok m.rules :=
  have passes := passes_of_check checked
  ⟨passes.members, passes.digest, passes.rules⟩

end MintRequest

namespace Minting

/-- Whether something to be minted has passed the checks of a mint request. -/
def IsChecked (m : Minting) : Prop := ∃ request : MintRequest, request.check = .ok m

variable {m : Minting}

theorem IsChecked.exists_texts (checked : m.IsChecked) :
    ∃ texts, texts.Nodup ∧ m.whitelist = Members.documents texts := by
  obtain ⟨request, checked⟩ := checked
  exact MintRequest.exists_texts_of_members (MintRequest.exists_of_check checked).1

theorem IsChecked.isDigest (checked : m.IsChecked) : Text.isDigest m.rulesHash = true := by
  obtain ⟨request, checked⟩ := checked
  exact (MintRequest.exists_of_check checked).2.1

theorem IsChecked.maxUses_nonneg (checked : m.IsChecked) (plain : m.rules.IsPlain) :
    0 ≤ m.rules.maxUses.value := by
  obtain ⟨request, checked⟩ := checked
  obtain ⟨-, -, fine⟩ := MintRequest.exists_of_check checked
  obtain ⟨-, -, -, uses⟩ := MintRequest.eq_of_checkRules fine
  rw [plain.maxUses, Document.isBelow_integer] at uses
  exact not_lt.mp (of_decide_eq_false (Except.ok.inj uses))

end Minting

end RuleBound
