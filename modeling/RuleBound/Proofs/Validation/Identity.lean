import RuleBound.Proofs.Registry.Policy
import RuleBound.Proofs.Registry.Priority
import RuleBound.Proofs.Validation.Cleaning

/-!
Identities. An identity consists of 1 to 256 of certain characters. The check accepts exactly these, as
they are, though it cleans a text before it looks at its form and forgives a line feed at the end
there. Records compare identities verbatim; so those on the whitelist of an accepted intent are matched,
in the record of any object that is minted with it, by themselves and by no other.
-/

namespace RuleBound

namespace Validation

/-! ## The grammar -/

/-- Whether a character may stand in an identity: a letter or a digit, or one of six marks. -/
def IsNameChar (c : Char) : Prop :=
  ('A' ≤ c ∧ c ≤ 'Z') ∨ ('a' ≤ c ∧ c ≤ 'z') ∨ ('0' ≤ c ∧ c ≤ '9') ∨
    c ∈ [':', '.', '_', '@', '#', '-']

/-- Whether a text is an identity. -/
structure IsIdentity (s : String) : Prop where
  filled : 1 ≤ s.length
  short : s.length ≤ 256
  chars : ∀ c ∈ s.toList, IsNameChar c

theorem isIdentityChar_iff {c : Char} : isIdentityChar c = true ↔ IsNameChar c := by
  delta isIdentityChar IsNameChar Char.isAlphanum Char.isAlpha Char.isUpper Char.isLower Char.isDigit
  simp only [Bool.or_eq_true, Bool.and_eq_true, decide_eq_true_eq, beq_iff_eq, List.mem_cons,
    List.not_mem_nil, or_false, ge_iff_le, or_assoc]
  rfl

/-- The characters of identities lie between the space and the delete control. -/
theorem IsNameChar.bounds {c : Char} (name : IsNameChar c) : 0x20 < c.toNat ∧ c.toNat < 0x7f := by
  rcases name with ⟨lower, upper⟩ | ⟨lower, upper⟩ | ⟨lower, upper⟩ | mark
  · exact ⟨Nat.lt_of_lt_of_le (by decide) lower, Nat.lt_of_le_of_lt upper (by decide)⟩
  · exact ⟨Nat.lt_of_lt_of_le (by decide) lower, Nat.lt_of_le_of_lt upper (by decide)⟩
  · exact ⟨Nat.lt_of_lt_of_le (by decide) lower, Nat.lt_of_le_of_lt upper (by decide)⟩
  · simp only [List.mem_cons, List.not_mem_nil, or_false] at mark
    rcases mark with rfl | rfl | rfl | rfl | rfl | rfl <;> decide

theorem IsNameChar.isBlank_eq_false {c : Char} (name : IsNameChar c) : Text.isBlank c = false := by
  obtain ⟨above, below⟩ := name.bounds
  simp only [Text.isBlank, Bool.or_eq_false_iff, Bool.and_eq_false_iff, decide_eq_false_iff_not,
    beq_eq_false_iff_ne]
  omega

/-- There is nothing to clean in an identity. -/
theorem IsIdentity.sanitize_eq {s : String} (identity : IsIdentity s) : sanitize s = s := by
  refine sanitize_eq_self_iff.mpr ⟨?_, fun nul => ?_⟩
  · exact Text.isTrimmed_of_visible fun c mem => (identity.chars c mem).isBlank_eq_false
  · exact absurd (identity.chars '\x00' nul).bounds.1 (by decide)

/-- A trimmed text has no line feed at its end that could be forgiven. -/
theorem dropFinalNewline_of_isTrimmed {cs : List Char} (trimmed : Text.IsTrimmed cs) :
    Text.dropFinalNewline cs = cs := by
  refine if_neg fun last => ?_
  exact absurd (trimmed.last '\n' last) (by decide)

theorem isIdentityText_iff {s : String} (trimmed : Text.IsTrimmed s.toList) :
    isIdentityText s = true ↔ IsIdentity s := by
  simp only [isIdentityText, dropFinalNewline_of_isTrimmed trimmed, Bool.and_eq_true,
    decide_eq_true_eq, List.all_eq_true, isIdentityChar_iff, String.length_toList]
  exact ⟨fun ⟨⟨filled, short⟩, chars⟩ => ⟨filled, short, chars⟩,
    fun ⟨filled, short, chars⟩ => ⟨⟨filled, short⟩, chars⟩⟩

/-! ## The check -/

variable {field clean : String} {value : Document} {warnings : List String}

/-- The check of an identity accepts exactly identities, as they are. -/
theorem checkIdentity_eq_accepted_iff :
    checkIdentity field value = .accepted clean warnings ↔
      value = .text clean ∧ IsIdentity clean ∧ warnings = [] := by
  unfold checkIdentity
  constructor
  · intro accepted
    split at accepted
    · next clean' warnings' checked =>
      split at accepted
      · next same =>
        subst same
        obtain ⟨rfl, rfl⟩ := Review.accepted.inj accepted
        obtain ⟨same, rfl, -, -, form⟩ := checkText_eq_accepted_iff.mp checked
        obtain ⟨trimmed, -⟩ := sanitize_eq_self_iff.mp same.symm
        exact ⟨rfl, (isIdentityText_iff trimmed).mp form, rfl⟩
      · cases accepted
    · next other =>
      rw [accepted] at other
      exact (other _ _ rfl).elim
  · rintro ⟨rfl, identity, rfl⟩
    have trimmed := (sanitize_eq_self_iff.mp identity.sanitize_eq).1
    have checked : checkText field 1 defaultMaxLength (some isIdentityText) (.text clean) =
        .accepted clean [] := by
      refine checkText_eq_accepted_iff.mpr ⟨identity.sanitize_eq.symm, rfl, ?_, ?_, ?_⟩
      · have filled := identity.filled
        omega
      · have short := identity.short
        unfold defaultMaxLength
        omega
      · exact (isIdentityText_iff trimmed).mpr identity
    simp only [checked, if_true]

/-- A value in which nothing is wrong is an identity. -/
theorem exists_identity_of_issues (fine : (checkIdentity field value).issues = []) :
    ∃ s, value = .text s ∧ IsIdentity s := by
  cases outcome : checkIdentity field value with
  | accepted clean warnings =>
    obtain ⟨is, identity, -⟩ := checkIdentity_eq_accepted_iff.mp outcome
    exact ⟨clean, is, identity⟩
  | refused issues =>
    rw [outcome] at fine
    obtain rfl : issues = [] := fine
    unfold checkIdentity at outcome
    cases checked : checkText field 1 defaultMaxLength (some isIdentityText) value with
    | accepted clean warnings =>
      simp only [checked] at outcome
      split at outcome <;> cases outcome
    | refused issues =>
      simp only [checked] at outcome
      obtain ⟨clean, accepted⟩ := exists_accepted_of_issues
        ((congrArg Review.issues checked).trans (congrArg Review.issues outcome))
      cases checked.symm.trans accepted

end Validation

open Validation (IsIdentity checkIdentity)

/-! ## Whitelists -/

namespace Intent

variable {i : Intent}

/-- All that stands on the whitelist of an accepted intent are identities. -/
theorem isIdentity_of_accepted {warnings : List String}
    (accepted : i.review = .ok (.accepted i warnings)) {items : List Document}
    (sequence : i.whitelist.toItems = .ok items) : ∀ d ∈ items, ∃ s, d = .text s ∧ IsIdentity s := by
  obtain ⟨scope, -, access, sound⟩ := exists_sound_of_accepted accepted
  obtain ⟨listed, -⟩ := whitelist_of_accessIssues access
  intro d mem
  by_cases list : scope = .list
  · obtain ⟨-, items', sequence', fine⟩ := listed list
    cases sequence.symm.trans sequence'
    obtain ⟨field, passes⟩ := exists_field_of_whitelistIssues fine mem
    exact Validation.exists_identity_of_issues passes
  · have bare := sound.unlisted list
    rw [isTrue_of_toItems sequence, Bool.not_eq_false', List.isEmpty_iff] at bare
    rw [bare] at mem
    cases mem

theorem Lists.isIdentity {warnings : List String} {actor : String} (lists : i.Lists actor)
    (accepted : i.review = .ok (.accepted i warnings)) : IsIdentity actor := by
  obtain ⟨items, sequence, mem⟩ := lists
  obtain ⟨s, same, identity⟩ := isIdentity_of_accepted accepted sequence _ mem
  rw [Document.text.injEq] at same
  exact same ▸ identity

end Intent

namespace Registry

/-- The whitelist of what is minted with that of an accepted intent has the actors whom this lists. -/
theorem contains_of_check {i : Intent} {warnings : List String}
    (accepted : i.review = .ok (.accepted i warnings)) {request : MintRequest} {m : Minting}
    (same : request.whitelist = i.whitelist) (checked : request.check = .ok m) (actor : String) :
    m.whitelist.contains (.text actor) = true ↔ i.Lists actor := by
  obtain ⟨scope, -, -, sound⟩ := Intent.exists_sound_of_accepted accepted
  obtain ⟨texts, made, listed, -⟩ := Intent.members_of_sound sound
  have members := (MintRequest.passes_of_check checked).members
  rw [same, made] at members
  rw [← Except.ok.inj members, Members.contains_documents, decide_eq_true_iff, listed]

/-- The check of an identity accepts exactly identities, as they are. So in the record of every object
that is minted with the whitelist of an accepted intent, after any further run, those who are listed
are identities, and each of them is matched by the actor of that very name alone. -/
theorem identities_verbatim :
    (∀ (field : String) (value : Document) (clean : String) (warnings : List String),
      checkIdentity field value = .accepted clean warnings ↔
        value = .text clean ∧ IsIdentity clean ∧ warnings = []) ∧
    ∀ (i : Intent) (warnings : List String), i.review = .ok (.accepted i warnings) →
      ∀ (request : MintRequest) (m : Minting), request.whitelist = i.whitelist →
        request.check = .ok m → ∀ (st : State) (s : Surroundings) (later : List Step),
          let reached := (st.step ⟨s, .create request⟩).1.run later
          ∃ r, reached.registry.record? st.registry.nextId = some r ∧ ∀ actor : String,
            (i.Lists actor → IsIdentity actor) ∧
            (∃ listed, r.lists actor = .ok listed ∧ (listed = true ↔ i.Lists actor)) ∧
            (m.rules.hasScope .list = true → r.locked.isTrue = false → ∀ now action,
              r.refusal? now action actor = .ok (some .notListed) ↔ ¬ i.Lists actor) := by
  refine ⟨fun _ _ _ _ => Validation.checkIdentity_eq_accepted_iff, ?_⟩
  intro i warnings accepted request m same checked st s later reached
  obtain ⟨r, found, account⟩ := st.exists_account_of_create s checked later
  have fixed := account.fixed
  refine ⟨r, found, fun actor => ?_⟩
  have listed := contains_of_check accepted same checked actor
  have lists : r.lists actor = .ok (m.whitelist.contains (.text actor)) := by
    rw [fixed]
    rfl
  refine ⟨fun lists => lists.isIdentity accepted, ⟨_, lists, listed⟩, ?_⟩
  intro within unlocked now action
  have given : r.rules = .member m.rules := by
    rw [fixed]
    rfl
  rw [← listed, Bool.not_eq_true]
  constructor
  · intro told
    cases (Record.isFirst_of_refusal? given told).1 with
    | notListed _ unlisted => exact Except.ok.inj (lists.symm.trans unlisted)
  · intro missing
    rw [Record.refusal?, unlocked, if_neg Bool.false_ne_true, Record.compactRules, given, ok_bind,
      Record.outOfScope?, if_pos within, lists, missing]
    rfl

/-- A mint request for a note that only Bob may read. -/
def listRequest : MintRequest :=
  { onceRequest "alice" with
    rules := .member { scope := .member .list }
    whitelist := .ofTexts ["bob"] }

/-- Bob is on the whitelist by his name, and not by what is nearly his name. -/
theorem identities_verbatim_bob :
    let reached := (State.step {} ⟨⟨0, "", .null, .numbered⟩, .create listRequest⟩).1.run []
    ∃ r, reached.registry.record? 1 = some r ∧ IsIdentity "bob" ∧
      r.lists "bob" = .ok true ∧ r.lists "bob\n" = .ok false := by
  have accepted : Intent.oneReader.review = .ok (.accepted Intent.oneReader []) := by
    decide +kernel
  obtain ⟨m, checked⟩ := isOk_eq_true_iff.mp (by decide +kernel : listRequest.check.isOk = true)
  obtain ⟨r, found, actors⟩ := identities_verbatim.2 Intent.oneReader [] accepted listRequest m rfl
    checked {} ⟨0, "", .null, .numbered⟩ []
  have bob : Intent.oneReader.Lists "bob" := ⟨_, rfl, by simp⟩
  have other : ¬ Intent.oneReader.Lists "bob\n" := by
    rintro ⟨items, ⟨⟩, mem⟩
    simp at mem
  obtain ⟨identity, ⟨listed, lists, here⟩, -⟩ := actors "bob"
  obtain ⟨-, ⟨listed', lists', there⟩, -⟩ := actors "bob\n"
  obtain rfl := here.mpr bob
  obtain rfl := Bool.eq_false_iff.mpr (mt there.mp other)
  exact ⟨r, found, identity bob, lists, lists'⟩

end Registry

end RuleBound
