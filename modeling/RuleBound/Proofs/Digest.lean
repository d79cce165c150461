import RuleBound.Digest.Compare
import RuleBound.Digest.Sha256
import RuleBound.Text.Hash
import RuleBound.Text.LetterCase
import RuleBound.Proofs.Document.Escape

/-!
Written digests: 64 digits of lower-case hexadecimal. They have the shape that is asked for of a
digest, they are ASCII, so that they can be compared, and they are their own lower case.
-/

namespace RuleBound

namespace Text

/-- Whether a text consists of lower-case hexadecimal digits. -/
def IsHex (s : String) : Prop := ∀ c ∈ s.toList, isLowerHex c = true

theorem toNat_lt_of_isLowerHex {c : Char} (hex : isLowerHex c = true) : c.toNat < 0x67 := by
  simp only [isLowerHex, Bool.or_eq_true, Bool.and_eq_true, decide_eq_true_eq] at hex
  omega

theorem IsHex.isAscii {s : String} (hex : IsHex s) : isAscii s = true := by
  rw [Text.isAscii, List.all_eq_true]
  intro c mem
  have small := toNat_lt_of_isLowerHex (hex c mem)
  exact decide_eq_true (by omega)

theorem IsHex.isWhole {s : String} (hex : IsHex s) : IsWhole s := by
  intro c mem
  have small := toNat_lt_of_isLowerHex (hex c mem)
  exact Document.isStandIn_eq_false_of_lt (by omega)

/-- Whether a text is 64 lower-case hexadecimal digits, and nothing else. -/
structure IsDigits (s : String) : Prop where
  length : s.toList.length = 64
  hex : IsHex s

theorem IsDigits.not_mem_newline {s : String} (digits : IsDigits s) : '\n' ∉ s.toList :=
  fun mem => absurd (digits.hex '\n' mem) (by decide)

/-- What has the shape of a digest is 64 digits, or these and a line feed behind them. -/
theorem isDigest_iff {s : String} :
    isDigest s = true ↔ IsDigits s ∨ ∃ digits, IsDigits digits ∧ s = digits ++ "\n" := by
  unfold isDigest isHexText
  extract_lets cs body
  rw [Bool.and_eq_true, beq_iff_eq, List.all_eq_true]
  constructor
  · rintro ⟨length, hex⟩
    by_cases full : cs.length = 64
    · have same : body = cs := if_pos full
      exact .inl ⟨full, fun c mem => hex c (same ▸ mem)⟩
    · have cut : body = dropFinalNewline cs := if_neg full
      by_cases last : cs.getLast? = some '\n'
      · rw [dropFinalNewline, if_pos last] at cut
        have parts := List.dropLast_append_getLast? '\n' last
        refine .inr ⟨String.ofList body, ⟨by rw [String.toList_ofList, length], ?_⟩, ?_⟩
        · intro c mem
          rw [String.toList_ofList] at mem
          exact hex c mem
        · rw [← String.toList_inj, String.toList_append, String.toList_ofList, cut]
          exact parts.symm
      · rw [dropFinalNewline, if_neg last] at cut
        exact absurd (cut ▸ length) full
  · rintro (digits | ⟨t, digits, rfl⟩)
    · have same : body = cs := if_pos digits.length
      rw [same]
      exact ⟨digits.length, digits.hex⟩
    · have split : cs = t.toList ++ ['\n'] := String.toList_append ..
      have more : cs.length ≠ 64 := by
        rw [split, List.length_append, digits.length]
        decide
      have cut : body = t.toList := by
        simp only [body, if_neg more, dropFinalNewline, split, List.getLast?_concat, if_true,
          List.dropLast_concat]
      rw [cut]
      exact ⟨digits.length, digits.hex⟩

/-- What has the shape of a digest has small characters only: digits, and perhaps a line feed. -/
theorem toNat_lt_of_isDigest {s : String} (digest : isDigest s = true) :
    ∀ c ∈ s.toList, c.toNat < 0x67 := by
  intro c mem
  rcases isDigest_iff.mp digest with digits | ⟨t, digits, rfl⟩
  · exact toNat_lt_of_isLowerHex (digits.hex c mem)
  · rw [String.toList_append, List.mem_append] at mem
    rcases mem with digit | last
    · exact toNat_lt_of_isLowerHex (digits.hex c digit)
    · rw [List.mem_singleton.mp last]
      decide

theorem isWhole_of_isDigest {s : String} (digest : isDigest s = true) : IsWhole s := by
  intro c mem
  have small := toNat_lt_of_isDigest digest c mem
  exact Document.isStandIn_eq_false_of_lt (by omega)

theorem isAscii_of_isDigest {s : String} (digest : isDigest s = true) : isAscii s = true := by
  rw [Text.isAscii, List.all_eq_true]
  intro c mem
  have small := toNat_lt_of_isDigest digest c mem
  exact decide_eq_true (by omega)

theorem lowerChar_of_toLower {c : Char} (hex : isLowerHex c.toLower = true) :
    lowerChar c = [c.toLower] := by
  have small : c.toNat < 0x80 := by
    have low := toNat_lt_of_isLowerHex hex
    by_contra large
    have same : c.toLower = c := by
      unfold Char.toLower
      rw [dif_neg]
      rintro ⟨-, top⟩
      replace top : c.toNat ≤ 'Z'.toNat := top
      exact large (Nat.lt_of_le_of_lt top (by decide))
    rw [same] at low
    omega
  rw [lowerChar, if_pos small]

/-- ASCII stays ASCII in lower case. -/
theorem isAscii_lower {s : String} (ascii : isAscii s = true) : isAscii (lower s) = true := by
  have small : ∀ n < 0x80, (Char.ofNat n).toLower.toNat < 0x80 := by decide
  have each : ∀ cs before, (∀ c ∈ cs, Char.toNat c < 0x80) →
      ∀ c ∈ lowerBehind before cs, c.toNat < 0x80 := by
    intro cs
    induction cs with
    | nil => exact fun _ _ => List.forall_mem_nil _
    | cons c cs ih =>
      intro before all
      rw [List.forall_mem_cons] at all
      have sigma : c ≠ 'Σ' := by
        rintro rfl
        exact absurd all.1 (by decide)
      have here := small c.toNat all.1
      rw [Char.ofNat_toNat] at here
      rw [lowerBehind, if_neg sigma, lowerChar, if_pos all.1, List.singleton_append,
        List.forall_mem_cons]
      exact ⟨here, ih _ all.2⟩
  rw [isAscii, List.all_eq_true] at ascii ⊢
  rw [lower, String.toList_ofList]
  exact fun c mem => decide_eq_true (each _ _ (fun c mem => of_decide_eq_true (ascii c mem)) c mem)

/-- Whether two texts differ at most in the case of ASCII letters. -/
def IsRecased (s t : String) : Prop := s.toList.map Char.toLower = t.toList.map Char.toLower

theorem toLower_of_isLowerHex {c : Char} (hex : isLowerHex c = true) : c.toLower = c := by
  have small := toNat_lt_of_isLowerHex hex
  have fixed : ∀ n < 0x67, isLowerHex (Char.ofNat n) = true →
      (Char.ofNat n).toLower = Char.ofNat n := by decide
  have here := fixed c.toNat small
  rw [Char.ofNat_toNat] at here
  exact here hex

/-- Hexadecimal digits have, in whatever case they are written, the same lower case. -/
theorem IsHex.lower_eq {s t : String} (hex : IsHex t) (recased : IsRecased s t) : lower s = t := by
  have same : s.toList.map Char.toLower = t.toList := by
    rw [recased]
    exact (List.map_congr_left fun c mem => toLower_of_isLowerHex (hex c mem)).trans (List.map_id _)
  have all : ∀ c ∈ s.toList, isLowerHex c.toLower = true := by
    intro c mem
    exact hex _ (same ▸ List.mem_map_of_mem mem)
  have each : ∀ cs before, (∀ c ∈ cs, isLowerHex (Char.toLower c) = true) →
      lowerBehind before cs = cs.map Char.toLower := by
    intro cs
    induction cs with
    | nil => exact fun _ _ => rfl
    | cons c cs ih =>
      intro before all
      rw [List.forall_mem_cons] at all
      have sigma : c ≠ 'Σ' := by
        rintro rfl
        exact absurd all.1 (by decide)
      rw [lowerBehind, if_neg sigma, lowerChar_of_toLower all.1, ih _ all.2]
      rfl
  rw [lower, each s.toList [] all, same, String.ofList_toList]

theorem IsHex.isRecased_upper {s : String} (hex : IsHex s) : IsRecased (upper s) s := by
  have fixed : ∀ n < 0x67, (Char.ofNat n).toUpper.toLower = (Char.ofNat n).toLower := by decide
  have each : ∀ c ∈ s.toList, (upperChar c).map Char.toLower = [c.toLower] := by
    intro c mem
    have small := toNat_lt_of_isLowerHex (hex c mem)
    have here := fixed c.toNat small
    rw [Char.ofNat_toNat] at here
    rw [upperChar, if_pos (by omega), List.map_singleton, here]
  rw [IsRecased, upper, String.toList_ofList, List.map_flatMap, List.map_eq_flatMap]
  exact List.flatMap_congr each

end Text

namespace Sha256

theorem isHex_ofBytes (message : Bytes) : Text.IsHex (ofBytes message) := by
  have digit : ∀ k < 16, Text.isLowerHex (Text.hexDigit k) = true := by decide
  intro c mem
  rw [ofBytes, Text.toHex, String.toList_ofList] at mem
  obtain ⟨b, -, mem⟩ := List.mem_flatMap.mp mem
  simp only [Text.byteDigits, Text.hexDigits, List.nil_append, List.cons_append, List.mem_cons,
    List.not_mem_nil, or_false] at mem
  rcases mem with rfl | rfl <;> exact digit _ (Nat.mod_lt _ (by decide))

theorem length_ofBytes (message : Bytes) : (ofBytes message).toList.length = 64 := by
  have two : ∀ bytes : Bytes, (bytes.flatMap Text.byteDigits).length = 2 * bytes.length := by
    intro bytes
    induction bytes with
    | nil => rfl
    | cons b bytes ih =>
      rw [List.flatMap_cons, List.length_append, ih, List.length_cons]
      change 2 + 2 * bytes.length = _
      omega
  rw [ofBytes, Text.toHex, String.toList_ofList, two, length_digest]

theorem isDigits_ofBytes (message : Bytes) : Text.IsDigits (ofBytes message) :=
  ⟨length_ofBytes message, isHex_ofBytes message⟩

/-- A written digest has the shape of one. -/
theorem isDigest_ofBytes (message : Bytes) : Text.isDigest (ofBytes message) = true :=
  Text.isDigest_iff.mpr (.inl (isDigits_ofBytes message))

end Sha256

end RuleBound
