import RuleBound.Text.Utf8
import RuleBound.Proofs.Sequencing

/-!
UTF-8. The bytes of a text are read as that text: the leading byte of a character announces as many
bytes as follow, and these give back its bits. So a text is known by its bytes.
-/

namespace RuleBound.Text

theorem utf8_ofList (cs : List Char) :
    utf8 (String.ofList cs) = cs.flatMap String.utf8EncodeChar := by
  rw [utf8, String.toUTF8, String.toByteArray_ofList, List.utf8Encode, List.data_toByteArray]

theorem utf8_eq_flatMap (s : String) : utf8 s = s.toList.flatMap String.utf8EncodeChar := by
  rw [← utf8_ofList, String.ofList_toList]

/-! ## One character -/

/-- A byte in range continues a character. -/
theorem continuation?_cons {count low high code b : Nat} {rest : Bytes} {r : Nat × Bytes}
    (least : low ≤ b) (most : b ≤ high) (small : b < 256)
    (read : continuation? count 0x80 0xbf (code * 64 + b % 64) rest = .ok r) :
    continuation? (count + 1) low high code (UInt8.ofNat b :: rest) = .ok r := by
  have value : (UInt8.ofNat b).toNat = b := UInt8.toNat_ofNat_of_lt' small
  rw [continuation?, value, if_pos ⟨least, most⟩, read]

/-- A leading byte and as many bytes as it announces are read as one character. -/
theorem utf8Chars_cons {lead following low high code fuel position : Nat} {more rest : Bytes}
    (small : lead < 256) (shape : leadShape? lead = some (following, low, high))
    (read : continuation? following low high (leadBits following lead) more = .ok (code, rest)) :
    utf8Chars (fuel + 1) position (UInt8.ofNat lead :: more) =
      (utf8Chars fuel (position + following + 1) rest).map (Char.ofNat code :: ·) := by
  have value : (UInt8.ofNat lead).toNat = lead := UInt8.toNat_ofNat_of_lt' small
  rw [utf8Chars, value, shape]
  simp only [read]

/-- What the leading byte of three announces: the first of the two that follow is in range. -/
theorem exists_leadShape?_three {n : Nat} (large : 0x7ff < n) (small : n ≤ 0xffff)
    (valid : n.isValidChar) :
    ∃ low high, leadShape? (n / 4096 % 16 + 224) = some (2, low, high) ∧
      low ≤ n / 64 % 64 + 128 ∧ n / 64 % 64 + 128 ≤ high := by
  have lead : n / 4096 < 16 := by omega
  rw [Nat.mod_eq_of_lt lead]
  unfold leadShape? Nat.isValidChar at *
  by_cases first : n / 4096 = 0
  · exact ⟨0xa0, 0xbf, by simp [first], by omega, by omega⟩
  · by_cases before : n / 4096 = 13
    · exact ⟨0x80, 0x9f, by simp [before], by omega, by omega⟩
    · refine ⟨0x80, 0xbf, ?_, by omega, by omega⟩
      rw [if_neg (by omega), if_neg (by omega), if_neg (by omega), if_neg (by omega),
        if_pos (by omega)]

/-- What the leading byte of four announces: the first of the three that follow is in range. -/
theorem exists_leadShape?_four {n : Nat} (large : 0xffff < n) (valid : n.isValidChar) :
    ∃ low high, leadShape? (n / 262144 % 8 + 240) = some (3, low, high) ∧
      low ≤ n / 4096 % 64 + 128 ∧ n / 4096 % 64 + 128 ≤ high := by
  unfold Nat.isValidChar at valid
  have lead : n / 262144 < 5 := by omega
  rw [Nat.mod_eq_of_lt (by omega)]
  unfold leadShape?
  by_cases first : n / 262144 = 0
  · exact ⟨0x90, 0xbf, by simp [first], by omega, by omega⟩
  · by_cases last : n / 262144 = 4
    · exact ⟨0x80, 0x8f, by simp [last], by omega, by omega⟩
    · refine ⟨0x80, 0xbf, ?_, by omega, by omega⟩
      rw [if_neg (by omega), if_neg (by omega), if_neg (by omega), if_neg (by omega),
        if_neg (by omega), if_neg (by omega), if_pos (by omega)]

/-- The bytes of a character are read as that character, whatever stands behind them. -/
theorem utf8Chars_utf8EncodeChar (c : Char) (fuel position : Nat) (rest : Bytes) :
    utf8Chars (fuel + 1) position (String.utf8EncodeChar c ++ rest) =
      (utf8Chars fuel (position + (String.utf8EncodeChar c).length) rest).map (c :: ·) := by
  have valid : c.toNat.isValidChar := c.valid
  have back : Char.ofNat c.toNat = c := Char.ofNat_toNat c
  unfold String.utf8EncodeChar
  extract_lets v
  have same : v = c.toNat := rfl
  rw [← same] at valid back
  split_ifs with one two three
  · have shape : leadShape? v = some (0, 0, 0) := by
      rw [leadShape?, if_pos (by omega)]
    exact (utf8Chars_cons (by omega) shape rfl).trans (by rw [leadBits, back]; rfl)
  · have shape : leadShape? (v / 64 % 32 + 192) = some (1, 0x80, 0xbf) := by
      rw [leadShape?, if_neg (by omega), if_pos (by omega)]
    refine (utf8Chars_cons (by omega) shape (continuation?_cons (by omega) (by omega) (by omega)
      rfl)).trans ?_
    have code : leadBits 1 (v / 64 % 32 + 192) * 64 + (v % 64 + 128) % 64 = v := by
      rw [leadBits]
      omega
    rw [code, back]
    rfl
  · obtain ⟨low, high, shape, least, most⟩ := exists_leadShape?_three (by omega) three valid
    refine (utf8Chars_cons (by omega) shape (continuation?_cons least most (by omega)
      (continuation?_cons (by omega) (by omega) (by omega) rfl))).trans ?_
    have code : (leadBits 2 (v / 4096 % 16 + 224) * 64 + (v / 64 % 64 + 128) % 64) * 64 +
        (v % 64 + 128) % 64 = v := by
      rw [leadBits]
      omega
    rw [code, back]
    rfl
  · obtain ⟨low, high, shape, least, most⟩ := exists_leadShape?_four (by omega) valid
    refine (utf8Chars_cons (by omega) shape (continuation?_cons least most (by omega)
      (continuation?_cons (by omega) (by omega) (by omega)
        (continuation?_cons (by omega) (by omega) (by omega) rfl)))).trans ?_
    have code : ((leadBits 3 (v / 262144 % 8 + 240) * 64 + (v / 4096 % 64 + 128) % 64) * 64 +
        (v / 64 % 64 + 128) % 64) * 64 + (v % 64 + 128) % 64 = v := by
      unfold Nat.isValidChar at valid
      rw [leadBits]
      · omega
      all_goals simp
    rw [code, back]
    rfl

/-! ## Texts -/

theorem utf8Chars_flatMap (cs : List Char) {fuel : Nat} (enough : cs.length ≤ fuel)
    (position : Nat) : utf8Chars fuel position (cs.flatMap String.utf8EncodeChar) = .ok cs := by
  induction cs generalizing fuel position with
  | nil => cases fuel <;> rfl
  | cons c cs ih =>
    cases fuel with
    | zero => simp at enough
    | succ fuel =>
      rw [List.flatMap_cons, utf8Chars_utf8EncodeChar, ih (by simpa using enough)]
      rfl

/-- The bytes of a text are read as the text. -/
theorem fromUtf8_utf8 (s : String) : fromUtf8 (utf8 s) = .ok s := by
  have bytes : ∀ cs : List Char, cs.length ≤ (cs.flatMap String.utf8EncodeChar).length := by
    intro cs
    induction cs with
    | nil => exact Nat.le_refl 0
    | cons c cs ih =>
      have some : 1 ≤ (String.utf8EncodeChar c).length := by
        unfold String.utf8EncodeChar
        extract_lets v
        split_ifs <;> exact Nat.succ_le_succ (Nat.zero_le _)
      rw [List.flatMap_cons, List.length_append, List.length_cons]
      omega
  rw [fromUtf8, utf8_eq_flatMap, utf8Chars_flatMap s.toList (bytes s.toList)]
  change Except.ok (String.ofList s.toList) = _
  rw [String.ofList_toList]

theorem fromUtf8?_utf8 (s : String) : fromUtf8? (utf8 s) = some s := by
  rw [fromUtf8?, fromUtf8_utf8]
  rfl

/-- A text is known by its bytes. -/
theorem utf8_injective {s t : String} (same : utf8 s = utf8 t) : s = t := by
  have read := fromUtf8_utf8 s
  rw [same, fromUtf8_utf8] at read
  exact (Except.ok.inj read).symm

end RuleBound.Text
