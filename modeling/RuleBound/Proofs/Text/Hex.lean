import Mathlib.Data.List.Basic
import RuleBound.Proofs.Digest

/-!
Bytes and their hexadecimal digits. What is written in digits is read back, and it has the shape
that schemas ask for: two digits of lower case for each byte. Reading takes every spelling: digits
of either case, with blanks between two bytes.
-/

namespace RuleBound.Text

theorem hexValue?_hexDigit : ∀ k < 16, hexValue? (hexDigit k) = some k := by decide

theorem isAsciiBlank_hexDigit : ∀ k < 16, isAsciiBlank (hexDigit k) = false := by decide

theorem isLowerHex_hexDigit : ∀ k < 16, isLowerHex (hexDigit k) = true := by decide

/-- The two digits of a byte are those of its halves. -/
theorem byteDigits_eq (b : UInt8) :
    byteDigits b = [hexDigit (b.toNat / 16 % 16), hexDigit (b.toNat % 16)] := rfl

theorem hexChars?_byteDigits (b : UInt8) (rest : List Char) :
    hexChars? (byteDigits b ++ rest) = (hexChars? rest).map (b :: ·) := by
  have high : b.toNat / 16 % 16 < 16 := Nat.mod_lt _ (by decide)
  have low : b.toNat % 16 < 16 := Nat.mod_lt _ (by decide)
  have whole : 16 * (b.toNat / 16 % 16) + b.toNat % 16 = b.toNat := by
    have small := b.toNat_lt
    omega
  rw [byteDigits_eq, List.cons_append, List.cons_append, List.nil_append, hexChars?,
    isAsciiBlank_hexDigit _ high, hexValue?_hexDigit _ high, hexValue?_hexDigit _ low,
    if_neg Bool.false_ne_true]
  simp only [whole, UInt8.ofNat_toNat]

/-- What is written in digits is read back. -/
theorem fromHex?_toHex (bytes : Bytes) : fromHex? (toHex bytes) = some bytes := by
  rw [fromHex?, toHex, String.toList_ofList]
  induction bytes with
  | nil => rfl
  | cons b bytes ih => rw [List.flatMap_cons, hexChars?_byteDigits, ih, Option.map_some]

/-! ## Spellings -/

/-- Whether characters spell bytes in pairs of digits. -/
inductive HexSpelling : List Char → Bytes → Prop
  | done : HexSpelling [] []
  | blank {c : Char} {rest : List Char} {bytes : Bytes} (white : isAsciiBlank c = true)
      (tail : HexSpelling rest bytes) : HexSpelling (c :: rest) bytes
  | byte {c d : Char} {high low : Nat} {rest : List Char} {bytes : Bytes}
      (first : hexValue? c = some high) (second : hexValue? d = some low)
      (tail : HexSpelling rest bytes) :
      HexSpelling (c :: d :: rest) (UInt8.ofNat (16 * high + low) :: bytes)

/-- Whether a text spells bytes in pairs of digits. -/
def SpellsHex (s : String) (bytes : Bytes) : Prop := HexSpelling s.toList bytes

/-- No digit is a blank. -/
theorem isAsciiBlank_of_hexValue? {c : Char} {n : Nat} (digit : hexValue? c = some n) :
    isAsciiBlank c = false := by
  rcases blank : isAsciiBlank c with - | -
  · rfl
  · have none : hexValue? c = none := by
      simp only [isAsciiBlank, Bool.or_eq_true, beq_iff_eq, Bool.and_eq_true,
        decide_eq_true_eq] at blank
      rcases blank with rfl | ⟨low, high⟩
      · rfl
      · unfold hexValue?
        rw [if_neg (by omega), if_neg (by omega), if_neg (by omega)]
    rw [none] at digit
    cases digit

theorem spelling_of_hexChars? {s : List Char} {bytes : Bytes} (read : hexChars? s = some bytes) :
    HexSpelling s bytes := by
  induction s using hexChars?.induct generalizing bytes with
  | case1 =>
    cases read
    exact .done
  | case2 c white =>
    rw [hexChars?, if_pos white] at read
    cases read
    exact .blank white .done
  | case3 c black =>
    rw [hexChars?, if_neg black] at read
    cases read
  | case4 c d rest white ih =>
    rw [hexChars?, if_pos white] at read
    exact .blank white (ih read)
  | case5 c d rest black high low second first ih =>
    simp only [hexChars?, black, first, second, Bool.false_eq_true, if_false] at read
    obtain ⟨tail, inner, rfl⟩ := Option.map_eq_some_iff.mp read
    exact .byte first second (ih inner)
  | case6 c d rest black odd =>
    rw [hexChars?, if_neg black] at read
    split at read
    · exact absurd ‹hexValue? d = _› (odd _ _ ‹hexValue? c = _›)
    · cases read

theorem HexSpelling.hexChars?_eq {s : List Char} {bytes : Bytes} (spelling : HexSpelling s bytes) :
    hexChars? s = some bytes := by
  induction spelling with
  | done => rfl
  | @blank c rest bytes white tail ih =>
    cases rest with
    | nil => rw [hexChars?, if_pos white, ← ih, hexChars?]
    | cons d rest => rw [hexChars?, if_pos white, ih]
  | @byte c d high low rest bytes first second tail ih =>
    have black := isAsciiBlank_of_hexValue? first
    simp only [hexChars?, black, first, second, ih, Bool.false_eq_true, if_false, Option.map_some]

/-- Reading takes exactly the spellings of bytes. -/
theorem fromHex?_eq_some_iff {s : String} {bytes : Bytes} :
    fromHex? s = some bytes ↔ SpellsHex s bytes :=
  ⟨spelling_of_hexChars?, HexSpelling.hexChars?_eq⟩

theorem spellsHex_toHex (bytes : Bytes) : SpellsHex (toHex bytes) bytes :=
  fromHex?_eq_some_iff.mp (fromHex?_toHex bytes)

/-! ## Shape -/

theorem length_toHex (bytes : Bytes) : (toHex bytes).toList.length = 2 * bytes.length := by
  rw [toHex, String.toList_ofList]
  induction bytes with
  | nil => rfl
  | cons b bytes ih =>
    rw [List.flatMap_cons, List.length_append, ih, byteDigits_eq, List.length_cons]
    simp only [List.length_cons, List.length_nil]
    omega

theorem isHex_toHex (bytes : Bytes) : IsHex (toHex bytes) := by
  intro c mem
  rw [toHex, String.toList_ofList] at mem
  obtain ⟨b, -, mem⟩ := List.mem_flatMap.mp mem
  rw [byteDigits_eq, List.mem_cons, List.mem_singleton] at mem
  rcases mem with rfl | rfl <;> exact isLowerHex_hexDigit _ (Nat.mod_lt _ (by decide))

/-- Bytes in digits have the shape of as many digits as there are. -/
theorem isHexText_toHex {bytes : Bytes} {n : Nat} (length : bytes.length = n) :
    isHexText (2 * n) (toHex bytes) = true := by
  have count : (toHex bytes).toList.length = 2 * n := by rw [length_toHex, length]
  unfold isHexText
  simp only [count, if_true, beq_self_eq_true, Bool.true_and, List.all_eq_true]
  exact isHex_toHex bytes

/-- Any digits of a number are a whole text. -/
theorem isWhole_hexDigits (width n start count : Nat) :
    IsWhole (String.ofList (((hexDigits width n).drop start).take count)) := by
  have hex : ∀ c ∈ hexDigits width n, isLowerHex c = true := by
    induction width generalizing n with
    | zero => simp [hexDigits]
    | succ width ih =>
      rw [hexDigits, List.forall_mem_append, List.forall_mem_singleton]
      exact ⟨ih _, isLowerHex_hexDigit _ (Nat.mod_lt _ (by decide))⟩
  refine IsHex.isWhole fun c mem => ?_
  rw [String.toList_ofList] at mem
  exact hex c (List.mem_of_mem_drop (List.mem_of_mem_take mem))

end RuleBound.Text
