import Mathlib.Data.List.Forall2
import RuleBound.Text.Base64

/-!
Bytes in the address-safe alphabet of base 64. What is written without padding is read back: the
reader fills the last group up, and the values of a group determine its bytes.
-/

namespace RuleBound.Text

/-- A character of the address-safe alphabet. -/
def addressChar (n : Nat) : Char := addressSafe (base64Char n)

/-- The padding that fills a number of characters up to whole groups. -/
def padding (count : Nat) : List Char := List.replicate ((4 - count % 4) % 4) '='

theorem toList_toBase64Url (bytes : Bytes) :
    (toBase64Url bytes).toList = (sextets bytes).map addressChar := by
  rw [toBase64Url, String.toList_ofList]
  rfl

theorem base64Value?_addressPlain : ∀ n < 64, base64Value? (addressPlain (addressChar n)) = some n := by
  decide

theorem toNat_addressChar_lt : ∀ n < 64, (addressChar n).toNat < 0x80 := by decide

/-! ## Groups -/

theorem sextets_lt (bytes : Bytes) : ∀ n ∈ sextets bytes, n < 64 := by
  induction bytes using sextets.induct with
  | case1 a b c rest ih =>
    have ha := a.toNat_lt
    have hb := b.toNat_lt
    have hc := c.toNat_lt
    simp only [sextets, List.forall_mem_cons]
    exact ⟨by omega, by omega, by omega, by omega, ih⟩
  | case2 a b =>
    have ha := a.toNat_lt
    have hb := b.toNat_lt
    simp only [sextets, List.forall_mem_cons]
    exact ⟨by omega, by omega, by omega, by simp⟩
  | case3 a =>
    have ha := a.toNat_lt
    simp only [sextets, List.forall_mem_cons]
    exact ⟨by omega, by omega, by simp⟩
  | case4 => simp [sextets]

theorem ofNat_eq_of_eq {n : Nat} {b : UInt8} (same : n = b.toNat) : UInt8.ofNat n = b := by
  rw [same, UInt8.ofNat_toNat]

theorem groupBytes_four (a b c : UInt8) {n : Nat}
    (whole : n = a.toNat * 65536 + b.toNat * 256 + c.toNat) :
    groupBytes [n / 262144, n / 4096 % 64, n / 64 % 64, n % 64] = [a, b, c] := by
  have ha := a.toNat_lt
  have hb := b.toNat_lt
  have hc := c.toNat_lt
  simp only [groupBytes, List.cons.injEq, and_true]
  exact ⟨ofNat_eq_of_eq (by omega), ofNat_eq_of_eq (by omega), ofNat_eq_of_eq (by omega)⟩

theorem groupBytes_three (a b : UInt8) {n : Nat} (whole : n = a.toNat * 65536 + b.toNat * 256) :
    groupBytes [n / 262144, n / 4096 % 64, n / 64 % 64] = [a, b] := by
  have ha := a.toNat_lt
  have hb := b.toNat_lt
  simp only [groupBytes, List.cons.injEq, and_true]
  exact ⟨ofNat_eq_of_eq (by omega), ofNat_eq_of_eq (by omega)⟩

theorem groupBytes_two (a : UInt8) {n : Nat} (whole : n = a.toNat * 65536) :
    groupBytes [n / 262144, n / 4096 % 64] = [a] := by
  have ha := a.toNat_lt
  simp only [groupBytes, List.cons.injEq, and_true]
  exact ofNat_eq_of_eq (by omega)

/-! ## Reading -/

/-- A value that does not complete a group joins it. -/
theorem base64Read_value {c : Char} {v : Nat} (value : base64Value? c = some v) {group : List Nat}
    (short : group.length < 3) (pads count : Nat) (rest : List Char) :
    base64Read ⟨group, pads, count⟩ (c :: rest) = base64Read ⟨group ++ [v], 0, count + 1⟩ rest := by
  have open' : ¬ (group ++ [v]).length = 4 := by
    rw [List.length_append, List.length_singleton]
    omega
  rw [base64Read]
  simp only [value, if_neg open']

/-- A fourth value completes a group. -/
theorem base64Read_last {c : Char} {v : Nat} (value : base64Value? c = some v) {group : List Nat}
    (three : group.length = 3) (pads count : Nat) (rest : List Char) :
    base64Read ⟨group, pads, count⟩ (c :: rest) =
      (base64Read ⟨[], 0, count + 1⟩ rest).map (groupBytes (group ++ [v]) ++ ·) := by
  have full : (group ++ [v]).length = 4 := by rw [List.length_append, three, List.length_singleton]
  rw [base64Read]
  simp only [value, if_pos full]

/-- The written groups of bytes are read back. Whatever follows padding is not looked at. -/
theorem base64Read_sextets (bytes : Bytes) (count : Nat) {rest : List Char}
    (padded : (sextets bytes).length % 4 = 0 → rest = []) :
    base64Read ⟨[], 0, count⟩ ((sextets bytes).map (fun n => addressPlain (addressChar n)) ++
      padding (sextets bytes).length ++ rest) = .ok bytes := by
  have value := fun n mem => base64Value?_addressPlain n (sextets_lt bytes n mem)
  induction bytes using sextets.induct generalizing count with
  | case1 a b c more ih =>
    simp only [sextets, List.forall_mem_cons] at value
    obtain ⟨v₁, v₂, v₃, v₄, value⟩ := value
    have fill : padding (sextets (a :: b :: c :: more)).length = padding (sextets more).length := by
      simp only [padding, sextets, List.length_cons]
      congr 1
      omega
    have padded' : (sextets more).length % 4 = 0 → rest = [] := fun whole =>
      padded (by simp only [sextets, List.length_cons]; omega)
    rw [fill]
    simp only [sextets, List.map_cons, List.cons_append]
    rw [base64Read_value v₁ (by simp), base64Read_value v₂ (by simp),
      base64Read_value v₃ (by simp), base64Read_last v₄ (by simp), ih _ padded' value]
    simp only [List.nil_append, List.cons_append, groupBytes_four a b c rfl]
    rfl
  | case2 a b =>
    simp only [sextets, List.forall_mem_cons] at value
    obtain ⟨v₁, v₂, v₃, -⟩ := value
    simp only [sextets, List.map_cons, List.cons_append]
    rw [base64Read_value v₁ (by simp), base64Read_value v₂ (by simp),
      base64Read_value v₃ (by simp)]
    simp only [List.nil_append, List.cons_append, List.map_nil]
    rw [← groupBytes_three a b rfl]
    rfl
  | case3 a =>
    simp only [sextets, List.forall_mem_cons] at value
    obtain ⟨v₁, v₂, -⟩ := value
    simp only [sextets, List.map_cons, List.cons_append]
    rw [base64Read_value v₁ (by simp), base64Read_value v₂ (by simp)]
    simp only [List.nil_append, List.cons_append, List.map_nil]
    rw [← groupBytes_two a rfl]
    rfl
  | case4 =>
    rw [padded (by rfl)]
    rfl

theorem all_ascii_toBase64Url (bytes : Bytes) :
    ((toBase64Url bytes).toList.all fun c => c.toNat < 0x80) = true := by
  rw [toList_toBase64Url, List.all_map, List.all_eq_true]
  intro n mem
  exact decide_eq_true (toNat_addressChar_lt n (sextets_lt bytes n mem))

theorem map_addressPlain_padding (count : Nat) : (padding count).map addressPlain = padding count :=
  List.map_replicate

/-! ## Other spellings -/

/-- Whether a character stands for one of the address-safe alphabet: that character itself, or its
plain spelling. -/
def IsSpelling (c d : Char) : Prop := c = d ∨ c = addressPlain d

/-- Whether characters spell bytes: those of the address-safe alphabet, any of them in its plain
spelling, and behind them part of the padding that is due. -/
def IsBase64 (bytes : Bytes) (cs : List Char) : Prop :=
  ∃ body pads, cs = body ++ List.replicate pads '=' ∧
    List.Forall₂ IsSpelling body (toBase64Url bytes).toList ∧
    pads ≤ (padding (sextets bytes).length).length

theorem isBase64_toBase64Url (bytes : Bytes) : IsBase64 bytes (toBase64Url bytes).toList :=
  ⟨_, 0, (List.append_nil _).symm, List.forall₂_same.mpr fun _ _ => .inl rfl, Nat.zero_le _⟩

/-- Part of the padding that is due leaves the rest of it due. -/
theorem replicate_append_padding {pads count : Nat} (due : pads ≤ (padding count).length) :
    List.replicate pads '=' ++ padding (count + pads) = padding count := by
  rw [padding, List.length_replicate] at due
  rw [padding, padding, List.replicate_append_replicate]
  congr 1
  omega

/-- Characters that spell values have one plain spelling. -/
theorem spelled_values {body : List Char} {values : List Nat} (small : ∀ n ∈ values, n < 64)
    (spelled : List.Forall₂ IsSpelling body (values.map addressChar)) :
    body.map addressPlain = values.map (fun n => addressPlain (addressChar n)) ∧
      ∀ c ∈ body, ∃ n < 64, IsSpelling c (addressChar n) := by
  have twice : ∀ n < 64, addressPlain (addressPlain (addressChar n)) =
      addressPlain (addressChar n) := by decide
  induction values generalizing body with
  | nil =>
    cases spelled
    exact ⟨rfl, by simp⟩
  | cons n values ih =>
    rw [List.forall_mem_cons] at small
    cases spelled with
    | cons here rest =>
      obtain ⟨plain, each⟩ := ih small.2 rest
      have same := twice n small.1
      refine ⟨?_, List.forall_mem_cons.mpr ⟨⟨n, small.1, here⟩, each⟩⟩
      rw [List.map_cons, List.map_cons, plain]
      rcases here with rfl | rfl
      · rfl
      · rw [same]

section Spelled

variable {bytes : Bytes} {cs : List Char} (spells : IsBase64 bytes cs)

include spells

theorem IsBase64.exists_value {c : Char} (mem : c ∈ cs) :
    c = '=' ∨ ∃ n < 64, IsSpelling c (addressChar n) := by
  obtain ⟨body, pads, rfl, spelled, -⟩ := spells
  rw [toList_toBase64Url] at spelled
  rcases List.mem_append.mp mem with mem | mem
  · exact .inr ((spelled_values (sextets_lt bytes) spelled).2 c mem)
  · exact .inl (List.eq_of_mem_replicate mem)

theorem IsBase64.isAscii : (cs.all fun c => c.toNat < 0x80) = true := by
  have safe : ∀ n < 64, (addressPlain (addressChar n)).toNat < 0x80 := by decide
  rw [List.all_eq_true]
  intro c mem
  rcases spells.exists_value mem with rfl | ⟨n, small, rfl | rfl⟩
  · decide
  · exact decide_eq_true (toNat_addressChar_lt n small)
  · exact decide_eq_true (safe n small)

/-- What spells bytes is read as these bytes. -/
theorem IsBase64.read : fromBase64Url (String.ofList cs) = .ok bytes := by
  have ascii := spells.isAscii
  obtain ⟨body, pads, rfl, spelled, due⟩ := spells
  rw [toList_toBase64Url] at spelled
  obtain ⟨plain, -⟩ := spelled_values (sextets_lt bytes) spelled
  have length : body.length = (sextets bytes).length := by
    rw [spelled.length_eq, List.length_map]
  have read := base64Read_sextets bytes 0 (fun _ => rfl)
  rw [List.append_nil] at read
  unfold fromBase64Url
  rw [String.toList_ofList]
  simp only [ascii, if_true]
  rw [List.append_assoc, List.length_append, List.length_replicate, length]
  change base64Read _ ((body ++ (_ ++ padding ((sextets bytes).length + pads))).map _) = _
  rw [replicate_append_padding due, List.map_append, map_addressPlain_padding, plain]
  exact read

end Spelled

/-- What is written in the address-safe alphabet is read back. -/
theorem fromBase64Url_toBase64Url (bytes : Bytes) : fromBase64Url (toBase64Url bytes) = .ok bytes := by
  have read := (isBase64_toBase64Url bytes).read
  rwa [String.ofList_toList] at read

/-- What is written in the address-safe alphabet, with its padding, is read back whatever follows. -/
theorem fromBase64Url_padded {bytes : Bytes} (short : (sextets bytes).length % 4 ≠ 0) {rest : String}
    (plain : (rest.toList.all fun c => c.toNat < 0x80) = true) :
    fromBase64Url (toBase64Url bytes ++ String.ofList (padding (sextets bytes).length) ++ rest) =
      .ok bytes := by
  have ascii := all_ascii_toBase64Url bytes
  have padded : ((padding (sextets bytes).length).all fun c => c.toNat < 0x80) = true := by
    rw [List.all_eq_true]
    intro c mem
    rw [List.eq_of_mem_replicate mem]
    decide
  unfold fromBase64Url
  simp only [String.toList_append, String.toList_ofList, List.all_append, ascii, padded, plain,
    Bool.and_self, if_true]
  rw [toList_toBase64Url]
  simp only [List.map_append, List.map_map, map_addressPlain_padding, List.append_assoc]
  rw [← List.append_assoc (List.map _ _)]
  exact base64Read_sextets bytes 0 fun whole => absurd whole short

end RuleBound.Text
