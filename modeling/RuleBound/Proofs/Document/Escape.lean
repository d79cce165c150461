import Mathlib.Data.List.Basic
import RuleBound.Document.Writer
import RuleBound.Document.Reader

/-!
Escapes in JSON texts. `CharForm` says which written form a character can have, and the reader is
shown to take each form back.

A lone surrogate is read back as its stand-in, but the escapes of a high and a low one side by
side are those of one character: `joinHalves` is what becomes of a text. A text with no stand-in,
and every text that is written with all characters as they are, comes back unchanged.
-/

namespace RuleBound

/-! ## Halves of surrogate pairs -/

/-- Whether a character stands in for the first half of a pair. -/
def Text.isHighHalf (c : Char) : Bool := (surrogate? c).any Document.isHighUnit

/-- Whether a character stands in for the second half of a pair. -/
def Text.isLowHalf (c : Char) : Bool := (surrogate? c).any Document.isLowUnit

/-- The character of the pair whose halves two characters stand in for. -/
def Text.pairOf (c d : Char) : Char :=
  Char.ofNat (0x10000 + (c.toNat - standInShift - 0xd800) * 0x400 +
    (d.toNat - standInShift - 0xdc00))

/-- Characters with each high half and the low half behind it joined to the character that they
make. -/
def Text.joinHalves : List Char → List Char
  | c :: d :: rest =>
    if isHighHalf c && isLowHalf d then pairOf c d :: joinHalves rest
    else c :: joinHalves (d :: rest)
  | cs => cs

theorem Text.surrogate?_eq_some {c : Char} {u : Nat} (half : surrogate? c = some u) :
    c = standIn u ∧ c.toNat = standInShift + u ∧ 0xd800 ≤ u ∧ u < 0xe000 := by
  unfold surrogate? at half
  split at half
  · next range =>
    have unit : c.toNat - standInShift = u := Option.some.inj half
    have shift : standInShift = 0x100000 := rfl
    have code : c.toNat = standInShift + u := by omega
    refine ⟨?_, code, by omega, by omega⟩
    rw [standIn, ← code, Char.ofNat_toNat]
  · cases half

theorem Text.joinHalves_eq_self {cs : List Char} (whole : ∀ c ∈ cs, isStandIn c = false) :
    joinHalves cs = cs := by
  fun_induction joinHalves cs with
  | case1 c d rest halves ih =>
    have standing := whole c (by simp)
    rw [isStandIn, Option.isSome_eq_false_iff, Option.isNone_iff_eq_none] at standing
    simp [isHighHalf, standing] at halves
  | case2 c d rest halves ih => rw [ih fun x mem => whole x (List.mem_cons_of_mem _ mem)]
  | case3 cs _ => rfl

theorem Text.joinHalves_eq_or_lt (cs : List Char) :
    joinHalves cs = cs ∨ (joinHalves cs).length < cs.length := by
  fun_induction joinHalves cs with
  | case1 c d rest halves ih =>
    right
    rcases ih with same | fewer
    · simp [same]
    · simp only [List.length_cons]
      omega
  | case2 c d rest halves ih =>
    rcases ih with same | fewer
    · exact .inl (by rw [same])
    · exact .inr (by simpa using fewer)
  | case3 cs _ => exact .inl rfl

namespace Document

/-! ## Escapes by number -/

theorem fourHex?_hexDigits {n : Nat} (small : n < 0x10000) (rest : List Char) :
    fourHex? (Text.hexDigits 4 n ++ rest) = some (n, rest) := by
  have value : ∀ k < 16, fourHex?.value? (Text.hexDigit k) = some k := by decide
  simp only [Text.hexDigits, List.nil_append, List.cons_append, fourHex?,
    value _ (Nat.mod_lt _ (by decide : 0 < 16))]
  congr 2
  omega

theorem nextUnit?_unitEscape {n : Nat} (small : n < 0x10000) (rest : List Char) :
    nextUnit? (unitEscape n ++ rest) = some (n, rest) := by
  change fourHex? (Text.hexDigits 4 n ++ rest) = _
  exact fourHex?_hexDigits small rest

/-- A unit outside the surrogates is the character of its number. -/
theorem unitEscape?_of_char {n : Nat} (small : n < 0x10000) (high : isHighUnit n = false)
    (low : isLowUnit n = false) (rest : List Char) :
    unitEscape? .json (Text.hexDigits 4 n ++ rest) = some (Char.ofNat n, rest) := by
  unfold unitEscape?
  simp only [fourHex?_hexDigits small, high, low, Bool.and_false, Bool.or_self]
  rfl

/-- A unit of a pair has its stand-in, unless it is a high one and a low one is next. -/
theorem unitEscape?_of_half {n : Nat} (small : n < 0x10000)
    (half : isHighUnit n = true ∨ isLowUnit n = true) {rest : List Char}
    (alone : isHighUnit n = true → ∀ v more, nextUnit? rest = some (v, more) →
      isLowUnit v = false) :
    unitEscape? .json (Text.hexDigits 4 n ++ rest) = some (Text.standIn n, rest) := by
  unfold unitEscape?
  simp only [fourHex?_hexDigits small]
  cases high : isHighUnit n with
  | false =>
    have low : isLowUnit n = true := half.resolve_left (by simp [high])
    simp only [low, Bool.and_false, Bool.or_true]
    rfl
  | true =>
    cases next : nextUnit? rest with
    | none => rfl
    | some unit =>
      simp only [alone high unit.1 unit.2 next]
      rfl

/-- Two units of a pair are one character. -/
theorem unitEscape?_of_pair {u v : Nat} (small : u < 0x10000) (small' : v < 0x10000)
    (high : isHighUnit u = true) (low : isLowUnit v = true) (rest : List Char) :
    unitEscape? .json (Text.hexDigits 4 u ++ (unitEscape v ++ rest)) =
      some (Char.ofNat (0x10000 + (u - 0xd800) * 0x400 + (v - 0xdc00)), rest) := by
  unfold unitEscape?
  simp only [fourHex?_hexDigits small, nextUnit?_unitEscape small', high, low]
  rfl

/-! ## Written forms of a character -/

/-- The forms that a character can be written in. -/
inductive CharForm (asciiOnly : Bool) (c : Char) : List Char → Prop
  | short (e : Char) (number : e ≠ 'u') (named : shortEscape? e = some c)
    (whole : Text.isStandIn c = false) :
    CharForm asciiOnly c ['\\', e]
  | unit (small : c.toNat < 0x10000) (whole : Text.isStandIn c = false) :
    CharForm asciiOnly c (unitEscape c.toNat)
  | half (u : Nat) (ascii : asciiOnly = true) (standing : Text.surrogate? c = some u) :
    CharForm asciiOnly c (unitEscape u)
  | pair (ascii : asciiOnly = true) (large : 0x10000 ≤ c.toNat)
    (whole : Text.isStandIn c = false) :
    CharForm asciiOnly c (unitEscape (0xd800 + (c.toNat - 0x10000) / 0x400) ++
      unitEscape (0xdc00 + (c.toNat - 0x10000) % 0x400))
  | plain (quote : c ≠ '"') (escape : c ≠ '\\') (visible : 0x20 ≤ c.toNat)
    (whole : asciiOnly = true → Text.isStandIn c = false) : CharForm asciiOnly c [c]

/-- The stand-in of a half is written as the escape of that half. -/
theorem CharForm.eq_of_half {c : Char} {written : List Char} (form : CharForm true c written)
    {u : Nat} (standing : Text.surrogate? c = some u) : written = unitEscape u := by
  have half : Text.isStandIn c = true := by rw [Text.isStandIn, standing]; rfl
  cases form with
  | short _ _ _ whole => rw [whole] at half; cases half
  | unit _ whole => rw [whole] at half; cases half
  | half v _ standing' => rw [Option.some.inj (standing.symm.trans standing')]
  | pair _ _ whole => rw [whole] at half; cases half
  | plain _ _ _ whole => rw [whole rfl] at half; cases half

theorem isStandIn_eq_false_of_lt {c : Char} (small : c.toNat < 0x10000) :
    Text.isStandIn c = false := by
  have outside : Text.surrogate? c = none := by
    unfold Text.surrogate? Text.standInShift
    exact if_neg (by omega)
  rw [Text.isStandIn, outside]
  rfl

/-- Every character is written in one of the forms. -/
theorem jsonChar_form (asciiOnly : Bool) (c : Char) :
    CharForm asciiOnly c (jsonChar asciiOnly c) := by
  unfold jsonChar
  by_cases quote : c = '"'
  · subst quote
    exact .short '"' (by decide) (by decide) (by decide)
  rw [if_neg quote]
  by_cases escape : c = '\\'
  · subst escape
    exact .short '\\' (by decide) (by decide) (by decide)
  rw [if_neg escape]
  by_cases feed : c = '\n'
  · subst feed
    exact .short 'n' (by decide) (by decide) (by decide)
  rw [if_neg feed]
  by_cases carriage : c = '\r'
  · subst carriage
    exact .short 'r' (by decide) (by decide) (by decide)
  rw [if_neg carriage]
  by_cases tab : c = '\t'
  · subst tab
    exact .short 't' (by decide) (by decide) (by decide)
  rw [if_neg tab]
  by_cases back : c = '\x08'
  · subst back
    exact .short 'b' (by decide) (by decide) (by decide)
  rw [if_neg back]
  by_cases page : c = '\x0c'
  · subst page
    exact .short 'f' (by decide) (by decide) (by decide)
  rw [if_neg page]
  by_cases control : c.toNat < 0x20
  · rw [if_pos control]
    exact .unit (by omega) (isStandIn_eq_false_of_lt (by omega))
  rw [if_neg control]
  by_cases wide : (asciiOnly && decide (0x7f ≤ c.toNat)) = true
  · rw [if_pos wide]
    have ascii := (Bool.and_eq_true_iff.mp wide).1
    by_cases small : c.toNat < 0x10000
    · rw [if_pos small]
      exact .unit small (isStandIn_eq_false_of_lt small)
    rw [if_neg small]
    by_cases half : Text.isStandIn c = true
    · rw [if_pos half]
      obtain ⟨u, standing⟩ := Option.isSome_iff_exists.mp half
      obtain ⟨-, code, -, -⟩ := Text.surrogate?_eq_some standing
      rw [code, Nat.add_sub_cancel_left]
      exact .half u ascii standing
    · rw [if_neg half]
      exact .pair ascii (by omega) (by simpa using half)
  · rw [if_neg wide]
    refine .plain quote escape (by omega) fun ascii => isStandIn_eq_false_of_lt ?_
    simp only [ascii, Bool.true_and, decide_eq_true_eq] at wide
    omega

theorem jsonChar_ne_nil (asciiOnly : Bool) (c : Char) : jsonChar asciiOnly c ≠ [] := by
  intro empty
  have form := jsonChar_form asciiOnly c
  rw [empty] at form
  generalize none : ([] : List Char) = written at form
  cases form <;> simp [unitEscape] at none

/-- A text is written with at least as many characters as it has. -/
theorem length_le_flatMap_jsonChar (asciiOnly : Bool) (cs : List Char) :
    cs.length ≤ (cs.flatMap (jsonChar asciiOnly)).length := by
  induction cs with
  | nil => exact Nat.le_refl 0
  | cons c cs ih =>
    have some := List.length_pos_of_ne_nil (jsonChar_ne_nil asciiOnly c)
    rw [List.flatMap_cons, List.length_append, List.length_cons]
    omega

/-! ## Units that come next -/

theorem toNat_range (c : Char) : c.toNat < 0xd800 ∨ 0xdfff < c.toNat ∧ c.toNat < 0x110000 :=
  c.valid

/-- The unit that comes next, if one does, is a low one only if the character is a low half. -/
theorem isLowUnit_of_nextUnit? {c : Char} {written : List Char} (form : CharForm true c written)
    (rest : List Char) {v : Nat} {more : List Char}
    (next : nextUnit? (written ++ rest) = some (v, more)) : isLowUnit v = Text.isLowHalf c := by
  cases form with
  | short e number named _ =>
    simp [nextUnit?, dropPrefix?, Ne.symm number] at next
  | unit small whole =>
    rw [nextUnit?_unitEscape small] at next
    cases next
    have range := toNat_range c
    rw [Text.isStandIn, Option.isSome_eq_false_iff, Option.isNone_iff_eq_none] at whole
    simp only [isLowUnit, Text.isLowHalf, whole, Option.any_none, Bool.and_eq_false_iff,
      decide_eq_false_iff_not]
    omega
  | half u _ standing =>
    obtain ⟨-, -, -, top⟩ := Text.surrogate?_eq_some standing
    rw [nextUnit?_unitEscape (by omega)] at next
    cases next
    rw [Text.isLowHalf, standing, Option.any_some]
  | pair _ large whole =>
    have range := toNat_range c
    rw [List.append_assoc, nextUnit?_unitEscape (by omega)] at next
    cases next
    rw [Text.isStandIn, Option.isSome_eq_false_iff, Option.isNone_iff_eq_none] at whole
    simp only [isLowUnit, Text.isLowHalf, whole, Option.any_none, Bool.and_eq_false_iff,
      decide_eq_false_iff_not]
    omega
  | plain _ escape _ _ =>
    simp [nextUnit?, dropPrefix?, Ne.symm escape] at next

/-! ## Reading a text back -/

theorem readText_short {c e : Char} (number : e ≠ 'u') (named : shortEscape? e = some c)
    (fuel : Nat) (tail : List Char) :
    readText .json (fuel + 1) ('\\' :: e :: tail) =
      (readText .json fuel tail).map fun (xs, r) => (c :: xs, r) := by
  rw [readText, if_neg (by decide), if_pos rfl]
  simp only [if_neg number, named]

theorem readText_unitEscape {n : Nat} {c : Char} {more tail : List Char}
    (unit : unitEscape? .json (Text.hexDigits 4 n ++ more) = some (c, tail)) (fuel : Nat) :
    readText .json (fuel + 1) (unitEscape n ++ more) =
      (readText .json fuel tail).map fun (xs, r) => (c :: xs, r) := by
  change readText .json (fuel + 1) ('\\' :: 'u' :: (Text.hexDigits 4 n ++ more)) = _
  rw [readText, if_neg (by decide), if_pos rfl]
  simp only [unit, ↓reduceIte]

theorem readText_plain {c : Char} (quote : c ≠ '"') (escape : c ≠ '\\')
    (visible : 0x20 ≤ c.toNat) (fuel : Nat) (tail : List Char) :
    readText .json (fuel + 1) (c :: tail) =
      (readText .json fuel tail).map fun (xs, r) => (c :: xs, r) := by
  rw [readText.eq_def]
  simp only [if_neg quote, if_neg escape]
  rw [if_neg (by simp; omega)]

/-- A character is read back from its written form, unless it is a high half and the escape of a
low one is next. -/
theorem readText_jsonChar {asciiOnly : Bool} {c : Char} {tail : List Char} (fuel : Nat)
    (alone : asciiOnly = true → Text.isHighHalf c = true →
      ∀ v more, nextUnit? tail = some (v, more) → isLowUnit v = false) :
    readText .json (fuel + 1) (jsonChar asciiOnly c ++ tail) =
      (readText .json fuel tail).map fun (xs, r) => (c :: xs, r) := by
  have range := toNat_range c
  generalize writing : jsonChar asciiOnly c = written
  have form : CharForm asciiOnly c written := writing ▸ jsonChar_form asciiOnly c
  cases form with
  | short e number named _ => exact readText_short number named fuel tail
  | unit small _ =>
    refine readText_unitEscape ?_ fuel
    rw [unitEscape?_of_char small ?_ ?_, Char.ofNat_toNat]
    · simp only [isHighUnit, Bool.and_eq_false_iff, decide_eq_false_iff_not]
      omega
    · simp only [isLowUnit, Bool.and_eq_false_iff, decide_eq_false_iff_not]
      omega
  | half u ascii standing =>
    obtain ⟨same, -, bottom, top⟩ := Text.surrogate?_eq_some standing
    refine readText_unitEscape ?_ fuel
    rw [unitEscape?_of_half (by omega) ?_ ?_, same]
    · simp only [isHighUnit, isLowUnit, Bool.and_eq_true, decide_eq_true_eq]
      omega
    · intro high
      exact alone ascii (by rw [Text.isHighHalf, standing]; exact high)
  | pair _ large _ =>
    rw [List.append_assoc]
    refine readText_unitEscape ?_ fuel
    rw [unitEscape?_of_pair (by omega) (by omega) ?_ ?_]
    · have code : 0x10000 + (0xd800 + (c.toNat - 0x10000) / 0x400 - 0xd800) * 0x400 +
          (0xdc00 + (c.toNat - 0x10000) % 0x400 - 0xdc00) = c.toNat := by omega
      rw [code, Char.ofNat_toNat]
    · simp only [isHighUnit, Bool.and_eq_true, decide_eq_true_eq]
      omega
    · simp only [isLowUnit, Bool.and_eq_true, decide_eq_true_eq]
      omega
  | plain quote escape visible _ => exact readText_plain quote escape visible fuel tail

/-- Two halves side by side are read as one character. -/
theorem readText_halves {c d : Char} (high : Text.isHighHalf c = true)
    (low : Text.isLowHalf d = true) (fuel : Nat) (tail : List Char) :
    readText .json (fuel + 1) (jsonChar true c ++ (jsonChar true d ++ tail)) =
      (readText .json fuel tail).map fun (xs, r) => (Text.pairOf c d :: xs, r) := by
  obtain ⟨u, standing, highUnit⟩ := (Option.any_eq_true _ _).mp high
  obtain ⟨v, standing', lowUnit⟩ := (Option.any_eq_true _ _).mp low
  obtain ⟨-, code, -, top⟩ := Text.surrogate?_eq_some standing
  obtain ⟨-, code', -, top'⟩ := Text.surrogate?_eq_some standing'
  rw [(jsonChar_form true c).eq_of_half standing, (jsonChar_form true d).eq_of_half standing']
  refine readText_unitEscape ?_ fuel
  rw [unitEscape?_of_pair (by omega) (by omega) highUnit lowUnit, Text.pairOf, code, code',
    Nat.add_sub_cancel_left, Nat.add_sub_cancel_left]

/-- Characters as a writer's escapes give them back. -/
def unescaped (asciiOnly : Bool) (cs : List Char) : List Char :=
  if asciiOnly then Text.joinHalves cs else cs

/-- A written text is read back up to its closing quote. -/
theorem readText_written (asciiOnly : Bool) (cs rest : List Char) {fuel : Nat}
    (enough : cs.length < fuel) :
    readText .json fuel (cs.flatMap (jsonChar asciiOnly) ++ '"' :: rest) =
      some (unescaped asciiOnly cs, rest) := by
  have closing : ∀ fuel, readText .json (fuel + 1) ('"' :: rest) = some ([], rest) := by
    intro fuel
    rw [readText.eq_def]
    exact if_pos rfl
  cases asciiOnly with
  | false =>
    induction cs generalizing fuel with
    | nil =>
      obtain ⟨fuel, rfl⟩ := Nat.exists_eq_add_one_of_ne_zero (Nat.ne_zero_of_lt enough)
      exact closing fuel
    | cons c cs ih =>
      obtain ⟨fuel, rfl⟩ := Nat.exists_eq_add_one_of_ne_zero (Nat.ne_zero_of_lt enough)
      rw [List.flatMap_cons, List.append_assoc, readText_jsonChar fuel (by simp),
        ih (Nat.lt_of_succ_lt_succ enough)]
      rfl
  | true =>
    change _ = some (Text.joinHalves cs, rest)
    induction cs using Text.joinHalves.induct generalizing fuel with
    | case1 c d cs halves ih =>
      obtain ⟨fuel, rfl⟩ := Nat.exists_eq_add_one_of_ne_zero (Nat.ne_zero_of_lt enough)
      obtain ⟨high, low⟩ := Bool.and_eq_true_iff.mp halves
      rw [List.flatMap_cons, List.flatMap_cons, List.append_assoc, List.append_assoc,
        readText_halves high low, ih (by simp at enough; omega), Text.joinHalves, if_pos halves]
      rfl
    | case2 c d cs apart ih =>
      obtain ⟨fuel, rfl⟩ := Nat.exists_eq_add_one_of_ne_zero (Nat.ne_zero_of_lt enough)
      rw [List.flatMap_cons, List.append_assoc, readText_jsonChar fuel,
        ih (Nat.lt_of_succ_lt_succ enough), Text.joinHalves, if_neg apart]
      · rfl
      · intro _ high v more next
        rw [List.flatMap_cons, List.append_assoc] at next
        rw [isLowUnit_of_nextUnit? (jsonChar_form true d) _ next]
        simpa [high] using apart
    | case3 cs short =>
      obtain ⟨fuel, rfl⟩ := Nat.exists_eq_add_one_of_ne_zero (Nat.ne_zero_of_lt enough)
      match cs, short with
      | [], _ => exact closing fuel
      | [c], _ =>
        obtain ⟨fuel, rfl⟩ := Nat.exists_eq_add_one_of_ne_zero
          (Nat.ne_zero_of_lt (Nat.lt_of_succ_lt_succ enough))
        rw [List.flatMap_cons, List.flatMap_nil, List.append_nil, readText_jsonChar,
          closing]
        · rfl
        · intro _ _ v more next
          simp [nextUnit?, dropPrefix?] at next
      | c :: d :: cs, short => exact (short c d cs rfl).elim

end Document

/-- A text as it comes back after being written and read. -/
def Text.reread (asciiOnly : Bool) (s : String) : String :=
  String.ofList (Document.unescaped asciiOnly s.toList)

/-- Whether a text holds no half of a pair. -/
def Text.IsWhole (s : String) : Prop := ∀ c ∈ s.toList, isStandIn c = false

theorem Text.IsWhole.reread_eq {s : String} (whole : IsWhole s) (asciiOnly : Bool) :
    reread asciiOnly s = s := by
  have same : Document.unescaped asciiOnly s.toList = s.toList := by
    cases asciiOnly with
    | false => rfl
    | true => exact joinHalves_eq_self whole
  rw [reread, same, String.ofList_toList]

/-- A text that does not come back as it was has become shorter. -/
theorem Text.reread_eq_or_lt (asciiOnly : Bool) (s : String) :
    reread asciiOnly s = s ∨ (reread asciiOnly s).length < s.length := by
  have either : Document.unescaped asciiOnly s.toList = s.toList ∨
      (Document.unescaped asciiOnly s.toList).length < s.toList.length := by
    cases asciiOnly with
    | false => exact .inl rfl
    | true => exact joinHalves_eq_or_lt s.toList
  rcases either with same | fewer
  · exact .inl (by rw [reread, same, String.ofList_toList])
  · rw [String.length_toList] at fewer
    exact .inr (by simpa [reread] using fewer)

end RuleBound
