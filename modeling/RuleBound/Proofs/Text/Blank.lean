import Mathlib.Data.List.TakeWhile
import RuleBound.Proofs.Digest
import RuleBound.Text.Blank

/-!
Blanks at the ends of texts. Stripping drops all of them and nothing else, so it leaves a text as it is
exactly if it is trimmed: it has no blank at either end.

In lower case no other character becomes a line feed and every character becomes something. So what
was stripped does not end in a line feed in lower case either, and has the shape of a digest exactly
if it is 64 digits: the line feed that the shape allows behind them is never there.
-/

namespace RuleBound.Text

theorem dropEndWhile_concat {α : Type} {p : α → Bool} {x : α} (stays : p x = false) (l : List α) :
    dropEndWhile p (l ++ [x]) = l ++ [x] := by
  rw [dropEndWhile, List.reverse_concat, List.dropWhile_cons_of_neg (by simp [stays]),
    ← List.reverse_concat, List.reverse_reverse]

theorem mem_of_dropEndWhile {α : Type} {p : α → Bool} {l : List α} {x : α}
    (mem : x ∈ dropEndWhile p l) : x ∈ l := by
  rw [dropEndWhile, List.mem_reverse] at mem
  exact List.mem_reverse.mp ((List.dropWhile_suffix p).subset mem)

theorem dropEndWhile_append {α : Type} (p : α → Bool) (l m : List α) :
    dropEndWhile p (l ++ m) =
      if dropEndWhile p m = [] then dropEndWhile p l else l ++ dropEndWhile p m := by
  unfold dropEndWhile
  rw [List.reverse_append, List.dropWhile_append]
  simp only [List.reverse_eq_nil_iff, List.isEmpty_iff]
  split
  · rfl
  · rw [List.reverse_append, List.reverse_reverse]

/-- What is dropped at the end of characters fits. -/
theorem exists_dropEndWhile {α : Type} (p : α → Bool) (l : List α) :
    ∃ dropped, l = dropEndWhile p l ++ dropped ∧ ∀ x ∈ dropped, p x = true := by
  refine ⟨(l.reverse.takeWhile p).reverse, ?_, fun x mem => ?_⟩
  · rw [dropEndWhile, ← List.reverse_append, List.takeWhile_append_dropWhile,
      List.reverse_reverse]
  · exact List.mem_takeWhile_imp (List.mem_reverse.mp mem)

/-! ## Trimmed texts -/

/-- Whether characters have no blank at either end. -/
structure IsTrimmed (cs : List Char) : Prop where
  first : ∀ c ∈ cs.head?, isBlank c = false
  last : ∀ c ∈ cs.getLast?, isBlank c = false

theorem IsTrimmed.reverse {cs : List Char} (trimmed : IsTrimmed cs) : IsTrimmed cs.reverse where
  first := by
    rw [List.head?_reverse]
    exact trimmed.last
  last := by
    rw [List.getLast?_reverse]
    exact trimmed.first

/-- Nothing is dropped in front of a first character that is no blank. -/
theorem dropWhile_isBlank {cs : List Char} (first : ∀ c ∈ cs.head?, isBlank c = false) :
    cs.dropWhile isBlank = cs := by
  cases cs with
  | nil => rfl
  | cons c cs => exact List.dropWhile_cons_of_neg (by simp [first c rfl])

/-- What is dropped around characters are blanks, and all that are there. -/
theorem exists_stripChars (cs : List Char) : ∃ before behind,
    cs = before ++ stripChars cs ++ behind ∧ (∀ c ∈ before, isBlank c = true) ∧
      (∀ c ∈ behind, isBlank c = true) ∧ IsTrimmed (stripChars cs) := by
  obtain ⟨behind, whole, blank⟩ := exists_dropEndWhile isBlank (cs.dropWhile isBlank)
  refine ⟨cs.takeWhile isBlank, behind, ?_, fun c mem => List.mem_takeWhile_imp mem, blank, ?_, ?_⟩
  · rw [stripChars, List.append_assoc, ← whole, List.takeWhile_append_dropWhile]
  · intro c mem
    have here : c ∈ (cs.dropWhile isBlank).head? := by
      rw [whole]
      exact List.mem_head?_append_of_mem_head? mem
    have stopped := List.head?_dropWhile_not isBlank cs
    rwa [here] at stopped
  · intro c mem
    have stopped := List.head?_dropWhile_not isBlank (cs.dropWhile isBlank).reverse
    rw [stripChars, dropEndWhile, List.getLast?_reverse] at mem
    rwa [mem] at stopped

theorem stripChars_eq_self_iff {cs : List Char} : stripChars cs = cs ↔ IsTrimmed cs := by
  constructor
  · intro same
    obtain ⟨-, -, -, -, -, trimmed⟩ := exists_stripChars cs
    rwa [same] at trimmed
  · intro trimmed
    rw [stripChars, dropWhile_isBlank trimmed.first, dropEndWhile,
      dropWhile_isBlank trimmed.reverse.first, List.reverse_reverse]

theorem isTrimmed_of_visible {cs : List Char} (visible : ∀ c ∈ cs, isBlank c = false) :
    IsTrimmed cs :=
  ⟨fun c mem => visible c (List.mem_of_mem_head? mem),
    fun c mem => visible c (List.mem_of_mem_getLast? mem)⟩

/-- Blanks around characters that are none are removed, and nothing else. -/
theorem strip_surrounded {before cs behind : List Char} (blank : ∀ c ∈ before, isBlank c = true)
    (visible : ∀ c ∈ cs, isBlank c = false) (blank' : ∀ c ∈ behind, isBlank c = true) :
    strip (String.ofList (before ++ cs ++ behind)) = String.ofList cs := by
  unfold strip stripChars dropEndWhile
  rw [String.toList_ofList, List.append_assoc, List.dropWhile_append_of_pos blank]
  cases cs with
  | nil =>
    rw [List.nil_append, List.dropWhile_eq_nil_iff.mpr blank']
    rfl
  | cons c cs =>
    have starts : (c :: cs ++ behind).dropWhile isBlank = c :: cs ++ behind :=
      List.dropWhile_cons_of_neg (by simp [visible c List.mem_cons_self])
    rw [starts, List.reverse_append,
      List.dropWhile_append_of_pos fun c mem => blank' c (List.mem_reverse.mp mem),
      dropWhile_isBlank (isTrimmed_of_visible visible).reverse.first, List.reverse_reverse]

/-- A text without blanks has none at its ends. -/
theorem strip_eq_self {s : String} (visible : ∀ c ∈ s.toList, isBlank c = false) : strip s = s := by
  rw [strip, stripChars_eq_self_iff.mpr (isTrimmed_of_visible visible), String.ofList_toList]

theorem isBlank_eq_false_of_isLowerHex {c : Char} (hex : isLowerHex c = true) :
    isBlank c = false := by
  have small := toNat_lt_of_isLowerHex hex
  have fixed : ∀ n < 0x67, isLowerHex (Char.ofNat n) = true → isBlank (Char.ofNat n) = false := by
    decide
  have here := fixed c.toNat small
  rw [Char.ofNat_toNat] at here
  exact here hex

theorem IsHex.strip_eq {s : String} (hex : IsHex s) : strip s = s :=
  strip_eq_self fun c mem => isBlank_eq_false_of_isLowerHex (hex c mem)

/-! ## Line feeds in lower case -/

theorem eq_newline_of_ofNat {n : Nat} (same : Char.ofNat n = '\n') : n = 0x0a := by
  by_cases valid : n.isValidChar
  · rw [Char.ofNat, dif_pos valid] at same
    exact congrArg Char.toNat same
  · rw [Char.ofNat, dif_neg valid] at same
    exact absurd same (by decide)

theorem newline_lt_of_mem_lowerRuns : ∀ run ∈ lowerRuns, 0x0a < (run.first : Int) + run.shift := by
  decide +kernel

theorem newline_lt_of_mem_lowerSpecial : ∀ entry ∈ lowerSpecial, ∀ code ∈ entry.2, 0x0a < code := by
  decide

theorem ne_nil_of_mem_lowerSpecial : ∀ entry ∈ lowerSpecial, entry.2 ≠ [] := by
  decide

theorem lowerChar_ne_nil (c : Char) : lowerChar c ≠ [] := by
  unfold lowerChar otherCase
  split
  · exact List.cons_ne_nil _ _
  · split
    · next found =>
      have some := ne_nil_of_mem_lowerSpecial _ (List.mem_of_find?_eq_some found)
      exact fun none => some (List.map_eq_nil_iff.mp none)
    · split
      · exact List.cons_ne_nil _ _
      · exact List.cons_ne_nil _ _

/-- Nothing but a line feed becomes one. -/
theorem eq_newline_of_mem_lowerChar {c : Char} (mem : '\n' ∈ lowerChar c) : c = '\n' := by
  unfold lowerChar otherCase at mem
  split at mem
  · next small =>
    have fixed : ∀ n < 0x80, '\n' = (Char.ofNat n).toLower → Char.ofNat n = '\n' := by decide
    have here := fixed c.toNat small
    rw [Char.ofNat_toNat] at here
    exact here (List.mem_singleton.mp mem)
  · split at mem
    · next found =>
      obtain ⟨code, among, same⟩ := List.mem_map.mp mem
      have large := newline_lt_of_mem_lowerSpecial _ (List.mem_of_find?_eq_some found) code among
      have low := eq_newline_of_ofNat same
      omega
    · split at mem
      · next run found =>
        have large := newline_lt_of_mem_lowerRuns run (List.mem_of_find?_eq_some found)
        have low := eq_newline_of_ofNat (List.mem_singleton.mp mem).symm
        have holds := List.find?_some found
        simp only [CaseRun.holds, Bool.and_eq_true, decide_eq_true_eq] at holds
        omega
      · exact (List.mem_singleton.mp mem).symm

theorem lowerBehind_eq_nil_iff {before cs : List Char} : lowerBehind before cs = [] ↔ cs = [] := by
  cases cs with
  | nil => exact iff_of_true rfl rfl
  | cons c rest =>
    refine iff_of_false (fun none => ?_) (List.cons_ne_nil _ _)
    rw [lowerBehind, List.append_eq_nil_iff] at none
    split at none
    · exact List.cons_ne_nil _ _ none.1
    · exact lowerChar_ne_nil c none.1

/-- A text ends in a line feed in lower case only if it ends in one. -/
theorem getLast?_of_lowerBehind {before cs : List Char}
    (last : (lowerBehind before cs).getLast? = some '\n') : cs.getLast? = some '\n' := by
  induction cs generalizing before with
  | nil => cases last
  | cons c rest ih =>
    cases rest with
    | nil =>
      rw [lowerBehind, lowerBehind, List.append_nil] at last
      have mem := List.mem_of_getLast? last
      split at mem
      · split at mem
        · exact absurd mem (by decide)
        · exact absurd mem (by decide)
      · rw [eq_newline_of_mem_lowerChar mem]
        rfl
    | cons c' rest =>
      have some : lowerBehind (c :: before) (c' :: rest) ≠ [] :=
        mt lowerBehind_eq_nil_iff.mp (List.cons_ne_nil c' rest)
      rw [lowerBehind, List.getLast?_append_of_ne_nil _ some] at last
      rw [List.getLast?_cons_cons]
      exact ih last

/-- What was stripped has the shape of a digest in lower case exactly if it is 64 digits. -/
theorem isDigest_lower_strip_iff {s : String} :
    isDigest (lower (strip s)) = true ↔ IsDigits (lower (strip s)) := by
  rw [isDigest_iff]
  refine or_iff_left ?_
  rintro ⟨digits, -, behind⟩
  have last : (lowerBehind [] (strip s).toList).getLast? = some '\n' := by
    have text := congrArg String.toList behind
    rw [lower, String.toList_ofList, String.toList_append] at text
    rw [text]
    exact List.getLast?_concat
  obtain ⟨-, -, -, -, -, trimmed⟩ := exists_stripChars s.toList
  have ends := getLast?_of_lowerBehind last
  rw [strip, String.toList_ofList] at ends
  exact absurd (trimmed.last '\n' ends) (by decide)

/-! ## Blanks and halves of pairs -/

theorem isBlank_eq_false_of_lt {c : Char} (large : 0x3000 < c.toNat) : isBlank c = false := by
  simp only [isBlank, Bool.or_eq_false_iff, Bool.and_eq_false_iff, decide_eq_false_iff_not,
    beq_eq_false_iff_ne]
  omega

/-- Neither half of a pair is blank, nor the character of the pair. -/
theorem isBlank_pairOf {c d : Char} (halves : (isHighHalf c && isLowHalf d) = true) :
    isBlank c = false ∧ isBlank (pairOf c d) = false := by
  rw [Bool.and_eq_true, isHighHalf, isLowHalf, Option.any_eq_true_iff_get,
    Option.any_eq_true_iff_get] at halves
  obtain ⟨⟨high, isHigh⟩, low, isLow⟩ := halves
  obtain ⟨-, first, -, -⟩ := surrogate?_eq_some (Option.some_get high).symm
  obtain ⟨-, second, -, -⟩ := surrogate?_eq_some (Option.some_get low).symm
  generalize (surrogate? c).get high = u at isHigh first
  generalize (surrogate? d).get low = v at isLow second
  simp only [Document.isHighUnit, Document.isLowUnit, Bool.and_eq_true, decide_eq_true_eq]
    at isHigh isLow
  have shift : standInShift = 0x100000 := rfl
  refine ⟨isBlank_eq_false_of_lt (by omega), isBlank_eq_false_of_lt ?_⟩
  have valid : (0x10000 + (c.toNat - standInShift - 0xd800) * 0x400 +
      (d.toNat - standInShift - 0xdc00)).isValidChar := by
    unfold Nat.isValidChar
    omega
  rw [pairOf, Char.ofNat, dif_pos valid]
  change 0x3000 < 0x10000 + (c.toNat - standInShift - 0xd800) * 0x400 + _
  omega

/-- A text is blank exactly if it comes back blank. -/
theorem isBlankText_reread (s : String) : isBlankText (reread true s) = isBlankText s := by
  have joined : ∀ cs, (joinHalves cs).all isBlank = cs.all isBlank := by
    intro cs
    fun_induction joinHalves cs with
    | case1 c d rest halves ih =>
      obtain ⟨first, pair⟩ := isBlank_pairOf halves
      simp [first, pair]
    | case2 c d rest halves ih => rw [List.all_cons, ih, ← List.all_cons]
    | case3 cs _ => rfl
  rw [isBlankText, reread, String.toList_ofList]
  exact joined s.toList

/-- A digest is not blank. -/
theorem isBlankText_ofBytes (message : Bytes) : isBlankText (Sha256.ofBytes message) = false := by
  have hex := Sha256.isHex_ofBytes message
  have length := Sha256.length_ofBytes message
  unfold isBlankText
  cases cs : (Sha256.ofBytes message).toList with
  | nil =>
    rw [cs] at length
    cases length
  | cons c rest =>
    rw [List.all_cons, isBlank_eq_false_of_isLowerHex (hex c (cs ▸ List.mem_cons_self)),
      Bool.false_and]

end RuleBound.Text
