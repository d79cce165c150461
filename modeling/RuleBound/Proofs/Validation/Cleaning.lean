import RuleBound.Proofs.Document.Number
import RuleBound.Proofs.Sequencing
import RuleBound.Proofs.Text.Blank
import RuleBound.Validation.Field

/-!
Texts that have been cleaned. A text is cleaned of the blanks around it first and of NULs then. A NUL
that is dropped may have stood between a blank and the end of the text; such a blank is left, and a
second cleaning removes it. So what a check accepts is trimmed, and accepted again as it is, exactly if
no NUL at either end of the text hides a blank.
-/

namespace RuleBound.Validation

open Text (IsTrimmed isBlank stripChars)

/-! ## Cleaning -/

theorem toList_sanitize (s : String) :
    (sanitize s).toList = (stripChars s.toList).filter (· != '\x00') := by
  rw [sanitize, String.toList_ofList]

theorem not_mem_sanitize (s : String) : '\x00' ∉ (sanitize s).toList := by
  rw [toList_sanitize]
  intro mem
  exact absurd (List.mem_filter.mp mem).2 (by decide)

/-- Cleaning leaves a text as it is exactly if it is trimmed and has no NUL. -/
theorem sanitize_eq_self_iff {s : String} :
    sanitize s = s ↔ IsTrimmed s.toList ∧ '\x00' ∉ s.toList := by
  constructor
  · intro same
    have absent := not_mem_sanitize s
    rw [same] at absent
    refine ⟨Text.stripChars_eq_self_iff.mp ?_, absent⟩
    obtain ⟨before, behind, whole, -⟩ := Text.exists_stripChars s.toList
    -- No character is dropped, since none is added either.
    have length := congrArg List.length whole
    have kept := List.length_filter_le (· != '\x00') (stripChars s.toList)
    rw [← toList_sanitize, same] at kept
    rw [List.length_append, List.length_append] at length
    obtain ⟨rfl, rfl⟩ : before = [] ∧ behind = [] :=
      ⟨List.length_eq_zero_iff.mp (by omega), List.length_eq_zero_iff.mp (by omega)⟩
    rw [List.nil_append, List.append_nil] at whole
    exact whole.symm
  · rintro ⟨trimmed, absent⟩
    rw [← String.toList_inj, toList_sanitize, Text.stripChars_eq_self_iff.mpr trimmed,
      List.filter_eq_self]
    intro c mem
    rw [bne_iff_ne]
    rintro rfl
    exact absent mem

/-! ## Blanks behind NULs -/

/-- Whether a NUL at the beginning of characters hides a blank: nothing but blanks and NULs stands in
front of the blank, and a NUL does. -/
def HidesBlank (cs : List Char) : Prop :=
  ∃ before c after, cs = before ++ c :: after ∧ isBlank c = true ∧ '\x00' ∈ before ∧
    ∀ d ∈ before, isBlank d = true ∨ d = '\x00'

/-- Whether a NUL at either end of a text hides a blank. -/
def IsVeiled (s : String) : Prop := HidesBlank s.toList ∨ HidesBlank s.toList.reverse

/-- The first character that is left of some without their NULs is a blank that a NUL hides, if the
first of all is none; whatever blanks stand around them. -/
theorem head_isBlank_iff {cs before : List Char} (blank : ∀ c ∈ before, isBlank c = true)
    (first : ∀ c ∈ cs.head?, isBlank c = false) {d : Char}
    (left : (cs.filter (· != '\x00')).head? = some d) (behind : List Char) :
    isBlank d = true ↔ HidesBlank (before ++ cs ++ behind) := by
  rw [List.head?_filter, List.find?_eq_some_iff_append] at left
  obtain ⟨visible, nuls, rest, rfl, none⟩ := left
  have zero : ∀ c ∈ nuls, c = '\x00' := by simpa using none
  rw [bne_iff_ne] at visible
  constructor
  · intro blank'
    refine ⟨before ++ nuls, d, rest ++ behind, by simp, blank', ?_, ?_⟩
    · cases nuls with
      | nil => cases blank'.symm.trans (first d rfl)
      | cons c nuls => simp [zero c List.mem_cons_self]
    · intro c mem
      exact (List.mem_append.mp mem).imp (blank c) (zero c)
  · rintro ⟨before', c, after, same, blank', hidden, veil⟩
    by_contra apart
    -- What is neither blank nor NUL stands behind all that is hidden.
    have split : (before ++ nuls) ++ d :: (rest ++ behind) = before' ++ c :: after := by
      simpa using same
    rcases List.append_eq_append_iff.mp split with ⟨more, rfl, tail⟩ | ⟨more, whole, tail⟩
    · cases more with
      | nil =>
        obtain ⟨rfl, -⟩ := List.cons.inj tail
        exact apart blank'
      | cons e more =>
        obtain ⟨rfl, -⟩ := List.cons.inj tail
        exact (veil d (by simp)).elim apart visible
    · cases more with
      | nil =>
        obtain ⟨rfl, -⟩ := List.cons.inj tail
        exact apart blank'
      | cons e more =>
        obtain ⟨rfl, -⟩ := List.cons.inj tail
        rcases List.append_eq_append_iff.mp whole with ⟨mid, rfl, tail'⟩ | ⟨mid, rfl, tail'⟩
        · have nul := zero c (tail' ▸ by simp)
          rw [nul] at blank'
          exact absurd blank' (by decide)
        · have nul := blank '\x00' (by simp [hidden])
          exact absurd nul (by decide)

/-- A cleaned text that is not empty is trimmed exactly if no NUL hid a blank. -/
theorem isTrimmed_sanitize_iff {s : String} (filled : (sanitize s).toList ≠ []) :
    IsTrimmed (sanitize s).toList ↔ ¬ IsVeiled s := by
  obtain ⟨before, behind, whole, blank, blank', trimmed⟩ := Text.exists_stripChars s.toList
  unfold IsVeiled
  rw [toList_sanitize] at filled ⊢
  generalize stripChars s.toList = cs at filled trimmed whole
  rw [whole, List.reverse_append, List.reverse_append, ← List.append_assoc]
  obtain ⟨c, first⟩ := Option.ne_none_iff_exists'.mp (mt List.head?_eq_none_iff.mp filled)
  obtain ⟨d, last⟩ := Option.ne_none_iff_exists'.mp (mt List.getLast?_eq_none_iff.mp filled)
  have last' : (cs.reverse.filter (· != '\x00')).head? = some d := by
    rwa [List.filter_reverse, List.head?_reverse]
  have blank'' : ∀ c ∈ behind.reverse, isBlank c = true :=
    fun c mem => blank' c (List.mem_reverse.mp mem)
  have atFront := head_isBlank_iff blank trimmed.first first behind
  have atEnd := head_isBlank_iff blank'' trimmed.reverse.first last' before.reverse
  rw [← atFront, ← atEnd, not_or, Bool.not_eq_true, Bool.not_eq_true]
  constructor
  · rintro ⟨visible, visible'⟩
    exact ⟨visible c first, visible' d last⟩
  · rintro ⟨visible, visible'⟩
    constructor
    · intro e mem
      rwa [Option.mem_unique mem first]
    · intro e mem
      rwa [Option.mem_unique mem last]

/-! ## Checks of texts -/

variable {field s clean : String} {minLength maxLength : Int} {pattern : Option (String → Bool)}
  {warnings : List String}

theorem textReview_eq_accepted_iff {shorterThan longerThan : Option String} {hasForm : Bool}
    {text : String} :
    textReview field shorterThan longerThan hasForm text = .accepted clean warnings ↔
      clean = text ∧ warnings = [] ∧ shorterThan = none ∧ longerThan = none ∧ hasForm = true := by
  unfold textReview
  cases shorterThan <;> cases longerThan <;> cases hasForm <;> simp [eq_comm]

theorem textReview_eq_of_issues {shorterThan longerThan : Option String} {hasForm : Bool}
    {text : String} (fine : (textReview field shorterThan longerThan hasForm text).issues = []) :
    textReview field shorterThan longerThan hasForm text = .accepted text [] := by
  have told : ∀ issues : List Issue,
      (if issues.isEmpty then Review.accepted text [] else .refused issues).issues = [] →
        (if issues.isEmpty then Review.accepted text [] else .refused issues) = .accepted text [] := by
    rintro (_ | ⟨issue, issues⟩) none
    · rfl
    · cases none
  exact told _ fine

/-- A refusal tells what is wrong. -/
theorem exists_accepted_of_issues {value : Document}
    (fine : (checkText field minLength maxLength pattern value).issues = []) :
    ∃ clean, checkText field minLength maxLength pattern value = .accepted clean [] := by
  cases value with
  | text s =>
    rw [checkText] at fine ⊢
    exact ⟨_, textReview_eq_of_issues fine⟩
  | _ => simp [checkText, noText, Review.issues] at fine

/-- A text is accepted exactly if it has fitting length and form when it is clean, and so it is
answered. -/
theorem checkText_eq_accepted_iff :
    checkText field minLength maxLength pattern (.text s) = .accepted clean warnings ↔
      clean = sanitize s ∧ warnings = [] ∧ minLength ≤ clean.length ∧ clean.length ≤ maxLength ∧
        (pattern.all fun accepts => accepts clean) = true := by
  rw [checkText, textReview_eq_accepted_iff, ite_eq_right_iff, ite_eq_right_iff]
  constructor
  · rintro ⟨rfl, rfl, long, short, form⟩
    simp only [reduceCtorEq, imp_false, Int.not_lt] at long short
    exact ⟨rfl, rfl, long, short, form⟩
  · rintro ⟨rfl, rfl, long, short, form⟩
    exact ⟨rfl, rfl, fun few => absurd long (Int.not_le.mpr few),
      fun many => absurd short (Int.not_le.mpr many), form⟩

/-- Bounds that are whole numbers can be given as documents. -/
theorem checkTextBetween_integer (field : String) (minLength maxLength : Int)
    (pattern : Option (String → Bool)) (value : Document) :
    checkTextBetween field (.integer minLength) (.integer maxLength) pattern value =
      .ok (checkText field minLength maxLength pattern value) := by
  cases value with
  | text s =>
    have shown : ∀ n : Int, (Document.integer n).shown = toString n := fun n => rfl
    simp only [checkTextBetween, checkText, Document.isBelow_integer, ok_bind, decide_eq_true_eq,
      shown]
    rfl
  | _ => rfl

/-- What a check of a text that must not be empty accepts has no NUL and fitting length; and it is
trimmed, and accepted again as it is, exactly if no NUL at either end of the text hid a blank. -/
theorem clean_lasting_iff (filled : 1 ≤ minLength)
    (accepted : checkText field minLength maxLength pattern (.text s) = .accepted clean warnings) :
    '\x00' ∉ clean.toList ∧ minLength ≤ clean.length ∧ clean.length ≤ maxLength ∧
      (IsTrimmed clean.toList ↔ ¬ IsVeiled s) ∧
      (checkText field minLength maxLength pattern (.text clean) = .accepted clean [] ↔
        ¬ IsVeiled s) := by
  obtain ⟨rfl, -, long, short, form⟩ := checkText_eq_accepted_iff.mp accepted
  have some : (sanitize s).toList ≠ [] := by
    intro empty
    rw [← String.length_toList, empty] at long
    change minLength ≤ 0 at long
    omega
  have absent := not_mem_sanitize s
  have trimmed := isTrimmed_sanitize_iff some
  refine ⟨absent, long, short, trimmed, ?_⟩
  rw [checkText_eq_accepted_iff, eq_comm, sanitize_eq_self_iff, trimmed]
  constructor
  · rintro ⟨⟨bare, -⟩, -⟩
    exact bare
  · exact fun bare => ⟨⟨bare, absent⟩, rfl, long, short, form⟩

theorem clean_lasting_inner_nul :
    checkText "name" 1 8 none (.text " ab\x00c ") = .accepted "abc" [] ∧
      ¬ IsVeiled " ab\x00c " ∧ checkText "name" 1 8 none (.text "abc") = .accepted "abc" [] := by
  have accepted : checkText "name" 1 8 none (.text " ab\x00c ") = .accepted "abc" [] := by decide
  obtain ⟨-, -, -, trimmed, again⟩ := clean_lasting_iff (by decide) accepted
  have bare := trimmed.mp ⟨by rintro c ⟨⟩; decide, by rintro c ⟨⟩; decide⟩
  exact ⟨accepted, bare, again.mpr bare⟩

/-- A blank behind a NUL is left in front of what is accepted, and is removed only the next time; if
nothing else is left, what was accepted is refused then. -/
theorem not_clean_lasting_blank_behind_nul :
    (checkText "name" 1 8 none (.text "\x00 a") = .accepted " a" [] ∧
        ¬ IsTrimmed " a".toList ∧
        checkText "name" 1 8 none (.text " a") = .accepted "a" []) ∧
      checkText "name" 1 8 none (.text "\x00 \x00") = .accepted " " [] ∧
        checkText "name" 1 8 none (.text " ") =
          .refused [⟨"name", "Too short (min 1 chars)"⟩] := by
  refine ⟨⟨by decide, fun trimmed => ?_, by decide⟩, by decide, by decide⟩
  have visible := trimmed.first ' ' rfl
  exact absurd visible (by decide)

end RuleBound.Validation
