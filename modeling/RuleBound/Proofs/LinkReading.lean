import Mathlib.Data.List.DropRight
import RuleBound.Proofs.Guard
import RuleBound.Proofs.Link

/-!
What reading makes of any text. The many spellings of a link come down to one form: a link that was
read is written so that it is read as the same link from its origin without slashes at its end, and
then it is written the same again.

A text that is read as no link is turned down as one, with two exceptions that come before the
fragment is looked at: the address in front of it announces a host that is none, or its path ends in
a number with more digits than can be read.
-/

namespace RuleBound

open Web (AreParts IsPath IsWebScheme written)

namespace CapabilityLink

/-! ## One form -/

/-- The number of an object that was read is above zero and not too long. -/
theorem bounds_of_objectIdOf {segment : List Char} {n : Nat}
    (read : objectIdOf segment = .ok (some n)) : 0 < n ∧ Document.IsShort (.integer n) := by
  unfold objectIdOf at read
  split at read
  · cases read
  next digits =>
  split at read
  · cases read
  next small =>
  dsimp only at read
  split at read
  · cases read
  next nonzero =>
  cases read
  rw [Bool.or_eq_true, not_or, Bool.not_eq_true', Bool.not_eq_false, List.all_eq_true] at digits
  have bound : Text.digitsToNat segment < 10 ^ segment.length := Document.digitsValue_lt digits.2
  refine ⟨Nat.pos_of_ne_zero nonzero, Nat.lt_of_lt_of_le bound ?_⟩
  exact Nat.pow_le_pow_right (by decide) (Nat.not_lt.mp small)

theorem isWeb_iff (a : Web.Address) :
    ¬ ((a.scheme ≠ "http" ∧ a.scheme ≠ "https") ∨ a.host = "") ↔
      IsWebScheme a.scheme.toList ∧ a.host ≠ "" := by
  rw [not_or, not_and_or, not_not, not_not, IsWebScheme, String.toList_inj, String.toList_inj]

theorem prefix_dropEndSlashes (cs : List Char) : dropEndSlashes cs <+: cs := by
  obtain ⟨dropped, whole⟩ := List.dropWhile_suffix (· == '/') (l := cs.reverse)
  exact ⟨dropped.reverse, by
    rw [dropEndSlashes, Text.dropEndWhile, ← List.reverse_append, whole, List.reverse_reverse]⟩

theorem dropEndSlashes_dropEndSlashes (cs : List Char) :
    dropEndSlashes (dropEndSlashes cs) = dropEndSlashes cs := by
  unfold dropEndSlashes Text.dropEndWhile
  rw [List.reverse_reverse, List.dropWhile_idempotent]

theorem prefix_splitPath (path : List Char) : (splitPath path).1 <+: path :=
  (List.take_prefix _ _).trans (prefix_dropEndSlashes path)

/-- What was read is a link from an address of the web to an object with a number above zero. -/
theorem isParted_of_parseText {text : String} {l : CapabilityLink} (read : parseText text = .ok l) :
    IsParted l.origin ∧ ∃ n : Nat, l.objectId = .integer n ∧ 0 < n ∧
      Document.IsShort (.integer n) := by
  obtain ⟨-, a, n, key, split, web, number, -, rfl⟩ := parseText_eq_ok_iff.mp read
  obtain ⟨web, filled⟩ := (isWeb_iff a).mp web
  have parts := Web.areParts_of_split split filled
  have front := prefix_splitPath a.path.toList
  have begins : IsPath (splitPath a.path.toList).1 := parts.begins.of_prefix front
  refine ⟨⟨a.scheme.toList, a.host.toList, (splitPath a.path.toList).1, ?_, web, ?_,
    parts.withPath begins fun c mem => front.subset mem⟩, n, rfl, bounds_of_objectIdOf number⟩
  · simp [written, String.toList_append]
  · exact fun none => filled (String.toList_inj.mp none)

theorem build_trimmed (l : CapabilityLink) : l.trimmed.build = l.build := by
  unfold build trimmed
  rw [String.toList_ofList, dropEndSlashes_dropEndSlashes]

/-- Reading brings every spelling of a link to one form: the written form of what was read is read
as the same number and key and as the origin without slashes at its end, and is written the same
again. -/
theorem exists_parse_build {text : String} {l : CapabilityLink} (read : parse (.text text) = .ok l) :
    ∃ l', parse (.text l.build) = .ok l' ∧ l'.objectId = l.objectId ∧ l'.key = l.key ∧
      l'.origin.toList = dropEndSlashes l.origin.toList ∧ l'.build = l.build := by
  obtain ⟨fine, n, named, pos, short⟩ := isParted_of_parseText read
  have again := fine.parseText_withFragment named pos short (keyOfFragment_fragmentOf l.key)
  rw [← named, ← build_eq_withFragment] at again
  exact ⟨l.trimmed, again, rfl, rfl, String.toList_ofList, l.build_trimmed⟩

/-- A link with a scheme in capitals, doubled slashes, needless zeros and a query. -/
theorem exists_parse_build_untidy :
    let text := "HTTP://h//a//007//?q#" ++ fragmentOf evenKey
    let l : CapabilityLink := ⟨"http://h//a/", .integer 7, evenKey⟩
    parse (.text text) = .ok l ∧
      ∃ l', parse (.text l.build) = .ok l' ∧ l'.objectId = .integer 7 ∧ l'.key = evenKey ∧
        l'.origin.toList = "http://h//a".toList ∧ l'.build = l.build := by
  intro text l
  have parts : text.toList = "HTTP://h//a//007//?q".toList ++ '#' :: (fragmentOf evenKey).toList := by
    rw [String.toList_append]
    rfl
  have base : text.toList.takeWhile (· != '#') = "HTTP://h//a//007//?q".toList := by
    rw [parts, Web.takeWhile_stop (by rfl)]
    decide
  have fragment : (text.toList.dropWhile (· != '#')).drop 1 = (fragmentOf evenKey).toList := by
    rw [parts, Web.dropWhile_stop (by rfl)]
    rfl
  have read : parse (.text text) = .ok l := by
    refine parseText_eq_ok_iff.mpr ⟨by rw [parts]; simp, ⟨"http", "h", "//a//007//"⟩, 7, evenKey,
      ?_, by decide, by decide, ?_, by decide⟩
    · rw [base, String.ofList_toList]
      rfl
    · rw [fragment, String.ofList_toList, keyOfFragment_fragmentOf]
  have front : dropEndSlashes l.origin.toList = "http://h//a".toList := by decide
  obtain ⟨l', again, id, key, origin, built⟩ := exists_parse_build read
  exact ⟨read, l', again, id, key, origin.trans front, built⟩

/-! ## What is no link -/

/-- The address of a link: what stands in front of the first number sign of a text. -/
def addressOf (text : String) : String := String.ofList (text.toList.takeWhile (· != '#'))

/-- The faults that do not say of a text that it is no link, each with what there is in the text when
reading it ends in that fault. -/
inductive Strays (text : String) : Fault → Prop
  | host {host : List Char} {fault : Web.HostFault} (marked : '#' ∈ text.toList)
      (announced : Web.announced? (addressOf text) = some host)
      (defect : Web.IsDefectOf host fault) : Strays text (.host fault)
  | number {a : Web.Address} (marked : '#' ∈ text.toList)
      (split : Web.split (addressOf text) = .ok a) (web : IsWebScheme a.scheme.toList)
      (filled : a.host ≠ "") (digits : ∀ c ∈ (splitPath a.path.toList).2, c.isDigit = true)
      (long : Text.integerDigitLimit < (splitPath a.path.toList).2.length) :
      Strays text (.numeralTooLong (some (splitPath a.path.toList).2.length))

theorem objectIdOf_eq_error_iff {segment : List Char} {f : Fault} :
    objectIdOf segment = .error f ↔ (∀ c ∈ segment, c.isDigit = true) ∧
      Text.integerDigitLimit < segment.length ∧ f = .numeralTooLong (some segment.length) := by
  constructor
  · intro failed
    unfold objectIdOf at failed
    split at failed
    · cases failed
    next digits =>
    split at failed
    · next long =>
      cases failed
      rw [Bool.or_eq_true, not_or, Bool.not_eq_true', Bool.not_eq_false, List.all_eq_true] at digits
      exact ⟨digits.2, long, rfl⟩
    · cases failed
  · rintro ⟨digits, long, rfl⟩
    have some : segment ≠ [] := by
      rintro rfl
      exact absurd long (Nat.not_lt_zero _)
    unfold objectIdOf
    rw [if_neg (by simpa [some] using digits), if_pos long]

/-- Whether a fault says of a text that it is no link. -/
def IsRejection (f : Fault) : Prop := ∃ g, f = .link g

/-- Reading a text gives a link or says that it is none, unless a fault strays. -/
theorem failsBy_parseText (text : String) :
    FailsBy (fun f => IsRejection f ∨ Strays text f) (parseText text) := by
  unfold parseText
  dsimp only
  split
  · exact failsBy_error (.inl ⟨_, rfl⟩)
  next unmarked =>
  have marked : '#' ∈ text.toList := by simpa using unmarked
  refine FailsBy.bind ⟨fun f failed => ?_⟩ fun a split => ?_
  · obtain ⟨host, fault, announced, defect, rfl⟩ := Web.split_eq_error_iff.mp failed
    exact .inr (.host marked announced defect)
  split
  · exact failsBy_error (.inl ⟨_, rfl⟩)
  next web =>
  obtain ⟨web, filled⟩ := (isWeb_iff a).mp web
  refine FailsBy.bind ⟨fun f failed => ?_⟩ fun id _ => ?_
  · obtain ⟨digits, long, rfl⟩ := objectIdOf_eq_error_iff.mp failed
    exact .inr (.number marked split web filled digits long)
  · split
    · exact failsBy_error (.inl ⟨_, rfl⟩)
    · split
      · exact failsBy_error (.inl ⟨_, rfl⟩)
      · exact failsBy_ok _

/-- A fault that strays is the one that reading ends in. -/
theorem Strays.parseText_eq {text : String} {f : Fault} (strays : Strays text f) :
    parseText text = .error f := by
  unfold parseText
  dsimp only
  cases strays with
  | host marked announced defect =>
    have failed := Web.split_eq_error_iff.mpr ⟨_, _, announced, defect, rfl⟩
    unfold addressOf at failed
    rw [if_neg (by simpa using marked), failed]
    rfl
  | number marked split web filled digits long =>
    have failed := objectIdOf_eq_error_iff.mpr ⟨digits, long, rfl⟩
    unfold addressOf at split
    rw [if_neg (by simpa using marked), split, ok_bind, if_neg ((isWeb_iff _).mpr ⟨web, filled⟩)]
    rw [failed]
    rfl

/-- Reading a text gives a link or says that the text is none exactly if no fault strays; one that
does is a bad value. -/
theorem parse_answers_iff (text : String) :
    (((∃ l, parse (.text text) = .ok l) ∨ ∃ f, IsRejection f ∧ parse (.text text) = .error f) ↔
      ∀ f, ¬ Strays text f) ∧
    ∀ f, Strays text f → parse (.text text) = .error f ∧ f.code = "ValueError" := by
  rw [parse_text]
  refine ⟨⟨?_, fun steady => ?_⟩, fun f strays => ⟨strays.parseText_eq, by cases strays <;> rfl⟩⟩
  · rintro answers f strays
    have failed := strays.parseText_eq
    rcases answers with ⟨l, read⟩ | ⟨g, ⟨cause, rfl⟩, rejected⟩
    · cases failed.symm.trans read
    · cases failed.symm.trans rejected
      cases strays
  · cases read : parseText text with
    | ok l => exact .inl ⟨l, rfl⟩
    | error f =>
      have rejects := ((failsBy_parseText text).reason f read).resolve_right (steady f)
      exact .inr ⟨f, rejects, rfl⟩

/-- The fault of a bracket that is not closed strays. -/
theorem parse_answers_bracket :
    Strays "http://[/1#e30" (.host .brackets) ∧
      parse (.text "http://[/1#e30") = .error (.host .brackets) := by
  have strays : Strays "http://[/1#e30" (.host .brackets) :=
    .host (by decide) (show Web.announced? _ = some ['['] by rfl) (.brackets (by rfl))
  exact ⟨strays, ((parse_answers_iff _).2 _ strays).1⟩

/-- The address of this text is none, and reading does not say that it is no link. -/
theorem not_isRejection_bracket :
    parse (.text "http://[/1#e30") = .error (.host .brackets) ∧
      (Fault.host .brackets).code = "ValueError" ∧
      ¬ ((∃ l, parse (.text "http://[/1#e30") = .ok l) ∨
        ∃ f, IsRejection f ∧ parse (.text "http://[/1#e30") = .error f) := by
  have failed : parse (.text "http://[/1#e30") = .error (.host .brackets) := by rfl
  refine ⟨failed, rfl, ?_⟩
  rintro (⟨l, read⟩ | ⟨f, ⟨cause, rfl⟩, rejected⟩)
  · cases failed.symm.trans read
  · cases failed.symm.trans rejected

end CapabilityLink

end RuleBound
