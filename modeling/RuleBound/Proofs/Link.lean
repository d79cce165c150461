import RuleBound.Link
import RuleBound.Proofs.Document.Numeral
import RuleBound.Proofs.Key
import RuleBound.Proofs.Text.Blank
import RuleBound.Proofs.Text.Utf8
import RuleBound.Proofs.Web.Address

/-!
Capability links. The key of a link comes back from its fragment, and if the origin brings no query
and no fragment of its own, a link that can be read leads to the object that it was written for.
-/

namespace RuleBound

open Web (AreParts EndsIn IsNumeralChar IsPlainChar IsWebScheme IsPath written)

namespace Text

theorem isBlank_addressChar : ∀ n < 64, isBlank (addressChar n) = false := by decide

theorem IsBase64.visible {bytes : Bytes} {cs : List Char} (spells : IsBase64 bytes cs) :
    ∀ c ∈ cs, isBlank c = false := by
  have plain : ∀ n < 64, isBlank (addressPlain (addressChar n)) = false := by decide
  intro c mem
  rcases spells.exists_value mem with rfl | ⟨n, small, rfl | rfl⟩
  · decide
  · exact isBlank_addressChar n small
  · exact plain n small

end Text

namespace CapabilityLink

/-! ## Fragments -/

theorem visible_fragmentOf (key : ContentKey) :
    ∀ c ∈ (fragmentOf key).toList, Text.isBlank c = false := by
  intro c mem
  rw [fragmentOf, Text.toList_toBase64Url] at mem
  obtain ⟨n, within, rfl⟩ := List.mem_map.mp mem
  exact Text.isBlank_addressChar n (Text.sextets_lt _ n within)

/-- Whether a text spells the fragment of a key: in characters of either alphabet, with part of the
padding that is due, and with blanks around it. -/
def IsFragmentOf (key : ContentKey) (fragment : String) : Prop :=
  ∃ before cs behind, fragment.toList = before ++ cs ++ behind ∧
    (∀ c ∈ before, Text.isBlank c = true) ∧ (∀ c ∈ behind, Text.isBlank c = true) ∧
    Text.IsBase64 (Text.utf8 key.exported) cs

theorem isFragmentOf_fragmentOf (key : ContentKey) : IsFragmentOf key (fragmentOf key) :=
  ⟨[], _, [], by rw [List.nil_append, List.append_nil]; rfl, by simp, by simp,
    Text.isBase64_toBase64Url _⟩

/-- The key comes back from any text that spells its fragment. -/
theorem IsFragmentOf.carries {key : ContentKey} {fragment : String}
    (spells : IsFragmentOf key fragment) : keyOfFragment fragment = .ok key := by
  obtain ⟨before, cs, behind, same, blank, blank', within⟩ := spells
  rw [← String.ofList_toList (s := fragment), same]
  unfold keyOfFragment
  rw [Text.strip_surrounded blank within.visible blank', within.read]
  simp only [Text.fromUtf8_utf8, key.importText_exported]

/-- The key comes back from the fragment that carries it. -/
theorem keyOfFragment_fragmentOf (key : ContentKey) : keyOfFragment (fragmentOf key) = .ok key :=
  (isFragmentOf_fragmentOf key).carries

/-- The key comes back from a padded fragment whatever follows the padding. -/
theorem keyOfFragment_padded {key : ContentKey}
    (one : (Text.sextets (Text.utf8 key.exported)).length % 4 = 3) {rest : String}
    (visible : ∀ c ∈ rest.toList, Text.isBlank c = false)
    (plain : (rest.toList.all fun c => c.toNat < 0x80) = true) :
    keyOfFragment (fragmentOf key ++ "=" ++ rest) = .ok key := by
  have pad : String.ofList (Text.padding (Text.sextets (Text.utf8 key.exported)).length) = "=" := by
    rw [Text.padding, one]
    rfl
  have whole : ∀ c ∈ (fragmentOf key ++ "=" ++ rest).toList, Text.isBlank c = false := by
    intro c mem
    simp only [String.toList_append, List.mem_append] at mem
    rcases mem with (mem | mem) | mem
    · exact visible_fragmentOf key c mem
    · rw [List.mem_singleton.mp mem]
      decide
    · exact visible c mem
  have short : (Text.sextets (Text.utf8 key.exported)).length % 4 ≠ 0 := by omega
  have read := Text.fromBase64Url_padded short plain
  rw [pad] at read
  unfold keyOfFragment
  rw [Text.strip_eq_self whole, fragmentOf, read]
  simp only [Text.fromUtf8_utf8, key.importText_exported]

/-! ## Numbers of objects -/

theorem isNumeralChar_toString (id : Int) : ∀ c ∈ (toString id).toList, IsNumeralChar c := by
  intro c mem
  cases id with
  | ofNat n =>
    rw [Document.toList_toString_ofNat] at mem
    exact .inl (Document.isDigit_of_mem_toDigits mem)
  | negSucc n =>
    rw [Document.toList_toString_negSucc, List.mem_cons] at mem
    rcases mem with rfl | mem
    · exact .inr rfl
    · exact .inl (Document.isDigit_of_mem_toDigits mem)

theorem toString_ne_nil (id : Int) : (toString id).toList ≠ [] := by
  cases id with
  | ofNat n =>
    rw [Document.toList_toString_ofNat]
    exact Nat.toDigits_ne_nil
  | negSucc n =>
    rw [Document.toList_toString_negSucc]
    exact List.cons_ne_nil _ _

/-- A segment that is a written number names no other number. -/
theorem eq_of_objectIdOf {id : Int} {n : Nat}
    (read : objectIdOf (toString id).toList = .ok (some n)) : id = n := by
  unfold objectIdOf at read
  split at read
  · cases read
  · next digits =>
    rw [Bool.or_eq_true, not_or, Bool.not_eq_true', Bool.not_eq_false] at digits
    split at read
    · cases read
    · cases id with
      | ofNat k =>
        rw [Document.toList_toString_ofNat] at read
        have value : Text.digitsToNat (Nat.toDigits 10 k) = k := Document.digitsValue_toDigits k
        dsimp only at read
        rw [value] at read
        split at read
        · cases read
        · cases read
          rfl
      | negSucc k =>
        rw [Document.toList_toString_negSucc] at digits
        exact absurd digits.2 (by simp)

/-- The number of an object is read if it is above zero and not too long. -/
theorem objectIdOf_toString {n : Nat} (pos : 0 < n)
    (short : Document.IsShort (.integer n)) :
    objectIdOf (toString (n : Int)).toList = .ok (some n) := by
  have digits : (toString (n : Int)).toList = Nat.toDigits 10 n := Document.toList_toString_ofNat n
  have length : (Nat.toDigits 10 n).length ≤ Document.numeralLimit :=
    (Nat.length_toDigits_le_iff (by decide) (by decide)).mpr short
  have all : (Nat.toDigits 10 n).all Char.isDigit = true :=
    List.all_eq_true.mpr fun _ => Document.isDigit_of_mem_toDigits
  have some : (Nat.toDigits 10 n).isEmpty = false :=
    List.isEmpty_eq_false_iff.mpr Nat.toDigits_ne_nil
  have value : Text.digitsToNat (Nat.toDigits 10 n) = n := Document.digitsValue_toDigits n
  unfold objectIdOf
  simp only [digits, some, all, value, Bool.not_true, Bool.or_self, Bool.false_eq_true, if_false,
    if_neg (Nat.not_lt.mpr (show _ ≤ Text.integerDigitLimit from length)), if_neg (Nat.ne_of_gt pos)]

/-- The number of an object is not read if it is too long. -/
theorem objectIdOf_of_long {n : Nat} (long : 10 ^ Text.integerDigitLimit ≤ n) :
    objectIdOf (toString (n : Int)).toList =
      .error (.numeralTooLong (some (Nat.toDigits 10 n).length)) := by
  have digits : (toString (n : Int)).toList = Nat.toDigits 10 n := Document.toList_toString_ofNat n
  have length : Text.integerDigitLimit < (Nat.toDigits 10 n).length := by
    rw [← Nat.not_le, Nat.length_toDigits_le_iff (by decide) (by decide), Nat.not_lt]
    exact long
  have all : (Nat.toDigits 10 n).all Char.isDigit = true :=
    List.all_eq_true.mpr fun _ => Document.isDigit_of_mem_toDigits
  have some : (Nat.toDigits 10 n).isEmpty = false :=
    List.isEmpty_eq_false_iff.mpr Nat.toDigits_ne_nil
  unfold objectIdOf
  simp only [digits, some, all, Bool.not_true, Bool.or_self, Bool.false_eq_true, if_false,
    if_pos length]

/-- A path that ends in a written number is split in front of it. -/
theorem splitPath_written (front : List Char) (id : Int) :
    splitPath (front ++ '/' :: (toString id).toList) = (front, (toString id).toList) := by
  have numeral := isNumeralChar_toString id
  obtain ⟨first, last, written⟩ := (List.eq_nil_or_concat' _).resolve_left (toString_ne_nil id)
  rw [written] at numeral ⊢
  have slashless : ∀ c ∈ first ++ [last], (c != '/') = true := fun c mem =>
    bne_iff_ne.mpr ((numeral c mem).ne (by decide) (by decide))
  have stays : (last == '/') = false :=
    beq_eq_false_iff_ne.mpr (bne_iff_ne.mp (slashless last (by simp)))
  have whole : front ++ '/' :: (first ++ [last]) = (front ++ '/' :: first) ++ [last] := by simp
  unfold splitPath dropEndSlashes
  rw [whole, Text.dropEndWhile_concat (p := (· == '/')) stays, ← whole]
  dsimp only
  rw [List.reverse_append, List.reverse_cons, List.append_assoc,
    List.takeWhile_append_of_pos fun c mem => slashless c (List.mem_reverse.mp mem)]
  have count : front.length + (first.length + 1 + 1) - (first.length + 1) - 1 = front.length := by
    omega
  simp [count]

/-! ## Reading -/

/-- A text is read as a link exactly if its fragment carries a key and the rest is an address of the
web whose path ends in the number of an object. -/
theorem parseText_eq_ok_iff {text : String} {l : CapabilityLink} :
    parseText text = .ok l ↔ '#' ∈ text.toList ∧ ∃ a n key,
      Web.split (String.ofList (text.toList.takeWhile (· != '#'))) = .ok a ∧
      ¬ ((a.scheme ≠ "http" ∧ a.scheme ≠ "https") ∨ a.host = "") ∧
      objectIdOf (splitPath a.path.toList).2 = .ok (some n) ∧
      keyOfFragment (String.ofList ((text.toList.dropWhile (· != '#')).drop 1)) = .ok key ∧
      l = ⟨a.scheme ++ "://" ++ a.host ++ String.ofList (splitPath a.path.toList).1, .integer n,
        key⟩ := by
  unfold parseText
  dsimp only
  generalize text.toList.takeWhile (· != '#') = base
  generalize (text.toList.dropWhile (· != '#')).drop 1 = fragment
  by_cases marked : '#' ∈ text.toList
  swap
  · have unmarked : text.toList.contains '#' = false := by simpa using marked
    simp only [unmarked, Bool.not_false, if_true, marked, false_and, iff_false]
    intro parsed
    cases parsed
  have there : text.toList.contains '#' = true := by simpa using marked
  simp only [there, Bool.not_true, Bool.false_eq_true, if_false, marked, true_and]
  change (Web.split (String.ofList base) >>= _) = _ ↔ _
  rw [bind_eq_ok_iff]
  refine exists_congr fun a => ?_
  by_cases web : (a.scheme ≠ "http" ∧ a.scheme ≠ "https") ∨ a.host = ""
  · rw [if_pos web]
    constructor
    · rintro ⟨-, read⟩
      cases read
    · rintro ⟨n, key, -, fine, -⟩
      exact absurd web fine
  rw [if_neg web]
  rw [bind_eq_ok_iff]
  constructor
  · rintro ⟨split, id, read, rest⟩
    cases id with
    | none => cases rest
    | some n =>
      dsimp only at rest
      cases carried : keyOfFragment (String.ofList fragment) with
      | error cause =>
        rw [carried] at rest
        cases rest
      | ok key =>
        rw [carried] at rest
        exact ⟨n, key, split, web, read, rfl, (Except.ok.inj rest).symm⟩
  · rintro ⟨n, key, split, -, read, carried, rfl⟩
    refine ⟨split, some n, read, ?_⟩
    dsimp only
    rw [carried]
    rfl

/-- A link as text, with some fragment behind the number sign. -/
def withFragment (l : CapabilityLink) (fragment : String) : String :=
  String.ofList (dropEndSlashes l.origin.toList) ++ "/" ++ l.objectId.shown ++ "#" ++ fragment

theorem build_eq_withFragment (l : CapabilityLink) : l.build = l.withFragment (fragmentOf l.key) :=
  rfl

section Built

variable {l : CapabilityLink} {id : Int} (named : l.objectId = .integer id)
  (unmarked : '#' ∉ l.origin.toList)

include named unmarked

/-- What stands in front of the fragment of a link, and the fragment. -/
theorem parts_withFragment (fragment : String) :
    '#' ∈ (l.withFragment fragment).toList ∧
    (l.withFragment fragment).toList.takeWhile (· != '#') =
      dropEndSlashes l.origin.toList ++ '/' :: (toString id).toList ∧
    ((l.withFragment fragment).toList.dropWhile (· != '#')).drop 1 = fragment.toList := by
  have shown : l.objectId.shown = toString id := by rw [named]; rfl
  have parts : (l.withFragment fragment).toList =
      (dropEndSlashes l.origin.toList ++ '/' :: (toString id).toList) ++ '#' :: fragment.toList := by
    unfold withFragment
    rw [shown]
    simp [String.toList_append]
  have before : ∀ c ∈ dropEndSlashes l.origin.toList ++ '/' :: (toString id).toList,
      (c != '#') = true := by
    intro c mem
    rw [List.mem_append, List.mem_cons] at mem
    rw [bne_iff_ne]
    rcases mem with mem | rfl | mem
    · exact fun same => unmarked (same ▸ Text.mem_of_dropEndWhile mem)
    · decide
    · exact (isNumeralChar_toString id c mem).ne (by decide) (by decide)
  rw [parts, List.takeWhile_append_of_pos before, List.dropWhile_append_of_pos before]
  exact ⟨by simp, by simp, by simp⟩

/-- A link whose origin has no query and no fragment leads, if it can be read, to its object and
carries its key. -/
theorem eq_of_parseText_build (queryless : '?' ∉ l.origin.toList) {l' : CapabilityLink}
    (parsed : parseText l.build = .ok l') : l'.objectId = .integer id ∧ l'.key = l.key := by
  obtain ⟨-, base, fragment⟩ := parts_withFragment named unmarked (fragmentOf l.key)
  rw [build_eq_withFragment] at parsed
  obtain ⟨-, a, n, key, split, -, read, carried, rfl⟩ := parseText_eq_ok_iff.mp parsed
  rw [base] at split
  rw [fragment, String.ofList_toList, keyOfFragment_fragmentOf] at carried
  refine ⟨?_, (Except.ok.inj carried).symm⟩
  have numeral := isNumeralChar_toString id
  have plain : ∀ c ∈ (String.ofList (dropEndSlashes l.origin.toList ++
      '/' :: (toString id).toList)).toList, c ≠ '?' ∧ c ≠ '#' := by
    intro c mem
    rw [String.toList_ofList, List.mem_append, List.mem_cons] at mem
    rcases mem with mem | rfl | mem
    · have within := Text.mem_of_dropEndWhile mem
      exact ⟨fun same => queryless (same ▸ within), fun same => unmarked (same ▸ within)⟩
    · decide
    · exact ⟨(numeral c mem).ne (by decide) (by decide), (numeral c mem).ne (by decide) (by decide)⟩
  rcases Web.endsIn_of_split numeral plain ⟨_, String.toList_ofList⟩ split with none | ends
  · rw [none] at read
    cases read
  · obtain ⟨front, path⟩ := ends
    rw [path, splitPath_written] at read
    rw [eq_of_objectIdOf read]

end Built

/-! ## Origins -/

/-- Whether a text is the origin of links: a scheme of the web, a host and perhaps a path, all of
printable characters that no part of an address ends with. -/
def IsOrigin (origin : String) : Prop :=
  ∃ scheme host path, origin.toList = written scheme host path ∧ IsWebScheme scheme ∧ host ≠ [] ∧
    '/' ∉ host ∧ IsPath path ∧ ∀ c ∈ host ++ path, IsPlainChar c

/-- Whether a text is put together from a scheme of the web, a host and a path as splitting an address
leaves them. -/
def IsParted (origin : String) : Prop :=
  ∃ scheme host path, origin.toList = written scheme host path ∧ IsWebScheme scheme ∧ host ≠ [] ∧
    AreParts host path

theorem IsOrigin.isParted {origin : String} (fine : IsOrigin origin) : IsParted origin := by
  obtain ⟨scheme, host, path, same, web, filled, slashless, begins, plain⟩ := fine
  exact ⟨scheme, host, path, same, web, filled, Web.areParts_of_plain slashless begins plain⟩

theorem IsParted.unmarked {origin : String} (fine : IsParted origin) : '#' ∉ origin.toList := by
  obtain ⟨scheme, host, path, same, web, -, parts⟩ := fine
  rw [same, written]
  intro mem
  simp only [List.mem_append, List.mem_cons] at mem
  rcases mem with mem | mem | mem | mem | mem | mem
  · rcases web with rfl | rfl <;> exact absurd mem (by decide)
  · exact absurd mem (by decide)
  · exact absurd mem (by decide)
  · exact absurd mem (by decide)
  · exact absurd (parts.within _ mem) (by decide)
  · exact (parts.before _ mem).2 rfl

/-- A path without slashes at its end is a path. -/
theorem dropEndSlashes_written {scheme host path : List Char} (filled : host ≠ [])
    (slashless : '/' ∉ host) (begins : IsPath path) :
    ∃ path', dropEndSlashes (written scheme host path) = written scheme host path' ∧ IsPath path' ∧
      ∀ c ∈ path', c ∈ path := by
  have trimmed : dropEndSlashes (written scheme host path) =
      written scheme host (dropEndSlashes path) := by
    obtain ⟨first, last, rfl⟩ := (List.eq_nil_or_concat' host).resolve_left filled
    have stays : (last == '/') = false :=
      beq_eq_false_iff_ne.mpr fun same => slashless (same ▸ by simp)
    have whole : ∀ p, written scheme (first ++ [last]) p =
        ((scheme ++ ':' :: '/' :: '/' :: first) ++ [last]) ++ p := by simp [written]
    rw [whole, whole]
    unfold dropEndSlashes Text.dropEndWhile
    rw [List.reverse_append, List.dropWhile_append]
    split
    · next none =>
      rw [List.isEmpty_iff.mp none, List.reverse_nil, List.append_nil]
      exact Text.dropEndWhile_concat (p := (· == '/')) stays _
    · rw [List.reverse_append, List.reverse_reverse]
  refine ⟨dropEndSlashes path, trimmed, ?_, fun c => Text.mem_of_dropEndWhile⟩
  rcases begins with rfl | ⟨more, rfl⟩
  · exact .inl rfl
  · unfold dropEndSlashes Text.dropEndWhile
    rw [List.reverse_cons, List.dropWhile_append]
    split
    · exact .inl rfl
    · exact .inr ⟨_, by rw [List.reverse_append]; rfl⟩

section Parted

variable {l : CapabilityLink} {n : Nat} (fine : IsParted l.origin) (named : l.objectId = .integer n)

include fine named

/-- The address in front of the fragment is split into the origin without slashes at its end and the
number of the object. -/
theorem split_withFragment (fragment : String) :
    ∃ a front, Web.split (String.ofList
        ((l.withFragment fragment).toList.takeWhile (· != '#'))) = .ok a ∧
      ¬ ((a.scheme ≠ "http" ∧ a.scheme ≠ "https") ∨ a.host = "") ∧
      splitPath a.path.toList = (front, (toString (n : Int)).toList) ∧
      a.scheme ++ "://" ++ a.host ++ String.ofList front =
        String.ofList (dropEndSlashes l.origin.toList) := by
  obtain ⟨-, base, -⟩ := parts_withFragment named fine.unmarked fragment
  obtain ⟨scheme, host, path, same, web, filled, parts⟩ := fine
  have slashless : '/' ∉ host := fun mem => absurd (parts.within _ mem) (by decide)
  obtain ⟨path', trimmed, begins, within⟩ := dropEndSlashes_written filled slashless parts.begins
  have numeral := isNumeralChar_toString n
  have behind : AreParts host (path' ++ '/' :: (toString (n : Int)).toList) := by
    refine (parts.withPath begins within).append ?_ fun c mem => ?_
    · exact .inr ⟨_, rfl⟩
    · rcases List.mem_cons.mp mem with rfl | mem
      · unfold IsPlainChar
        decide
      · exact (numeral c mem).isPlainChar
  have whole : dropEndSlashes l.origin.toList ++ '/' :: (toString (n : Int)).toList =
      written scheme host (path' ++ '/' :: (toString (n : Int)).toList) := by
    rw [same, trimmed]
    simp [written]
  have split := behind.split_written web
  rw [← whole, ← base] at split
  refine ⟨_, path', split, ?_, ?_, ?_⟩
  · rintro (⟨plain, secure⟩ | none)
    · rcases web with rfl | rfl
      · exact plain String.ofList_toList
      · exact secure String.ofList_toList
    · exact filled (by simpa using congrArg String.toList none)
  · rw [String.toList_ofList, splitPath_written]
  · rw [same, trimmed, ← String.toList_inj]
    simp [written]

/-- A link from such an origin to an object with a number above zero that is not too long is read as
the link to that object from the origin without slashes at its end, with the key that the
fragment carries. -/
theorem IsParted.parseText_withFragment (pos : 0 < n) (short : Document.IsShort (.integer n))
    {fragment : String} {key : ContentKey} (carries : keyOfFragment fragment = .ok key) :
    parseText (l.withFragment fragment) =
      .ok ⟨String.ofList (dropEndSlashes l.origin.toList), .integer n, key⟩ := by
  obtain ⟨marked, -, behind⟩ := parts_withFragment named fine.unmarked fragment
  obtain ⟨a, front, split, web, path, origin⟩ := split_withFragment fine named fragment
  refine parseText_eq_ok_iff.mpr ⟨marked, a, n, key, split, web, ?_, ?_, ?_⟩
  · rw [path]
    exact objectIdOf_toString pos short
  · rw [behind, String.ofList_toList, carries]
  · rw [path, origin]

end Parted

section Spelled

variable {l : CapabilityLink} {n : Nat} (fine : IsOrigin l.origin) (named : l.objectId = .integer n)

include fine named

theorem parseText_withFragment (pos : 0 < n) (short : Document.IsShort (.integer n))
    {fragment : String} {key : ContentKey} (carries : keyOfFragment fragment = .ok key) :
    parseText (l.withFragment fragment) =
      .ok ⟨String.ofList (dropEndSlashes l.origin.toList), .integer n, key⟩ :=
  fine.isParted.parseText_withFragment named pos short carries

/-- A link to an object whose number is too long is not read. -/
theorem parseText_of_long (long : 10 ^ Text.integerDigitLimit ≤ n) (fragment : String) :
    parseText (l.withFragment fragment) =
      .error (.numeralTooLong (some (Nat.toDigits 10 n).length)) := by
  obtain ⟨marked, -, -⟩ := parts_withFragment named fine.isParted.unmarked fragment
  obtain ⟨a, front, split, web, path, -⟩ := split_withFragment fine.isParted named fragment
  have there : (l.withFragment fragment).toList.contains '#' = true := by simpa using marked
  unfold parseText
  simp only [there, Bool.not_true, Bool.false_eq_true, if_false, split]
  rw [ok_bind, if_neg web, path]
  dsimp only
  rw [objectIdOf_of_long long, error_bind]

end Spelled

/-- A link from such an origin to an object with a number above zero is read as a link to that
object that carries the same key. -/
theorem exists_of_parseText_build {l : CapabilityLink} {n : Nat} (named : l.objectId = .integer n)
    (pos : 0 < n) (short : Document.IsShort (.integer n)) (fine : IsOrigin l.origin) :
    ∃ origin, parseText l.build = .ok ⟨origin, .integer n, l.key⟩ :=
  ⟨_, parseText_withFragment fine named pos short (keyOfFragment_fragmentOf l.key)⟩

theorem parse_text (text : String) : parse (.text text) = parseText text := rfl

/-- A link from its origin without slashes at the end. -/
def trimmed (l : CapabilityLink) : CapabilityLink :=
  { l with origin := String.ofList (dropEndSlashes l.origin.toList) }

/-- A link from an origin of the web is read as the same link from the origin without slashes at its
end: as it was built, and however else its fragment is spelled. The one exception are numbers with
more digits than can be read, which are bad values. -/
theorem parseText_spelled {l : CapabilityLink} {n : Nat} {fragment : String}
    (fine : IsOrigin l.origin) (named : l.objectId = .integer n) (pos : 0 < n)
    (spells : IsFragmentOf l.key fragment) :
    (n < 10 ^ Text.integerDigitLimit →
      parse (.text l.build) = .ok l.trimmed ∧
        parse (.text (l.withFragment fragment)) = .ok l.trimmed) ∧
    (10 ^ Text.integerDigitLimit ≤ n →
      ∃ fault, fault.isValueFault = true ∧ parse (.text l.build) = .error fault ∧
        parse (.text (l.withFragment fragment)) = .error fault) := by
  have same : l.trimmed = ⟨String.ofList (dropEndSlashes l.origin.toList), .integer n, l.key⟩ := by
    rw [trimmed, named]
  simp only [parse_text, build_eq_withFragment, same]
  have limit : Document.numeralLimit = Text.integerDigitLimit := rfl
  have isShort_iff : Document.IsShort (.integer n) ↔ n < 10 ^ Text.integerDigitLimit := by
    rw [Document.IsShort, Int.natAbs_natCast, limit]
  rw [← isShort_iff]
  refine ⟨fun short => ⟨?_, ?_⟩,
    fun long => ⟨.numeralTooLong (some (Nat.toDigits 10 n).length), rfl, ?_, ?_⟩⟩
  · exact parseText_withFragment fine named pos short (keyOfFragment_fragmentOf l.key)
  · exact parseText_withFragment fine named pos short spells.carries
  · exact parseText_of_long fine named long (fragmentOf l.key)
  · exact parseText_of_long fine named long fragment

/-- A key whose bytes are all the same. -/
def evenKey : ContentKey := ⟨List.replicate 32 0xab, List.length_replicate⟩

/-- A link whose fragment is written in the plain alphabet, padded, between blanks. -/
theorem parseText_spelled_padded :
    let l : CapabilityLink := ⟨"https://h:8/a//", .integer 7, evenKey⟩
    let plain := (fragmentOf evenKey).toList.map Text.addressPlain
    let fragment := String.ofList (['\t', ' '] ++ (plain ++ ['=']) ++ ['\n'])
    IsOrigin l.origin ∧ 0 < 7 ∧ IsFragmentOf evenKey fragment ∧ 7 < 10 ^ Text.integerDigitLimit ∧
      parse (.text (l.withFragment fragment)) = .ok ⟨"https://h:8/a", .integer 7, evenKey⟩ := by
  intro l plain fragment
  have fine : IsOrigin l.origin :=
    ⟨"https".toList, ['h', ':', '8'], ['/', 'a', '/', '/'], by decide, .inr rfl, by decide,
      by decide, .inr ⟨_, rfl⟩, by simp [IsPlainChar]⟩
  have due : 1 ≤ (Text.padding (Text.sextets (Text.utf8 evenKey.exported)).length).length := by
    rw [ContentKey.exported_eq]
    decide +kernel
  have spelled : List.Forall₂ Text.IsSpelling plain (fragmentOf evenKey).toList :=
    List.forall₂_map_left_iff.mpr (List.forall₂_same.mpr fun c _ => .inr rfl)
  have spells : IsFragmentOf evenKey fragment :=
    ⟨['\t', ' '], plain ++ ['='], ['\n'], String.toList_ofList, by simp [Text.isBlank],
      by simp [Text.isBlank], plain, 1, rfl, spelled, due⟩
  have small : 7 < 10 ^ Text.integerDigitLimit :=
    Nat.lt_of_lt_of_le (by decide) (Nat.le_self_pow (by decide) 10)
  have pos : 0 < 7 := by decide
  have origin : String.ofList (dropEndSlashes "https://h:8/a//".toList) = "https://h:8/a" := by decide
  have read := ((parseText_spelled fine rfl pos spells).1 small).2
  rw [trimmed, origin] at read
  exact ⟨fine, pos, spells, small, read⟩

/-- A link to an object whose number has one digit too many is not read. -/
theorem not_parseText_of_long :
    let n : Nat := 10 ^ Text.integerDigitLimit
    let l : CapabilityLink := ⟨"http://h", .integer n, evenKey⟩
    IsOrigin l.origin ∧ 1 ≤ n ∧
      parse (.text l.build) = .error (.numeralTooLong (some (Nat.toDigits 10 n).length)) ∧
      ¬ ∃ l', parse (.text l.build) = .ok l' := by
  intro n l
  have fine : IsOrigin l.origin :=
    ⟨"http".toList, ['h'], [], by decide, .inl rfl, by decide, by decide, .inl rfl,
      by simp [IsPlainChar]⟩
  have fails := parseText_of_long fine rfl (Nat.le_refl n) (fragmentOf evenKey)
  rw [← parse_text] at fails
  refine ⟨fine, Nat.one_le_pow _ _ (by decide), fails, ?_⟩
  rintro ⟨l', read⟩
  cases fails.symm.trans read

end CapabilityLink

end RuleBound
