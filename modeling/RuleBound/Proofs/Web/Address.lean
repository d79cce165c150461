import Mathlib.Data.List.TakeWhile
import RuleBound.Web.Address
import RuleBound.Proofs.Sequencing

/-!
The last segment of an address. Whatever stands in front of it, splitting an address without query
and fragment leaves its last segment at the end of the path, unless it leaves no path at all. An
address of printable characters is split into the parts that it was written from.
-/

namespace RuleBound.Web

/-- Whether characters end in a slash and a segment. -/
def EndsIn (segment cs : List Char) : Prop := ∃ front, cs = front ++ '/' :: segment

namespace EndsIn

variable {segment cs : List Char}

theorem dropWhile (ends : EndsIn segment cs) {p : Char → Bool} (slash : p '/' = false) :
    EndsIn segment (cs.dropWhile p) := by
  obtain ⟨front, rfl⟩ := ends
  rw [List.dropWhile_append]
  split
  · exact ⟨[], by rw [List.dropWhile_cons_of_neg (by simp [slash])]; rfl⟩
  · exact ⟨_, rfl⟩

theorem filter (ends : EndsIn segment cs) {p : Char → Bool} (slash : p '/' = true)
    (all : ∀ c ∈ segment, p c = true) : EndsIn segment (cs.filter p) := by
  obtain ⟨front, rfl⟩ := ends
  rw [List.filter_append, List.filter_cons_of_pos slash, List.filter_eq_self.mpr all]
  exact ⟨_, rfl⟩

end EndsIn

/-- Whether a character can stand in a written whole number. -/
def IsNumeralChar (c : Char) : Prop := c.isDigit = true ∨ c = '-'

theorem IsNumeralChar.ne {c d : Char} (numeral : IsNumeralChar c)
    (other : d.isDigit = false) (sign : d ≠ '-') : c ≠ d := by
  rintro rfl
  rcases numeral with digit | rfl
  · rw [other] at digit
    cases digit
  · exact sign rfl

/-- The parts of an address are among its characters. -/
theorem mem_of_splitScheme {cs : List Char} {c : Char} (mem : c ∈ (splitScheme cs).2) : c ∈ cs := by
  unfold splitScheme at mem
  extract_lets before at mem
  split at mem
  · next rest _ behind =>
    split at mem
    · have within : c ∈ cs.dropWhile (· != ':') := behind ▸ List.mem_cons_of_mem _ mem
      exact (List.dropWhile_suffix _).subset within
    · exact mem
  · exact mem

theorem endsIn_splitScheme {segment cs : List Char} (numeral : ∀ c ∈ segment, IsNumeralChar c)
    (ends : EndsIn segment cs) : EndsIn segment (splitScheme cs).2 := by
  unfold splitScheme
  extract_lets before
  split
  · next c tail rest _ behind =>
    split
    · obtain ⟨front, rfl⟩ := ends
      have none : ('/' :: segment).dropWhile (· != ':') = [] := by
        refine List.dropWhile_eq_nil_iff.mpr (List.forall_mem_cons.mpr ⟨rfl, fun c mem => ?_⟩)
        exact bne_iff_ne.mpr ((numeral c mem).ne (by decide) (by decide))
      rw [List.dropWhile_append, none] at behind
      split at behind
      · cases behind
      · cases front' : front.dropWhile (· != ':') with
        | nil =>
          rw [front'] at behind
          exact absurd (List.cons.inj behind).1 (by decide)
        | cons d more =>
          rw [front'] at behind
          exact ⟨more, (List.cons.inj behind).2.symm⟩
    · exact ends
  · exact ends

/-- Behind the host of an address stands a path that ends in its last segment, or nothing. -/
theorem endsIn_splitHost {segment cs host rest : List Char}
    (numeral : ∀ c ∈ segment, IsNumeralChar c) (ends : EndsIn segment cs)
    (answer : splitHost cs = .ok (host, rest)) : rest = [] ∨ EndsIn segment rest := by
  unfold splitHost at answer
  split at answer
  · next behind =>
    extract_lets found at answer
    split at answer
    · cases answer
    · obtain ⟨-, rfl⟩ := Prod.mk.inj (Except.ok.inj answer)
      have plain : ∀ c ∈ segment, endsHost c = false := fun c mem => by
        have digit := numeral c mem
        have slash := digit.ne (d := '/') (by decide) (by decide)
        have query := digit.ne (d := '?') (by decide) (by decide)
        have fragment := digit.ne (d := '#') (by decide) (by decide)
        simp [endsHost, slash, query, fragment]
      obtain ⟨front, written⟩ := ends
      rcases front with _ | ⟨c, _ | ⟨d, front⟩⟩
      · rw [List.nil_append, List.cons.injEq] at written
        have slash : IsNumeralChar '/' := numeral '/' (written.2 ▸ List.mem_cons_self)
        exact absurd rfl (slash.ne (d := '/') (by decide) (by decide))
      · rw [List.cons_append, List.nil_append, List.cons.injEq, List.cons.injEq] at written
        obtain ⟨-, -, rfl⟩ := written
        exact .inl (List.dropWhile_eq_nil_iff.mpr fun c mem => by rw [plain c mem]; rfl)
      · rw [List.cons_append, List.cons_append, List.cons.injEq, List.cons.injEq] at written
        obtain ⟨-, -, rfl⟩ := written
        exact .inr (EndsIn.dropWhile ⟨front, rfl⟩ (by decide))
  · cases answer
    exact .inr ends

theorem mem_of_splitHost {cs host rest : List Char} (answer : splitHost cs = .ok (host, rest))
    {c : Char} (mem : c ∈ rest) : c ∈ cs := by
  unfold splitHost at answer
  split at answer
  · extract_lets found at answer
    split at answer
    · cases answer
    · obtain ⟨-, rfl⟩ := Prod.mk.inj (Except.ok.inj answer)
      exact List.mem_cons_of_mem _ (List.mem_cons_of_mem _ ((List.dropWhile_suffix _).subset mem))
  · cases answer
    exact mem

/-- The path of an address without query and fragment ends in the last segment of the address, if
that is a numeral and there is a path. -/
theorem endsIn_of_split {text : String} {segment : List Char} {a : Address}
    (numeral : ∀ c ∈ segment, IsNumeralChar c)
    (plain : ∀ c ∈ text.toList, c ≠ '?' ∧ c ≠ '#')
    (ends : EndsIn segment text.toList) (answer : split text = .ok a) :
    a.path = "" ∨ EndsIn segment a.path.toList := by
  unfold split at answer
  extract_lets visible filtered at answer
  have kept : EndsIn segment filtered := by
    refine (ends.dropWhile (by decide)).filter (by decide) fun c mem => ?_
    have digit := numeral c mem
    have tab := digit.ne (d := '\t') (by decide) (by decide)
    have back := digit.ne (d := '\r') (by decide) (by decide)
    have line := digit.ne (d := '\n') (by decide) (by decide)
    simp [tab, back, line]
  have plain' : ∀ c ∈ filtered, c ≠ '?' ∧ c ≠ '#' := fun c mem =>
    plain c ((List.dropWhile_suffix _).subset (List.mem_filter.mp mem).1)
  clear_value filtered
  obtain ⟨⟨host, rest⟩, split, answer⟩ := bind_eq_ok_iff.mp answer
  dsimp only at answer
  split at answer
  · cases answer
  cases answer
  have all : ∀ c ∈ rest, (c != '?' && c != '#') = true := fun c mem => by
    obtain ⟨query, fragment⟩ := plain' c (mem_of_splitScheme (mem_of_splitHost split mem))
    simp [query, fragment]
  rw [List.takeWhile_eq_self_iff.mpr all, String.toList_ofList]
  rcases endsIn_splitHost numeral (endsIn_splitScheme numeral kept) split with rfl | ends
  · exact .inl rfl
  · exact .inr ends

/-! ## Addresses of the web -/

/-- Whether characters are a scheme of the web. -/
def IsWebScheme (scheme : List Char) : Prop := scheme = "http".toList ∨ scheme = "https".toList

/-- Whether characters are a path: nothing, or what a slash begins. -/
def IsPath (path : List Char) : Prop := path = [] ∨ ∃ more, path = '/' :: more

theorem IsPath.of_prefix {front path : List Char} (begins : IsPath path) (before : front <+: path) :
    IsPath front := by
  obtain ⟨rest, rfl⟩ := before
  cases front with
  | nil => exact .inl rfl
  | cons c front =>
    rcases begins with none | ⟨more, same⟩
    · cases none
    · exact .inr ⟨front, by rw [(List.cons.inj same).1]⟩

/-- An address of the web, as it is written. -/
def written (scheme host path : List Char) : List Char := scheme ++ ':' :: '/' :: '/' :: (host ++ path)

theorem splitScheme_web {scheme : List Char} (web : IsWebScheme scheme) (rest : List Char) :
    splitScheme (scheme ++ ':' :: rest) = (scheme, rest) := by
  rcases web with rfl | rfl <;> rfl

/-- Characters without the tabs and line ends that splitting an address drops. -/
def visible (cs : List Char) : List Char := cs.filter fun c => c != '\t' && c != '\r' && c != '\n'

/-- The host at the start of what follows two slashes. -/
def hostOf (cs : List Char) : List Char := (visible cs).takeWhile fun c => !endsHost c

/-- The path behind the host. -/
def pathOf (cs : List Char) : List Char :=
  ((visible cs).dropWhile fun c => !endsHost c).takeWhile fun c => c != '?' && c != '#'

/-- Whether characters can be the host of an address: their brackets are in order and none of them
stands for a delimiter. -/
def IsHost (host : List Char) : Prop :=
  hostFault? host = none ∧ (host.any fun c => delimiterLike.contains c.toNat) = false

section Stop

variable {p : Char → Bool} {stop : Char} (stops : p stop = false) (cs more : List Char)

include stops

theorem takeWhile_stop : (cs ++ stop :: more).takeWhile p = cs.takeWhile p := by
  induction cs with
  | nil => rw [List.nil_append, List.takeWhile_cons_of_neg (by simp [stops]), List.takeWhile_nil]
  | cons c cs ih => rw [List.cons_append, List.takeWhile_cons, List.takeWhile_cons, ih]

theorem dropWhile_stop : (cs ++ stop :: more).dropWhile p = cs.dropWhile p ++ stop :: more := by
  induction cs with
  | nil => exact List.dropWhile_cons_of_neg (by simp [stops])
  | cons c cs ih =>
    rw [List.cons_append, List.dropWhile_cons, List.dropWhile_cons, ih]
    split <;> rfl

end Stop

theorem visible_append (cs more : List Char) : visible (cs ++ more) = visible cs ++ visible more :=
  List.filter_append ..

theorem visible_cons {c : Char} (ends : endsHost c = true) (more : List Char) :
    visible (c :: more) = c :: visible more := by
  refine List.filter_cons_of_pos ?_
  simp only [endsHost, Bool.or_eq_true, beq_iff_eq] at ends
  rcases ends with (rfl | rfl) | rfl <;> rfl

/-- What stands behind the end of the host does not change it. -/
theorem hostOf_append {stop : Char} (ends : endsHost stop = true) (cs more : List Char) :
    hostOf (cs ++ stop :: more) = hostOf cs := by
  unfold hostOf
  rw [visible_append, visible_cons ends, takeWhile_stop (by simp [ends])]

/-- Slashes at the end do not change the host. -/
theorem hostOf_slashes {slashes : List Char} (all : ∀ c ∈ slashes, c = '/') (cs : List Char) :
    hostOf (cs ++ slashes) = hostOf cs := by
  cases slashes with
  | nil => rw [List.append_nil]
  | cons c more =>
    obtain rfl := all c List.mem_cons_self
    exact hostOf_append (by rfl) cs more

theorem pathOf_query (cs more : List Char) : pathOf (cs ++ '?' :: more) = pathOf cs := by
  unfold pathOf
  rw [visible_append, visible_cons (by rfl), dropWhile_stop (by rfl), takeWhile_stop (by rfl)]

/-- A last segment without query and fragment ends the path. -/
theorem pathOf_append {cs segment : List Char} (plain : ∀ c ∈ cs, c ≠ '?' ∧ c ≠ '#')
    (numeral : ∀ c ∈ segment, IsNumeralChar c) :
    ∃ front, pathOf (cs ++ '/' :: segment) = front ++ '/' :: segment := by
  have shown : visible segment = segment := by
    refine List.filter_eq_self.mpr fun c mem => ?_
    have tab := (numeral c mem).ne (d := '\t') (by decide) (by decide)
    have back := (numeral c mem).ne (d := '\r') (by decide) (by decide)
    have line := (numeral c mem).ne (d := '\n') (by decide) (by decide)
    simp [tab, back, line]
  refine ⟨(visible cs).dropWhile fun c => !endsHost c, ?_⟩
  unfold pathOf
  rw [visible_append, visible_cons (by rfl), shown, dropWhile_stop (by rfl)]
  refine List.takeWhile_eq_self_iff.mpr fun c mem => ?_
  have unmarked : c ≠ '?' ∧ c ≠ '#' := by
    rw [List.mem_append, List.mem_cons] at mem
    rcases mem with mem | rfl | mem
    · exact plain c (List.mem_filter.mp ((List.dropWhile_suffix _).subset mem)).1
    · decide
    · exact ⟨(numeral c mem).ne (by decide) (by decide), (numeral c mem).ne (by decide) (by decide)⟩
  simp [unmarked]

theorem splitHost_slashes_iff {cs : List Char} {parts : List Char × List Char} :
    splitHost ('/' :: '/' :: cs) = .ok parts ↔
      hostFault? (cs.takeWhile fun c => !endsHost c) = none ∧
        parts = (cs.takeWhile fun c => !endsHost c, cs.dropWhile fun c => !endsHost c) := by
  unfold splitHost
  dsimp only
  cases found : hostFault? (cs.takeWhile fun c => !endsHost c) with
  | some fault => simp [found]
  | none => simp [found, eq_comm]

theorem splitHost_slashes_error_iff {cs : List Char} {f : Fault} :
    splitHost ('/' :: '/' :: cs) = .error f ↔
      ∃ fault, hostFault? (cs.takeWhile fun c => !endsHost c) = some fault ∧ f = .host fault := by
  unfold splitHost
  dsimp only
  cases found : hostFault? (cs.takeWhile fun c => !endsHost c) with
  | some fault => simp [found, eq_comm]
  | none => simp [found]

theorem splitHost_of_not_slashes {cs : List Char} (apart : ∀ rest, cs ≠ '/' :: '/' :: rest) :
    splitHost cs = .ok ([], cs) := by
  unfold splitHost
  split
  · next rest => exact absurd rfl (apart rest)
  · rfl

section Scheme

variable {scheme : List Char} (web : IsWebScheme scheme)

include web

/-- An address of the web before its scheme is split off. -/
theorem visible_web (rest : List Char) :
    (((scheme ++ ':' :: rest).dropWhile fun c => c.toNat ≤ 0x20).filter
      fun c => c != '\t' && c != '\r' && c != '\n') = scheme ++ ':' :: visible rest := by
  rcases web with rfl | rfl <;> rfl

/-- An address of the web can be split exactly if what stands behind its slashes begins with a
host. -/
theorem split_web_iff {cs : List Char} {a : Address} :
    split (String.ofList (scheme ++ ':' :: '/' :: '/' :: cs)) = .ok a ↔
      IsHost (hostOf cs) ∧
        a = ⟨String.ofList scheme, String.ofList (hostOf cs), String.ofList (pathOf cs)⟩ := by
  have slashes : visible ('/' :: '/' :: cs) = '/' :: '/' :: visible cs := by
    rw [visible_cons (by rfl), visible_cons (by rfl)]
  unfold split
  rw [String.toList_ofList]
  simp only [visible_web web, slashes, splitScheme_web web, bind_eq_ok_iff, splitHost_slashes_iff]
  constructor
  · rintro ⟨parts, ⟨fault, rfl⟩, answer⟩
    dsimp only at answer
    split at answer
    · cases answer
    · next ascii =>
      cases answer
      exact ⟨⟨fault, Bool.not_eq_true _ ▸ ascii⟩, rfl⟩
  · rintro ⟨⟨fault, ascii⟩, rfl⟩
    refine ⟨_, ⟨fault, rfl⟩, ?_⟩
    change (if ((hostOf cs).any fun c => delimiterLike.contains c.toNat) = true then _ else _) = _
    rw [ascii, if_neg Bool.false_ne_true]
    rfl

/-- An address without a second slash has no host. -/
theorem host_of_split_slash {cs : List Char} {a : Address} (one : ∀ c ∈ cs, c ≠ '/')
    (answer : split (String.ofList (scheme ++ ':' :: '/' :: cs)) = .ok a) : a.host = "" := by
  have single : splitHost ('/' :: visible cs) = .ok ([], '/' :: visible cs) := by
    cases same : visible cs with
    | nil => rfl
    | cons c more =>
      have mem : c ∈ visible cs := same ▸ List.mem_cons_self
      have other := one c (List.mem_filter.mp mem).1
      unfold splitHost
      split
      · next twice => exact absurd (List.cons.inj (List.cons.inj twice).2).1 other
      · rfl
  unfold split at answer
  rw [String.toList_ofList] at answer
  simp only [visible_web web, visible_cons (c := '/') (by rfl), splitScheme_web web, single,
    ok_bind] at answer
  cases answer
  rfl

end Scheme

/-! ## Printable characters -/

/-- Whether a character is printable and neither ends an address's path nor brackets its host. -/
def IsPlainChar (c : Char) : Prop :=
  0x21 ≤ c.toNat ∧ c.toNat ≤ 0x7e ∧ c ≠ '#' ∧ c ≠ '?' ∧ c ≠ '[' ∧ c ≠ ']'

/-- Written whole numbers are of plain characters. -/
theorem IsNumeralChar.isPlainChar {c : Char} (numeral : IsNumeralChar c) : IsPlainChar c := by
  have apart : ∀ d : Char, d.isDigit = false → d ≠ '-' → c ≠ d := fun d => numeral.ne
  have printable : 0x21 ≤ c.toNat ∧ c.toNat ≤ 0x7e := by
    rcases numeral with digit | rfl
    · have range := Char.isDigit_iff_toNat.mp digit
      exact ⟨Nat.le_trans (by decide) range.1, Nat.le_trans range.2 (by decide)⟩
    · decide
  exact ⟨printable.1, printable.2, apart '#' (by decide) (by decide),
    apart '?' (by decide) (by decide), apart '[' (by decide) (by decide),
    apart ']' (by decide) (by decide)⟩

theorem IsPlainChar.kept {c : Char} (plain : IsPlainChar c) : c ≠ '\t' ∧ c ≠ '\r' ∧ c ≠ '\n' := by
  have large := plain.1
  refine ⟨?_, ?_, ?_⟩ <;> (rintro rfl; exact absurd large (by decide))

/-! ## Parts -/

/-- Whether a host and a path are what splitting an address can leave: the host is one, the path
begins where it ends and ends before the query and the fragment, and no character is one that is
dropped. -/
structure AreParts (host path : List Char) : Prop where
  fine : IsHost host
  within : ∀ c ∈ host, endsHost c = false
  begins : IsPath path
  before : ∀ c ∈ path, c ≠ '?' ∧ c ≠ '#'
  kept : ∀ c ∈ host ++ path, c ≠ '\t' ∧ c ≠ '\r' ∧ c ≠ '\n'

theorem visible_eq_self {cs : List Char} (kept : ∀ c ∈ cs, c ≠ '\t' ∧ c ≠ '\r' ∧ c ≠ '\n') :
    visible cs = cs :=
  List.filter_eq_self.mpr fun c mem => by simp [kept c mem]

namespace AreParts

variable {host path : List Char} (parts : AreParts host path)

include parts

theorem hostOf_eq : hostOf (host ++ path) = host := by
  have whole : (host.takeWhile fun c => !endsHost c) = host :=
    List.takeWhile_eq_self_iff.mpr fun c mem => by simp [parts.within c mem]
  unfold hostOf
  rw [visible_eq_self parts.kept]
  rcases parts.begins with rfl | ⟨more, rfl⟩
  · rw [List.append_nil, whole]
  · rw [takeWhile_stop (by rfl), whole]

theorem pathOf_eq : pathOf (host ++ path) = path := by
  have none : (host.dropWhile fun c => !endsHost c) = [] :=
    List.dropWhile_eq_nil_iff.mpr fun c mem => by simp [parts.within c mem]
  have whole : (path.takeWhile fun c => c != '?' && c != '#') = path :=
    List.takeWhile_eq_self_iff.mpr fun c mem => by simp [parts.before c mem]
  unfold pathOf
  rw [visible_eq_self parts.kept]
  rcases parts.begins with rfl | ⟨more, rfl⟩
  · rw [List.append_nil, none, List.takeWhile_nil]
  · rw [dropWhile_stop (by rfl), none, List.nil_append, whole]

/-- Whatever replaces the path by a path of the same characters leaves parts. -/
theorem withPath {path' : List Char} (begins : IsPath path') (among : ∀ c ∈ path', c ∈ path) :
    AreParts host path' where
  fine := parts.fine
  within := parts.within
  begins := begins
  before c mem := parts.before c (among c mem)
  kept c mem := parts.kept c <| by
    rw [List.mem_append] at mem ⊢
    exact mem.imp_right (among c)

/-- Plain characters behind the path leave parts. -/
theorem append {more : List Char} (begins : IsPath more) (plain : ∀ c ∈ more, IsPlainChar c) :
    AreParts host (path ++ more) where
  fine := parts.fine
  within := parts.within
  begins := by
    rcases parts.begins with rfl | ⟨front, rfl⟩
    · exact begins
    · exact .inr ⟨front ++ more, rfl⟩
  before c mem := by
    rcases List.mem_append.mp mem with mem | mem
    · exact parts.before c mem
    · obtain ⟨-, -, fragment, query, -⟩ := plain c mem
      exact ⟨query, fragment⟩
  kept c mem := by
    rw [← List.append_assoc, List.mem_append] at mem
    rcases mem with mem | mem
    · exact parts.kept c mem
    · exact (plain c mem).kept

/-- An address of the web is split into the parts that it was written from. -/
theorem split_written {scheme : List Char} (web : IsWebScheme scheme) :
    split (String.ofList (written scheme host path)) =
      .ok ⟨String.ofList scheme, String.ofList host, String.ofList path⟩ := by
  have fine : IsHost (hostOf (host ++ path)) := by
    rw [parts.hostOf_eq]
    exact parts.fine
  have split := (split_web_iff web).mpr ⟨fine, rfl⟩
  rwa [parts.hostOf_eq, parts.pathOf_eq] at split

end AreParts

/-- What splitting an address leaves are parts, if there is a host among them. -/
theorem areParts_of_split {text : String} {a : Address} (answer : split text = .ok a)
    (filled : a.host ≠ "") : AreParts a.host.toList a.path.toList := by
  unfold split at answer
  extract_lets start filtered at answer
  have kept : ∀ c ∈ (splitScheme filtered).2, c ≠ '\t' ∧ c ≠ '\r' ∧ c ≠ '\n' := by
    intro c mem
    have shown := (List.mem_filter.mp (mem_of_splitScheme mem)).2
    simpa [and_assoc] using shown
  generalize splitScheme filtered = front at kept answer
  obtain ⟨scheme, cs⟩ := front
  dsimp only at kept
  obtain ⟨⟨host, rest⟩, parted, answer⟩ := bind_eq_ok_iff.mp answer
  dsimp only at answer
  split at answer
  · cases answer
  next ascii =>
  cases answer
  replace filled : host ≠ [] := fun none => filled (congrArg String.ofList none)
  rw [String.toList_ofList, String.toList_ofList]
  obtain ⟨more, rfl⟩ : ∃ more, cs = '/' :: '/' :: more := by
    by_contra apart
    rw [splitHost_of_not_slashes fun rest same => apart ⟨rest, same⟩] at parted
    cases parted
    exact filled rfl
  obtain ⟨fine, same⟩ := splitHost_slashes_iff.mp parted
  obtain ⟨rfl, rfl⟩ := Prod.mk.inj same
  have apart : ∀ c ∈ more, c ∈ '/' :: '/' :: more := fun c mem => by simp [mem]
  refine ⟨⟨fine, Bool.not_eq_true _ ▸ ascii⟩, fun c mem => ?_, ?_, fun c mem => ?_, fun c mem => ?_⟩
  · simpa using List.mem_takeWhile_imp mem
  · cases behind : more.dropWhile fun c => !endsHost c with
    | nil => exact .inl rfl
    | cons c path =>
      have ends : endsHost c = true := by
        have stops := List.head_dropWhile_not (fun c => !endsHost c) (l := more)
        simpa [behind] using stops
      by_cases slash : c = '/'
      · exact .inr ⟨_, by rw [slash, List.takeWhile_cons_of_pos (by rfl)]⟩
      · refine .inl (List.takeWhile_cons_of_neg ?_)
        simpa [endsHost, slash, imp_iff_or_not, or_comm] using ends
  · simpa using List.mem_takeWhile_imp mem
  · refine kept c (apart c ?_)
    rcases List.mem_append.mp mem with mem | mem
    · exact (List.takeWhile_prefix _).subset mem
    · exact (List.dropWhile_suffix _).subset ((List.takeWhile_prefix _).subset mem)

/-- A host without brackets and a path, all of printable characters, are parts of an address. -/
theorem areParts_of_plain {host path : List Char} (slashless : '/' ∉ host) (begins : IsPath path)
    (plain : ∀ c ∈ host ++ path, IsPlainChar c) : AreParts host path := by
  have opening : '[' ∉ host := fun mem => (plain _ (List.mem_append_left _ mem)).2.2.2.2.1 rfl
  have closing : ']' ∉ host := fun mem => (plain _ (List.mem_append_left _ mem)).2.2.2.2.2 rfl
  have ascii : (host.any fun c => delimiterLike.contains c.toNat) = false := by
    rw [List.any_eq_false]
    intro c mem
    have small := (plain c (List.mem_append_left _ mem)).2.1
    have least : ∀ n ∈ delimiterLike, 0x7e < n := by decide
    rw [List.contains_iff_mem]
    exact fun within => absurd (least _ within) (by omega)
  refine ⟨⟨by simp [hostFault?, opening, closing], ascii⟩, fun c mem => ?_, begins, fun c mem => ?_,
    fun c mem => ?_⟩
  · obtain ⟨-, -, fragment, query, -⟩ := plain c (List.mem_append_left _ mem)
    have slash : c ≠ '/' := fun same => slashless (same ▸ mem)
    simp [endsHost, fragment, query, slash]
  · obtain ⟨-, -, fragment, query, -⟩ := plain c (List.mem_append_right _ mem)
    exact ⟨query, fragment⟩
  · exact (plain c mem).kept

/-! ## Hosts that are none -/

/-- What an address announces as its host: what follows two slashes behind the scheme up to where a
host ends. -/
def announced? (text : String) : Option (List Char) :=
  match (splitScheme (visible (text.toList.dropWhile fun c => c.toNat ≤ 0x20))).2 with
  | '/' :: '/' :: rest => some (rest.takeWhile fun c => !endsHost c)
  | _ => none

/-- What keeps characters from being a host: their brackets first, then a character that stands for
a delimiter. -/
inductive IsDefectOf (host : List Char) : HostFault → Prop
  | brackets {fault : HostFault} (found : hostFault? host = some fault) : IsDefectOf host fault
  | character (ordered : hostFault? host = none) {c : Char} (mem : c ∈ host)
      (like : c.toNat ∈ delimiterLike) : IsDefectOf host (.character (String.ofList host))

/-- An address cannot be split exactly if what it announces as its host is none. -/
theorem split_eq_error_iff {text : String} {f : Fault} :
    split text = .error f ↔
      ∃ host fault, announced? text = some host ∧ IsDefectOf host fault ∧ f = .host fault := by
  unfold split announced? visible
  dsimp only
  generalize splitScheme _ = front
  obtain ⟨scheme, cs⟩ := front
  rw [bind_eq_error_iff]
  dsimp only
  by_cases slashes : ∃ rest, cs = '/' :: '/' :: rest
  · obtain ⟨rest, rfl⟩ := slashes
    simp only [splitHost_slashes_error_iff, splitHost_slashes_iff, Option.some.injEq]
    generalize (rest.takeWhile fun c => !endsHost c) = host
    constructor
    · rintro (⟨fault, found, rfl⟩ | ⟨-, ⟨ordered, rfl⟩, failed⟩)
      · exact ⟨host, fault, rfl, .brackets found, rfl⟩
      · split at failed
        · next like =>
          cases failed
          obtain ⟨c, mem, within⟩ := List.any_eq_true.mp like
          exact ⟨host, _, rfl, .character ordered mem (List.contains_iff_mem.mp within), rfl⟩
        · cases failed
    · rintro ⟨_, fault, rfl, defect, rfl⟩
      cases defect with
      | brackets found => exact .inl ⟨fault, found, rfl⟩
      | character ordered mem within =>
        have like : (host.any fun c => delimiterLike.contains c.toNat) = true :=
          List.any_eq_true.mpr ⟨_, mem, List.contains_iff_mem.mpr within⟩
        refine .inr ⟨_, ⟨ordered, rfl⟩, ?_⟩
        dsimp only
        rw [if_pos like]
        rfl
  · have apart : ∀ rest, cs ≠ '/' :: '/' :: rest := fun rest same => slashes ⟨rest, same⟩
    rw [splitHost_of_not_slashes apart]
    constructor
    · rintro (failed | ⟨-, ⟨⟩, failed⟩)
      · cases failed
      · cases failed
    · rintro ⟨host, fault, announced, -⟩
      split at announced
      · next rest => exact absurd rfl (apart rest)
      · cases announced

end RuleBound.Web
