import RuleBound.Proofs.Exchange.Rehearsal
import RuleBound.Proofs.Exchange.Watch
import RuleBound.Proofs.Link
import RuleBound.Settings.Setting

/-!
Origins of links. The check of the setting asks only how an origin begins; reading a link asks for
a host, and drops what follows a question mark or a number sign. So an origin that is accepted
carries the links that are minted under it exactly if it has a host and neither of the two signs.
-/

namespace RuleBound

/-! ## Origins that carry links -/

namespace CapabilityLink

open Web (IsWebScheme IsHost hostOf pathOf hostOf_append hostOf_slashes pathOf_append pathOf_query
  split_web_iff host_of_split_slash)

/-- A text is accepted as an origin exactly if it begins like an address of the web. -/
theorem accepts_origin_iff {origin : String} :
    Setting.origin.accepts (.text origin) = .ok true ↔
      ∃ scheme cs, IsWebScheme scheme ∧ origin.toList = scheme ++ ':' :: '/' :: '/' :: cs := by
  change Except.ok _ = Except.ok true ↔ _
  rw [Except.ok.injEq, Bool.or_eq_true, List.isPrefixOf_iff_prefix, List.isPrefixOf_iff_prefix]
  constructor
  · rintro (⟨cs, same⟩ | ⟨cs, same⟩)
    · exact ⟨_, cs, .inl rfl, same.symm⟩
    · exact ⟨_, cs, .inr rfl, same.symm⟩
  · rintro ⟨scheme, cs, rfl | rfl, same⟩
    · exact .inl ⟨cs, same.symm⟩
    · exact .inr ⟨cs, same.symm⟩

/-- Whether an origin carries links: its address has a host, and neither a query nor a fragment. -/
structure CarriesLinks (origin : String) : Prop where
  queryless : '?' ∉ origin.toList
  unmarked : '#' ∉ origin.toList
  hosted : ∃ a, Web.split origin = .ok a ∧ a.host ≠ ""

section Accepted

variable {scheme cs : List Char} (web : IsWebScheme scheme)

include web

/-- What follows the two slashes of an origin stays but for slashes at its end; if it is nothing but
slashes, they go too. -/
theorem dropEndSlashes_web (cs : List Char) :
    (dropEndSlashes (scheme ++ ':' :: '/' :: '/' :: cs) = scheme ++ [':'] ∧ ∀ c ∈ cs, c = '/') ∨
      ∃ cs' dropped, cs = cs' ++ dropped ∧ (∀ c ∈ dropped, c = '/') ∧
        dropEndSlashes (scheme ++ ':' :: '/' :: '/' :: cs) = scheme ++ ':' :: '/' :: '/' :: cs' := by
  obtain ⟨dropped, whole, slashes⟩ := Text.exists_dropEndWhile (· == '/') cs
  simp only [beq_iff_eq] at slashes
  have front : scheme ++ ':' :: '/' :: '/' :: cs = (scheme ++ [':', '/', '/']) ++ cs := by simp
  have apart := Text.dropEndWhile_append (· == '/') (scheme ++ [':', '/', '/']) cs
  rw [← front] at apart
  by_cases none : Text.dropEndWhile (· == '/') cs = []
  · rw [if_pos none] at apart
    rw [none, List.nil_append] at whole
    refine .inl ⟨apart.trans ?_, whole ▸ slashes⟩
    rcases web with rfl | rfl <;> rfl
  · rw [if_neg none] at apart
    exact .inr ⟨_, dropped, whole, slashes, apart.trans (by simp)⟩

/-- The address of an origin has a host exactly if a host stands behind its slashes. -/
theorem hosted_iff : (∃ a, Web.split (String.ofList (scheme ++ ':' :: '/' :: '/' :: cs)) = .ok a ∧
    a.host ≠ "") ↔ IsHost (hostOf cs) ∧ hostOf cs ≠ [] := by
  have filled : String.ofList (hostOf cs) ≠ "" ↔ hostOf cs ≠ [] := by
    rw [ne_eq, ← String.toList_inj, String.toList_ofList]
    rfl
  constructor
  · rintro ⟨a, split, some⟩
    obtain ⟨host, rfl⟩ := (split_web_iff web).mp split
    exact ⟨host, filled.mp some⟩
  · rintro ⟨host, some⟩
    exact ⟨_, (split_web_iff web).mpr ⟨host, rfl⟩, filled.mpr some⟩

/-- The address of an origin has a host exactly if the address of the links that are built on it
has one. -/
theorem hosted_built_iff (id : Int) :
    (∃ a, Web.split (String.ofList (dropEndSlashes (scheme ++ ':' :: '/' :: '/' :: cs) ++
        '/' :: (toString id).toList)) = .ok a ∧ a.host ≠ "") ↔
      ∃ a, Web.split (String.ofList (scheme ++ ':' :: '/' :: '/' :: cs)) = .ok a ∧ a.host ≠ "" := by
  rw [hosted_iff web]
  rcases dropEndSlashes_web web cs with ⟨trimmed, slashes⟩ | ⟨cs', dropped, rfl, slashes, trimmed⟩
  · have none : hostOf cs = [] := hostOf_slashes slashes []
    rw [trimmed, none]
    constructor
    · rintro ⟨a, split, some⟩
      rw [List.append_assoc, List.singleton_append] at split
      have one : ∀ c ∈ (toString id).toList, c ≠ '/' := fun c mem =>
        (isNumeralChar_toString id c mem).ne (by decide) (by decide)
      exact absurd (host_of_split_slash web one split) some
    · rintro ⟨-, some⟩
      exact absurd rfl some
  · have same : scheme ++ ':' :: '/' :: '/' :: cs' ++ '/' :: (toString id).toList =
        scheme ++ ':' :: '/' :: '/' :: (cs' ++ '/' :: (toString id).toList) := by simp
    rw [trimmed, same, hosted_iff web, hostOf_append (by rfl), hostOf_slashes slashes]

/-- Behind a question mark in an origin nothing changes the address. -/
theorem exists_split_iff_of_query (query : '?' ∈ cs) :
    ∃ text, ∀ more a, Web.split (String.ofList
        (dropEndSlashes (scheme ++ ':' :: '/' :: '/' :: cs) ++ more)) = .ok a ↔
      Web.split text = .ok a := by
  rcases dropEndSlashes_web web cs with ⟨-, slashes⟩ | ⟨cs', dropped, rfl, slashes, trimmed⟩
  · exact absurd (slashes _ query) (by decide)
  have within : '?' ∈ cs' := (List.mem_append.mp query).resolve_right fun mem =>
    absurd (slashes _ mem) (by decide)
  obtain ⟨before, behind, rfl⟩ := List.append_of_mem within
  refine ⟨String.ofList (scheme ++ ':' :: '/' :: '/' :: before), fun more a => ?_⟩
  have same : scheme ++ ':' :: '/' :: '/' :: (before ++ '?' :: behind) ++ more =
      scheme ++ ':' :: '/' :: '/' :: (before ++ '?' :: (behind ++ more)) := by simp
  rw [trimmed, same, split_web_iff web, split_web_iff web, hostOf_append (by rfl), pathOf_query]

end Accepted

section Minted

variable {origin : String} (accepted : Setting.origin.accepts (.text origin) = .ok true)

include accepted

/-- If an origin has a query or a fragment, then all links that are built on it have one address. -/
theorem exists_split_iff_of_not_plain (marked : '?' ∈ origin.toList ∨ '#' ∈ origin.toList) :
    ∃ text, ∀ (id : Int) key a, Web.split (String.ofList
        ((build ⟨origin, .integer id, key⟩).toList.takeWhile (· != '#'))) = .ok a ↔
      Web.split text = .ok a := by
  obtain ⟨scheme, cs, web, is⟩ := accepts_origin_iff.mp accepted
  by_cases unmarked : '#' ∈ origin.toList
  · obtain ⟨dropped, whole, slashes⟩ := Text.exists_dropEndWhile (· == '/') origin.toList
    have within : '#' ∈ dropEndSlashes origin.toList := by
      rw [whole, List.mem_append] at unmarked
      exact unmarked.resolve_right fun mem => absurd (slashes _ mem) (by decide)
    obtain ⟨before, behind, trimmed⟩ := List.append_of_mem within
    refine ⟨String.ofList (before.takeWhile (· != '#')), fun id key a => ?_⟩
    have parts : ∃ more, (build ⟨origin, .integer id, key⟩).toList = before ++ '#' :: more := by
      unfold build
      rw [trimmed]
      exact ⟨_, by simp [String.toList_append]; rfl⟩
    obtain ⟨more, parts⟩ := parts
    rw [parts, Web.takeWhile_stop (by rfl)]
  · have query : '?' ∈ cs := by
      have mem := marked.resolve_right unmarked
      rw [is] at mem
      rcases web with rfl | rfl <;> simpa using mem
    obtain ⟨text, all⟩ := exists_split_iff_of_query web query
    refine ⟨text, fun id key a => ?_⟩
    obtain ⟨-, base, -⟩ := parts_withFragment (l := ⟨origin, .integer id, key⟩) rfl unmarked
      (fragmentOf key)
    rw [build_eq_withFragment, base, is]
    exact all _ a

/-- An origin on which links to two objects are built that are read back carries links. -/
theorem carriesLinks_of_read {id id' : Int} (differ : id ≠ id') {key key' : ContentKey}
    {l l' : CapabilityLink}
    (read : parseText (build ⟨origin, .integer id, key⟩) = .ok l) (named : l.objectId = .integer id)
    (read' : parseText (build ⟨origin, .integer id', key'⟩) = .ok l')
    (named' : l'.objectId = .integer id') : CarriesLinks origin := by
  obtain ⟨-, a, n, k, split, web, number, -, rfl⟩ := parseText_eq_ok_iff.mp read
  obtain ⟨-, a', n', k', split', -, number', -, rfl⟩ := parseText_eq_ok_iff.mp read'
  have plain : ¬ ('?' ∈ origin.toList ∨ '#' ∈ origin.toList) := by
    intro marked
    obtain ⟨text, all⟩ := exists_split_iff_of_not_plain accepted marked
    have address : a = a' := Except.ok.inj (((all _ _ _).mp split).symm.trans ((all _ _ _).mp split'))
    rw [address, number', Except.ok.injEq, Option.some.injEq] at number
    subst number
    exact differ (Document.integer.inj (named.symm.trans named'))
  rw [not_or] at plain
  refine ⟨plain.1, plain.2, ?_⟩
  obtain ⟨scheme, cs, web', is⟩ := accepts_origin_iff.mp accepted
  obtain ⟨-, base, -⟩ := parts_withFragment (l := ⟨origin, .integer id, key⟩) rfl plain.2
    (fragmentOf key)
  rw [build_eq_withFragment, base, is] at split
  have hosted := (hosted_built_iff web' id).mp ⟨a, split, fun none => web (.inr none)⟩
  rwa [← is, String.ofList_toList] at hosted

/-- On an origin that carries links, a link to an object with a number above zero that is not too
long is read back to that number and its key. -/
theorem CarriesLinks.read_built (carries : CarriesLinks origin) {n : Nat} (pos : 0 < n)
    (short : Document.IsShort (.integer n)) (key : ContentKey) :
    ∃ l, parseText (build ⟨origin, .integer n, key⟩) = .ok l ∧ l.objectId = .integer n ∧
      l.key = key := by
  obtain ⟨queryless, unmarked, hosted⟩ := carries
  obtain ⟨scheme, cs, web, is⟩ := accepts_origin_iff.mp accepted
  obtain ⟨marked, base, fragment⟩ := parts_withFragment (l := ⟨origin, .integer n, key⟩) rfl unmarked
    (fragmentOf key)
  rw [build_eq_withFragment]
  rw [← String.ofList_toList (s := origin), is] at hosted
  obtain ⟨host, filled⟩ := (hosted_iff web).mp hosted
  rcases dropEndSlashes_web web cs with ⟨-, slashes⟩ | ⟨cs', dropped, rfl, slashes, trimmed⟩
  · exact absurd (hostOf_slashes slashes []) filled
  rw [hostOf_slashes slashes] at host filled
  have plain : ∀ c ∈ cs', c ≠ '?' ∧ c ≠ '#' := by
    intro c mem
    have within : c ∈ origin.toList := by
      rw [is]
      simp [mem]
    exact ⟨fun same => queryless (same ▸ within), fun same => unmarked (same ▸ within)⟩
  obtain ⟨front, path⟩ := pathOf_append plain (isNumeralChar_toString n)
  have kept : hostOf (cs' ++ '/' :: (toString (n : Int)).toList) = hostOf cs' :=
    hostOf_append (by rfl) cs' _
  have split := (split_web_iff web).mpr ⟨kept.symm ▸ host, rfl⟩
  rw [kept, path] at split
  have same : dropEndSlashes origin.toList ++ '/' :: (toString (n : Int)).toList =
      scheme ++ ':' :: '/' :: '/' :: (cs' ++ '/' :: (toString (n : Int)).toList) := by
    rw [is, trimmed]
    simp
  rw [← same, ← base] at split
  have fine : ¬ ((String.ofList scheme ≠ "http" ∧ String.ofList scheme ≠ "https") ∨
      String.ofList (hostOf cs') = "") := by
    rintro (⟨notPlain, notSecure⟩ | none)
    · rcases web with rfl | rfl
      · exact notPlain String.ofList_toList
      · exact notSecure String.ofList_toList
    · exact filled (by simpa using congrArg String.toList none)
  have number : objectIdOf (splitPath (String.ofList
      (front ++ '/' :: (toString (n : Int)).toList)).toList).2 = .ok (some n) := by
    rw [String.toList_ofList, splitPath_written]
    exact objectIdOf_toString pos short
  have carried := keyOfFragment_fragmentOf key
  rw [← String.ofList_toList (s := fragmentOf key), ← fragment] at carried
  exact ⟨_, parseText_eq_ok_iff.mpr ⟨marked, _, n, key, split, fine, number, carried, rfl⟩, rfl, rfl⟩

end Minted

/-- Whether every link that an object is created with under an origin is read back to the number of
the object and to the key that its content is sealed under. -/
def LinksWork (origin : String) : Prop :=
  ∀ (σ : Type) (store : ContentStore σ) (c : Client) (intent : Intent) (s s' : Session σ)
    (o : CreatedObject), c.origin = origin → 1 ≤ o.id → (c.create store intent).Ends s (.ok o) s' →
    ∃ (k : Making) (l : CapabilityLink), k.IsOf c store intent s s' o ∧ parse (.text o.link) = .ok l ∧
      l.objectId = .integer o.id ∧ l.key = k.key

end CapabilityLink

namespace Rehearsal

/-- A note over an empty store in memory takes the number that the registry has reached. -/
theorem exists_ends_create_at (origin : String) {id : Int} (short : Document.IsShort (.integer id)) :
    ∃ o s' key, ((client origin "alice").create MemoryStore.store (.note "hi")).Ends
        { opening ({} : MemoryStore) with registry := { nextId := id } } (.ok o) s' ∧ o.id = id ∧
      o.link = CapabilityLink.build ⟨origin, .integer id, key⟩ := by
  have named : Text.isBlankText "alice" = false := by decide
  have put : ∀ st content, (MemoryStore.store.put st content).result =
      .ok (Sha256.ofBytes content) := fun _ _ => rfl
  obtain ⟨w, ends, -⟩ := exists_ends_create_note
    (s := { opening ({} : MemoryStore) with registry := { nextId := id } }) accepted_hi (by decide)
    origin named (put _ _) (put _ _) (by decide) short
  have ends' := Client.mirrors_create _ _ _ _ _ ends
  rw [Session.view_watched] at ends'
  exact ⟨_, _, _, ends', rfl, rfl⟩

end Rehearsal

open CapabilityLink Rehearsal

/-- Under an accepted origin every link of a created object is read back to its number and key
exactly if the address of the origin has a host, and neither a query nor a fragment. -/
theorem linksWork_iff {origin : String}
    (accepted : Setting.origin.accepts (.text origin) = .ok true) :
    LinksWork origin ↔ CarriesLinks origin := by
  constructor
  · intro work
    -- One object is not enough: the path of an origin may end in its number already.
    have read : ∀ id : Int, 1 ≤ id → Document.IsShort (.integer id) →
        ∃ key l, parseText (build ⟨origin, .integer id, key⟩) = .ok l ∧ l.objectId = .integer id := by
      intro id pos short
      obtain ⟨o, s', key, ends, rfl, link⟩ := exists_ends_create_at origin short
      obtain ⟨k, l, -, parsed, named, -⟩ := work _ _ (client origin "alice") _ _ _ o rfl pos ends
      rw [link, parse_text] at parsed
      exact ⟨key, l, parsed, named⟩
    obtain ⟨key, l, parsed, named⟩ := read 1 (by decide) Document.isShort_one
    obtain ⟨key', l', parsed', named'⟩ :=
      read 2 (by decide) (Document.isShort_of_natAbs_lt (by decide))
    exact carriesLinks_of_read accepted (by decide) parsed named parsed' named'
  · rintro carries σ store c intent s s' o rfl pos ends
    obtain ⟨k, parts⟩ := Client.exists_making ends
    obtain ⟨n, same⟩ := Int.eq_ofNat_of_zero_le (Int.le_trans (by decide) pos)
    have short := parts.short
    have link := parts.link
    rw [same] at short link pos
    obtain ⟨l, parsed, named, key⟩ := carries.read_built accepted (Int.ofNat_le.mp pos) short k.key
    exact ⟨k, l, parts, by rw [link]; exact parsed, by rw [named, same], key⟩

/-- Links work under an origin that is a host and nothing else. -/
theorem linksWork_http :
    Setting.origin.accepts (.text "http://h") = .ok true ∧ LinksWork "http://h" := by
  have accepted : Setting.origin.accepts (.text "http://h") = .ok true := by rfl
  have carries : CarriesLinks "http://h" :=
    ⟨by decide, by decide, ⟨"http", "h", ""⟩, by rfl, by decide⟩
  exact ⟨accepted, (linksWork_iff accepted).mpr carries⟩

/-- Under an origin with a query no path of a link has a number. -/
theorem parse_queried (key : ContentKey) :
    parse (.text (build ⟨"http://h?q", .integer 1, key⟩)) = .error (.link (.noObject "")) := by
  have unmarked : '#' ∉ "http://h?q".toList := by decide
  obtain ⟨marked, base, -⟩ := parts_withFragment (l := ⟨"http://h?q", .integer 1, key⟩) rfl unmarked
    (fragmentOf key)
  rw [← build_eq_withFragment] at marked base
  have there := List.contains_iff_mem.mpr marked
  have split : Web.split (String.ofList (dropEndSlashes "http://h?q".toList ++
      '/' :: (toString (1 : Int)).toList)) = .ok ⟨"http", "h", ""⟩ := by rfl
  rw [← base] at split
  have number : objectIdOf (splitPath "".toList).2 = .ok none := by rfl
  rw [parse_text]
  unfold parseText
  simp only [there, split, number, ok_bind]
  rw [if_neg (by decide), if_neg (by decide)]
  rfl

/-- Under an origin with a query an object is created whose link is not read: its number stands in
the query, and the path names nothing. -/
theorem link_unread_under_query :
    Setting.origin.accepts (.text "http://h?q") = .ok true ∧
      ∃ o s', ((client "http://h?q" "alice").create MemoryStore.store (.note "hi")).Ends
          { opening ({} : MemoryStore) with registry := { nextId := 1 } } (.ok o) s' ∧ o.id = 1 ∧
        parse (.text o.link) = .error (.link (.noObject "")) ∧ ¬ LinksWork "http://h?q" := by
  have accepted : Setting.origin.accepts (.text "http://h?q") = .ok true := by rfl
  obtain ⟨o, s', key, ends, id, link⟩ := exists_ends_create_at "http://h?q" Document.isShort_one
  refine ⟨accepted, o, s', ends, id, ?_, fun work => ?_⟩
  · rw [link]
    exact parse_queried _
  · obtain ⟨k, l, -, parsed, -⟩ := work _ _ (client "http://h?q" "alice") _ _ _ o rfl (by rw [id]) ends
    rw [link, parse_queried] at parsed
    cases parsed

end RuleBound
