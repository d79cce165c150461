import RuleBound.Proofs.Durability
import RuleBound.Proofs.Metadata
import RuleBound.Proofs.StoreCall

/-!
Pointers that stay inside. A pointer is a text that anyone may have written, also one in metadata that
fits the schema. A store on disk opens no file for it, or the one file that the pointer spells: 64
digits with the ending of blobs, right below the directory of the store.

What is opened is told by a get that goes step by step, `FileStore.fetching`; carried out on a tree it
gets what the store gets.
-/

namespace RuleBound

open Sha256 (ofBytes)

/-! ## What is opened -/

/-- A computation on files: it answers, or it opens a file and goes on by what it reads there. -/
inductive FileReading (α : Type)
  | answers (answer : α)
  | opens (path : String) (next : Except DiskFault Bytes → FileReading α)

namespace FileReading

variable {α : Type} {d d' : Disk}

/-- Carry a computation out on a tree: the paths that are opened, in order, and the answer. -/
def run (d : Disk) : FileReading α → List String × α
  | answers answer => ([], answer)
  | opens path next =>
    let rest := (next (d.read path)).run d
    (path :: rest.1, rest.2)

/-- Nothing but the files that are opened makes a difference. -/
theorem run_congr {reading : FileReading α}
    (alike : ∀ path ∈ (reading.run d).1, d'.read path = d.read path) :
    reading.run d' = reading.run d := by
  induction reading with
  | answers answer => rfl
  | opens path next ih =>
    have first : d'.read path = d.read path := alike path List.mem_cons_self
    have rest := ih (d.read path) fun p mem => alike p (List.mem_cons_of_mem _ mem)
    rw [run, run, first, rest]

end FileReading

/-! ## Right below a directory -/

namespace Path

/-- Whether a path leads to a name right below a directory: behind the steps to the directory it has
the name as one more, and a file to which it leads stands in the directory, wherever that is. -/
structure IsBelow (parent name path : String) : Prop where
  root : root path = root parent
  steps : steps path = steps parent ++ [name]
  stands : ∀ (d : Disk) (content : Bytes), d.look path = .ok (.file content) →
    ∃ site, d.IsOpen parent site ∧ d.entry? (site ++ [name]) = some (.file content)

theorem IsPlain.isBelow_join {name : String} (plain : IsPlain name) (parent : String) :
    IsBelow parent name (join parent name) where
  root := plain.root_join parent
  steps := plain.steps_join parent
  stands d content found := by
    obtain ⟨place, located, there⟩ := Disk.look_eq_ok_iff.mp found
    -- the current directory is no file
    have other : place ≠ [] := by
      rintro rfl
      cases there
    obtain ⟨site, rfl, opened⟩ := Disk.isOpen_of_locate plain located other
    exact ⟨site, opened, there⟩

end Path

/-! ## Pointers -/

section Pointer

variable {s : String}

theorem digestOfPointer_text (s : String) : digestOfPointer (.text s) =
    if Text.isDigest (Text.lower (Text.strip s)) then .ok (Text.lower (Text.strip s))
    else .error (.storage .notDigest (.text s)) := by
  have spelled : (if (Document.text s).isTrue then Text.lower (Text.strip (Document.text s).shown)
      else "") = Text.lower (Text.strip s) := by
    split
    · rfl
    · next none =>
      rw [Document.isTrue, Bool.not_eq_true', Bool.not_eq_false, String.isEmpty_iff] at none
      rw [none]
      rfl
  unfold digestOfPointer
  rw [spelled]

theorem digestOfPointer_text_of_isDigits (digits : Text.IsDigits (Text.lower (Text.strip s))) :
    digestOfPointer (.text s) = .ok (Text.lower (Text.strip s)) := by
  rw [digestOfPointer_text, if_pos (Text.isDigest_lower_strip_iff.mpr digits)]

theorem digestOfPointer_text_of_not_isDigits
    (other : ¬ Text.IsDigits (Text.lower (Text.strip s))) :
    digestOfPointer (.text s) = .error (.storage .notDigest (.text s)) := by
  rw [digestOfPointer_text, if_neg (mt Text.isDigest_lower_strip_iff.mp other)]

/-- What a pointer spells is 64 digits, also if the pointer is no text. -/
theorem isDigits_of_digestOfPointer {pointer : Document} {digest : String}
    (spelled : digestOfPointer pointer = .ok digest) : Text.IsDigits digest := by
  obtain ⟨shaped, rfl⟩ := eq_of_digestOfPointer spelled
  exact Text.isDigest_lower_strip_iff.mp shaped

end Pointer

namespace FileStore

open RuleBound.Path (IsBelow)

variable {root : String} {d : Disk}

/-- The path of the blob that a pointer points to. -/
def pathFor (root : String) (pointer : Document) : Except Fault String :=
  (digestOfPointer pointer).map (path root)

theorem isBelow_path {digest : String} (digits : Text.IsDigits digest) :
    IsBelow root (digest ++ ".bin") (path root digest) :=
  (isPlain_of_isDigest (Text.isDigest_iff.mpr (.inl digits))).isBelow_join root

/-! ## Gets -/

/-- What comes of a blob by what was read where it should be. -/
def judge (path digest : String) (pointer : Document) : Except DiskFault Bytes → Except Fault Bytes
  | .error (.absent _) => .error (.storage (.absent pointer.shown) pointer)
  | .error .hasNul => .error (.disk .hasNul)
  | .error fault => .error (.storage (.unreadable path fault) pointer)
  | .ok content =>
    if Sha256.ofBytes content = digest then .ok content
    else .error (.storage (.altered pointer.shown) pointer)

/-- A get step by step: the pointer is looked at, and then a file is opened or not. -/
def fetching (root : String) (pointer : Document) : FileReading (Except Fault Bytes) :=
  match digestOfPointer pointer with
  | .error fault => .answers (.error fault)
  | .ok digest =>
    let path := path root digest
    .opens path fun got => .answers (judge path digest pointer got)

/-- Step by step one gets what the store gets. -/
theorem run_fetching (root : String) (d : Disk) (pointer : Document) :
    ((fetching root pointer).run d).2 = ((store root).get d pointer).result := by
  change _ = read root d pointer
  unfold fetching read
  cases digestOfPointer pointer with
  | error fault => rfl
  | ok digest =>
    rw [ok_bind]
    dsimp only [FileReading.run]
    cases d.read (path root digest) with
    | error fault => cases fault <;> rfl
    | ok content =>
      unfold judge
      dsimp only
      split <;> rfl

/-- Whether a get opens given files, one after the other, and no other: so it goes step by step, it
leaves the tree as it is, and nothing else in the tree makes a difference. -/
structure Opens (root : String) (d : Disk) (pointer : Document) (paths : List String) : Prop where
  steps : (fetching root pointer).run d = (paths, ((store root).get d pointer).result)
  state : ((store root).get d pointer).state = d
  alone : ∀ d' : Disk, (∀ path ∈ paths, d'.read path = d.read path) →
    ((store root).get d' pointer).result = ((store root).get d pointer).result

theorem opens (root : String) (d : Disk) (pointer : Document) :
    Opens root d pointer ((fetching root pointer).run d).1 where
  steps := Prod.ext rfl (run_fetching root d pointer)
  state := rfl
  alone d' alike := by
    rw [← run_fetching, ← run_fetching, FileReading.run_congr alike]

theorem opens_of_error {pointer : Document} {fault : Fault}
    (spelled : digestOfPointer pointer = .error fault) : Opens root d pointer [] := by
  have opens := opens root d pointer
  rwa [fetching, spelled] at opens

theorem opens_of_ok {pointer : Document} {digest : String}
    (spelled : digestOfPointer pointer = .ok digest) : Opens root d pointer [path root digest] := by
  have opens := opens root d pointer
  rwa [fetching, spelled] at opens

/-! ## Puts -/

/-- What a put to a path leaves of a tree: what is found there is not written anew, and if nothing is
found there, the content is read there; every other file is as it was. -/
structure IsPutAt (path : String) (content : Bytes) (d d' : Disk) : Prop where
  kept : d.exists? path = .ok true → d' = d
  written : d.exists? path = .ok false → d'.read path = .ok content
  others : ∀ place, d'.locate path ≠ .ok place → ∀ b,
    d'.entry? place = some (.file b) ↔ d.entry? place = some (.file b)

/-- A put that answers went to the path of the digest that it answers with. -/
theorem isPutAt_of_put {content : Bytes} {pointer : String}
    (answered : ((store root).put d content).result = .ok pointer) : pointer = ofBytes content ∧
      IsPutAt (path root pointer) content d ((store root).put d content).state := by
  have puts := puts root d content
  have grows := d.grows_makeDirectory root
  generalize (store root).put d content = reply at puts answered ⊢
  cases puts with
  | unasked asked => cases answered
  | unmade asked made => cases answered
  | unwritten asked made written => cases answered
  | taken asked =>
    cases answered
    refine ⟨rfl, fun _ => rfl, fun missing => ?_, fun _ _ _ => Iff.rfl⟩
    rw [asked] at missing
    cases missing
  | @written d₁ d₂ asked made written =>
    cases answered
    rw [made] at grows
    refine ⟨rfl, fun there => ?_, fun _ => Disk.read_of_write written, fun place other b => ?_⟩
    · rw [asked] at there
      cases there
    · obtain ⟨target, located, -, rfl⟩ := Disk.exists_locate_of_write written
      have elsewhere : place ≠ target := by
        rintro rfl
        exact other located
      rw [Disk.entry_put_of_ne elsewhere]
      -- making directories makes no files
      refine ⟨fun file => ?_, grows.old place (.file b)⟩
      rcases grows.fresh place _ file with old | ⟨directory, -⟩
      · exact old
      · cases directory

/-! ## Every pointer -/

/-- Pointers stay inside. For a text a store on disk opens no file and fails, or, exactly if the text
is 64 digits once it is stripped and in lower case, it opens the file of that name right below its
directory and no other. The pointer in metadata that fits the schema is such a text. What a pointer
spells spells itself, and the pointer that a put answers with has the path at which the blob was put. -/
theorem pointers_stay_inside (root : String) :
    (∀ (d : Disk) (s : String),
      ¬ Text.IsDigits (Text.lower (Text.strip s)) ∧ Opens root d (.text s) [] ∧
          ((store root).get d (.text s)).result = .error (.storage .notDigest (.text s)) ∨
        Text.IsDigits (Text.lower (Text.strip s)) ∧
          Opens root d (.text s) [path root (Text.lower (Text.strip s))] ∧
          IsBelow root (Text.lower (Text.strip s) ++ ".bin")
            (path root (Text.lower (Text.strip s)))) ∧
      (∀ (document : Document) (m : Metadata), Metadata.ofDocument document = .ok m →
        ∃ properties, document.get? "properties" = some properties ∧
          properties.get? "encryptedContentCID" = some (.text m.pointer)) ∧
      (∀ (pointer : Document) (digest : String), digestOfPointer pointer = .ok digest →
        digestOfPointer (.text digest) = .ok digest) ∧
      ∀ (d : Disk) (content : Bytes) (pointer : String),
        ((store root).put d content).result = .ok pointer →
          pathFor root (.text pointer) = .ok (path root pointer) ∧
            IsPutAt (path root pointer) content d ((store root).put d content).state := by
  refine ⟨fun d s => ?_, fun document m read => Metadata.exists_pointer_of_ofDocument read,
    fun pointer digest spelled => ?_, fun d content pointer answered => ?_⟩
  · by_cases digits : Text.IsDigits (Text.lower (Text.strip s))
    · exact .inr ⟨digits, opens_of_ok (digestOfPointer_text_of_isDigits digits),
        isBelow_path digits⟩
    · have failed := digestOfPointer_text_of_not_isDigits digits
      refine .inl ⟨digits, opens_of_error failed, ?_⟩
      change read root d (.text s) = _
      rw [read, failed, error_bind]
  · exact digestOfPointer_of_isDigits (isDigits_of_digestOfPointer spelled)
  · obtain ⟨rfl, put⟩ := isPutAt_of_put answered
    refine ⟨?_, put⟩
    rw [pathFor, digestOfPointer_ofBytes]
    rfl

/-- The digest of the letter a, in capitals and with blanks around it. -/
def paddedPointer : String :=
  "\t CA978112CA1BBDCAFAC231B39A23DC4DA786EFF8147C4E72B9807785AFEE48BB\n"

theorem lower_strip_paddedPointer :
    Text.lower (Text.strip paddedPointer) = ofBytes [97] := by
  decide +kernel

/-- Metadata with a pointer that leads out of every directory. -/
def strayMetadata : Metadata where
  name := "n"
  description := ""
  image := .text Metadata.defaultImage
  rulesHash := String.ofList (List.replicate 64 '0')
  pointer := "../../etc/passwd"
  nonce := "000102030405060708090a0b"
  createdAt := .integer 0

theorem ofDocument_strayMetadata :
    Metadata.ofDocument strayMetadata.toDocument = .ok strayMetadata := by
  have fits : Schema.metadata.Fits strayMetadata.toDocument :=
    Metadata.fits_of_parts rfl rfl rfl rfl rfl rfl rfl rfl (by decide) (by decide) (by decide)
      (by decide)
  unfold Metadata.ofDocument
  rw [(Schema.report_eq_nil_iff ..).mpr fits]
  rfl

/-- A blob is put, a pointer in capitals opens its file, and a pointer that leads elsewhere opens
none, though the schema lets it pass. -/
theorem pointers_stay_inside_cas :
    (((store "cas").put {} [97]).result = .ok (ofBytes [97]) ∧
      pathFor "cas" (.text (ofBytes [97])) = .ok (path "cas" (ofBytes [97])) ∧
      IsPutAt (path "cas" (ofBytes [97])) [97] {} ((store "cas").put {} [97]).state) ∧
    (digestOfPointer (.text paddedPointer) = .ok (ofBytes [97]) ∧
      digestOfPointer (.text (ofBytes [97])) = .ok (ofBytes [97])) ∧
    Opens "cas" ((store "cas").put {} [97]).state (.text paddedPointer)
      [path "cas" (ofBytes [97])] ∧
    (Metadata.ofDocument strayMetadata.toDocument = .ok strayMetadata ∧
      ∃ properties, strayMetadata.toDocument.get? "properties" = some properties ∧
        properties.get? "encryptedContentCID" = some (.text "../../etc/passwd")) ∧
    Opens "cas" ((store "cas").put {} [97]).state (.text "../../etc/passwd") [] := by
  obtain ⟨gets, texts, again, puts⟩ := pointers_stay_inside "cas"
  have digits : Text.IsDigits (ofBytes [97]) := Sha256.isDigits_ofBytes [97]
  have answered : ((store "cas").put {} [97]).result = .ok (ofBytes [97]) :=
    ((isTidy_empty isPlain_cas).put isPlain_cas (isClear_of_isPlain isPlain_cas (by decide)) [97]).1
  have spelled : digestOfPointer (.text paddedPointer) = .ok (ofBytes [97]) := by
    rw [← lower_strip_paddedPointer] at digits ⊢
    exact digestOfPointer_text_of_isDigits digits
  refine ⟨⟨answered, puts _ _ _ answered⟩, ⟨spelled, again _ _ spelled⟩, ?_,
    ⟨ofDocument_strayMetadata, texts _ _ ofDocument_strayMetadata⟩, ?_⟩
  · rcases gets _ paddedPointer with ⟨other, -⟩ | ⟨-, opens, -⟩
    · rw [lower_strip_paddedPointer] at other
      exact absurd digits other
    · rwa [lower_strip_paddedPointer] at opens
  · rcases gets _ "../../etc/passwd" with ⟨-, opens, -⟩ | ⟨stray, -⟩
    · exact opens
    · exact absurd stray.length (by decide)

end FileStore

end RuleBound
