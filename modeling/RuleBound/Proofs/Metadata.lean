import RuleBound.Metadata
import RuleBound.Store.Basic
import RuleBound.Proofs.Document.Sameness
import RuleBound.Proofs.Schema
import RuleBound.Proofs.Text.Hex
import RuleBound.Proofs.Text.Utf8

/-!
Metadata in a store. What was stored as canonical text is read back, and then says the same of the
rules and of where and how the content is kept; it fits the schema if its parts do.
-/

namespace RuleBound

open Document (Every HasDistinctNames HasWholeTexts Readable Whole)

/-- A document with a canonical text is readable if its names are distinct. -/
theorem Document.readable_of_canonical {d : Document} {text : String}
    (written : d.canonical = .ok text) (distinct : Every HasDistinctNames d) : Readable d := by
  obtain ⟨⟨exact, short, whole⟩, -⟩ := (canonical_eq_ok_iff ..).mp written
  exact readable_of_orderly (orderly_of_whole exact whole distinct) short

/-- The bytes of a canonical text are read back as its document. -/
theorem documentOfBytes_canonical {d : Document} {text : String} (written : d.canonical = .ok text)
    (distinct : Every HasDistinctNames d) (pointer : Document) :
    documentOfBytes pointer (Text.utf8 text) = .ok (d.reread .canonical) := by
  have readable := Document.readable_of_canonical written distinct
  obtain ⟨-, rfl⟩ := (Document.canonical_eq_ok_iff ..).mp written
  have parsed := Document.parse_toJson Document.JsonStyle.isSeparating_canonical readable
  unfold documentOfBytes
  simp only [Text.fromUtf8?_utf8, Document.read_of_parse parsed]

namespace Metadata

section Text

open Document (JsonStyle bracketed jsonText write write_object fieldText)

/-- The canonical text of metadata, field by field. -/
def canonicalText (m : Metadata) : String :=
  bracketed .canonical 0 "\x7b" "\x7d"
    [jsonText false "description" ++ ":" ++ jsonText false m.description,
      jsonText false "image" ++ ":" ++ write .canonical 1 m.image,
      jsonText false "name" ++ ":" ++ jsonText false m.name,
      jsonText false "properties" ++ ":" ++ bracketed .canonical 1 "\x7b" "\x7d"
        [jsonText false "createdAt" ++ ":" ++ write .canonical 2 m.createdAt,
          jsonText false "encryptedContentCID" ++ ":" ++ jsonText false m.pointer,
          jsonText false "iv" ++ ":" ++ jsonText false m.nonce,
          jsonText false "rulesHash" ++ ":" ++ jsonText false m.rulesHash]]

theorem toJson_toDocument (m : Metadata) : m.toDocument.toJson .canonical = m.canonicalText := by
  have parts : JsonStyle.canonical.order [("rulesHash", Document.text m.rulesHash),
      ("encryptedContentCID", .text m.pointer), ("iv", .text m.nonce), ("createdAt", m.createdAt)] =
      [("createdAt", m.createdAt), ("encryptedContentCID", .text m.pointer), ("iv", .text m.nonce),
        ("rulesHash", .text m.rulesHash)] := by
    refine JsonStyle.order_eq rfl ?_ (by simp only [List.map]; decide)
    grind
  have all : ∀ properties : Document, JsonStyle.canonical.order [("name", Document.text m.name),
      ("description", .text m.description), ("image", m.image), ("properties", properties)] =
      [("description", .text m.description), ("image", m.image), ("name", .text m.name),
        ("properties", properties)] := by
    intro properties
    refine JsonStyle.order_eq rfl ?_ (by simp only [List.map]; decide)
    grind
  rw [Document.toJson, toDocument, write_object, all]
  simp only [List.map, fieldText, write_object, parts]
  rfl

end Text

variable {m : Metadata}

/-- Metadata whose texts are whole has a canonical text. -/
theorem canonical_toDocument {image : String} {createdAt : Int}
    (pictured : m.image = .text image) (moment : m.createdAt = .integer createdAt)
    (short : Document.IsShort (.integer createdAt))
    (whole : ∀ s ∈ [m.name, m.description, image, m.rulesHash, m.pointer, m.nonce],
      Text.IsWhole s) : m.toDocument.canonical = .ok m.canonicalText := by
  simp only [List.forall_mem_cons] at whole
  obtain ⟨name, description, image, rulesHash, pointer, nonce, -⟩ := whole
  refine (Document.canonical_eq_ok_iff ..).mpr ⟨⟨?_, ?_, ?_⟩, m.toJson_toDocument.symm⟩
  · simp [toDocument, pictured, moment, Document.IsExact]
  · simp [toDocument, pictured, moment, short]
  · simp [toDocument, pictured, moment, Document.HasWholeTexts, name, description, image, rulesHash,
      pointer, nonce]
    decide

/-- Whether the parts of metadata that are kept as documents have distinct names. -/
structure IsDistinct (m : Metadata) : Prop where
  image : Every HasDistinctNames m.image
  createdAt : Every HasDistinctNames m.createdAt

theorem IsDistinct.toDocument (distinct : m.IsDistinct) : Every HasDistinctNames m.toDocument := by
  have image := distinct.image
  have createdAt := distinct.createdAt
  simp [Metadata.toDocument, HasDistinctNames, image, createdAt]

section Written

variable {text : String} (written : m.toDocument.canonical = .ok text) (distinct : m.IsDistinct)

include written distinct

/-- What stands in the parts of metadata that is read back. -/
theorem get?_reread_toDocument :
    let d := m.toDocument.reread .canonical
    d.get? "name" = some (.text m.name) ∧ d.get? "description" = some (.text m.description) ∧
      d.get? "image" = some (m.image.reread .canonical) ∧
      ∃ properties, d.get? "properties" = some properties ∧
        properties.get? "rulesHash" = some (.text m.rulesHash) ∧
        properties.get? "encryptedContentCID" = some (.text m.pointer) ∧
        properties.get? "iv" = some (.text m.nonce) ∧
        properties.get? "createdAt" = some (m.createdAt.reread .canonical) := by
  intro d
  have readable := Document.readable_of_canonical written distinct.toDocument
  obtain ⟨⟨-, -, whole⟩, -⟩ := (Document.canonical_eq_ok_iff ..).mp written
  have texts : Text.IsWhole m.name ∧ Text.IsWhole m.description ∧ Text.IsWhole m.rulesHash ∧
      Text.IsWhole m.pointer ∧ Text.IsWhole m.nonce := by
    simp only [toDocument, Document.Every.object_iff, List.forall_mem_cons,
      Document.Every.text_iff] at whole
    obtain ⟨-, name, description, -, ⟨-, rulesHash, pointer, nonce, -⟩, -⟩ := whole
    exact ⟨name, description, rulesHash, pointer, nonce⟩
  obtain ⟨name, description, rulesHash, pointer, nonce⟩ := texts
  have field := @Document.get?_reread .canonical _ readable
  have properties := field "properties" rfl
  have within := readable.within _ (by
    rw [toDocument, Document.children]
    exact List.mem_cons_of_mem _ (List.mem_cons_of_mem _ (List.mem_cons_of_mem _
      List.mem_cons_self)))
  have part := @Document.get?_reread .canonical _ within
  refine ⟨(field "name" rfl).trans ?_, (field "description" rfl).trans ?_,
    field "image" rfl, _, properties, (part "rulesHash" rfl).trans ?_,
    (part "encryptedContentCID" rfl).trans ?_, (part "iv" rfl).trans ?_,
    part "createdAt" rfl⟩
  all_goals rw [Document.reread, Text.IsWhole.reread_eq (by assumption)]

/-- Metadata that is read back says what was written of the rules, the content and its nonce. -/
theorem eq_of_ofDocument_reread {m' : Metadata}
    (read : ofDocument (m.toDocument.reread .canonical) = .ok m') :
    m'.rulesHash = m.rulesHash ∧ m'.pointer = m.pointer ∧ m'.nonce = m.nonce := by
  obtain ⟨-, -, -, properties, here, rulesHash, pointer, nonce, -⟩ :=
    get?_reread_toDocument written distinct
  unfold ofDocument at read
  split at read
  · cases read
    simp only [Document.getD, here, Option.getD_some, Document.textAt, rulesHash, pointer, nonce,
      Option.bind_some, Document.asText?, and_self]
  · cases read

end Written

/-- Whether metadata has the form that the schema asks for. -/
structure Fits (m : Metadata) : Prop where
  image : ∃ s, m.image = .text s
  rulesHash : Text.isHexText 64 m.rulesHash = true
  pointer : m.pointer ≠ ""
  nonce : Text.isHexText 24 m.nonce = true
  createdAt : ∃ n : Int, m.createdAt = .integer n ∧ 0 ≤ n

theorem Fits.isDistinct (fits : m.Fits) : m.IsDistinct := by
  obtain ⟨s, image⟩ := fits.image
  obtain ⟨n, createdAt, -⟩ := fits.createdAt
  constructor
  · rw [image]
    exact (Every.text_iff _).mpr trivial
  · rw [createdAt]
    exact (Every.integer_iff _).mpr trivial

/-- A document fits the schema if its parts do. -/
theorem fits_of_parts {d properties : Document} {name description image rulesHash pointer nonce : String}
    {createdAt : Int} (named : d.get? "name" = some (.text name))
    (described : d.get? "description" = some (.text description))
    (pictured : d.get? "image" = some (.text image))
    (here : d.get? "properties" = some properties)
    (ruled : properties.get? "rulesHash" = some (.text rulesHash))
    (placed : properties.get? "encryptedContentCID" = some (.text pointer))
    (drawn : properties.get? "iv" = some (.text nonce))
    (made : properties.get? "createdAt" = some (.integer createdAt))
    (hash : Text.isHexText 64 rulesHash = true) (some : pointer ≠ "")
    (digits : Text.isHexText 24 nonce = true) (nonneg : 0 ≤ createdAt) :
    Schema.metadata.Fits d := by
  have long : 1 ≤ pointer.length := by
    rw [Nat.one_le_iff_ne_zero, Ne, String.length_eq_zero_iff]
    exact some
  cases d with
  | object fields =>
    cases properties with
    | object parts =>
      rw [Document.get?] at named described pictured here ruled placed drawn made
      simp [Schema.metadata, Schema.string, Schema.count, Schema.Fits, Schema.FitsAll,
        SchemaType.holds, named, described, pictured, here, ruled, placed, drawn, made, hash, digits,
        long, nonneg]
    | _ => cases ruled
  | _ => cases named

/-- The pointer in metadata is the text that stands in the document. -/
theorem exists_pointer_of_ofDocument {d : Document} (read : ofDocument d = .ok m) :
    ∃ properties, d.get? "properties" = some properties ∧
      properties.get? "encryptedContentCID" = some (.text m.pointer) := by
  unfold ofDocument at read
  split at read
  · next none =>
    cases read
    have fits := (Schema.report_eq_nil_iff ..).mp none
    simp only [Schema.metadata, Schema.Fits, Schema.FitsAll] at fits
    obtain ⟨isObject, required, -, -, -, demanded, -⟩ := fits
    -- at each level the schema asks for the field and for the type of what stands in it
    cases d with
    | object fields =>
      obtain ⟨properties, here⟩ := required "properties" (by simp)
      obtain ⟨isObject', required', -, text, -⟩ := demanded properties here
      cases properties with
      | object parts =>
        obtain ⟨pointer, placed⟩ := required' "encryptedContentCID" (by simp)
        have isText := (text pointer placed).1
        cases pointer with
        | text s =>
          have there : (Document.object fields).get? "properties" = some (.object parts) := here
          have spelled : (Document.object parts).get? "encryptedContentCID" = some (.text s) := placed
          refine ⟨_, there, ?_⟩
          simp only [Document.getD, there, Option.getD_some, Document.textAt, spelled,
            Option.bind_some, Document.asText?]
        | _ => cases isText
      | _ => cases isObject'
    | _ => cases isObject
  · cases read

/-- Metadata of the form that the schema asks for is read back. -/
theorem Fits.exists_of_reread (fits : m.Fits) {text : String}
    (written : m.toDocument.canonical = .ok text) :
    ∃ m', ofDocument (m.toDocument.reread .canonical) = .ok m' := by
  obtain ⟨name, description, image, properties, here, rulesHash, pointer, nonce, createdAt⟩ :=
    get?_reread_toDocument written fits.isDistinct
  obtain ⟨s, picture⟩ := fits.image
  obtain ⟨n, moment, nonneg⟩ := fits.createdAt
  have same : (Document.integer n).reread .canonical = .integer n := by simp [Document.reread]
  rw [picture, Document.reread] at image
  rw [moment, same] at createdAt
  have report : Schema.metadata.report (m.toDocument.reread .canonical) = [] :=
    (Schema.report_eq_nil_iff ..).mpr (fits_of_parts name description image here rulesHash pointer
      nonce createdAt fits.rulesHash fits.pointer fits.nonce nonneg)
  unfold ofDocument
  rw [report]
  exact ⟨_, rfl⟩

end Metadata

end RuleBound
