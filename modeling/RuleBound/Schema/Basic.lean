import RuleBound.Document.Canonical
import RuleBound.Document.Display
import RuleBound.Document.Coercion
import RuleBound.Text.Hash

/-!
Schemas: what a document of some sort looks like, and the issues of one that does not.

A schema is a list of demands. A demand about objects says nothing of a document that is no
object, and so for the others, so a demand on the type comes with them. Issues are listed in the
order of the demands, then sorted by their place, whose steps are compared as text.
-/

namespace RuleBound

-- Places are compared by the order of the core library, whichever others are known.
attribute [local instance (high)] List.instLE

/-- The types that a schema can ask for. A double without fraction is an integer. -/
inductive SchemaType
  | object
  | array
  | string
  | integer
  deriving DecidableEq, Repr

namespace SchemaType

/-- The name of the type in messages. -/
def name : SchemaType → String
  | object => "object"
  | array => "array"
  | string => "string"
  | integer => "integer"

/-- Whether a document has the type. -/
def holds : SchemaType → Document → Bool
  | object, .object _ => true
  | array, .list _ => true
  | string, .text _ => true
  | integer, .integer _ => true
  | integer, .real x => x.isWhole
  | _, _ => false

end SchemaType

/-- A demand on a document. -/
inductive Schema
  | ofType (type : SchemaType)
  /-- One of some texts. -/
  | oneOf (choices : List String)
  /-- Fields that have to be there. -/
  | required (names : List String)
  /-- No fields but these. -/
  | only (names : List String)
  /-- A demand on one field, if it is there. -/
  | property (name : String) (schema : Schema)
  /-- A demand on every item. -/
  | items (schema : Schema)
  | minLength (count : Nat)
  | maxLength (count : Nat)
  | minimum (bound : Int)
  /-- A text of so many lower-case hexadecimal digits. -/
  | hexText (digits : Nat)
  | all (schemas : List Schema)

/-- An issue and the steps to the place where it stands. -/
structure PlacedIssue where
  place : List String
  message : String
  /-- The value that the message quotes; null if it quotes a text or nothing. -/
  quotes : Document
  deriving DecidableEq, Repr

namespace Schema

/-- The names of an object's fields that are none of the given ones, sorted and quoted. -/
def extraNames (names : List String) (fields : List (String × Document)) : List String :=
  let extra := (fields.map Prod.fst).filter fun n => !names.contains n
  (extra.mergeSort fun a b => decide (a ≤ b)).map Text.quoted

mutual
/-- The issues of a document at a place, in the order of the demands. -/
def issues (place : List String) : Schema → Document → List PlacedIssue
  | .ofType type, d =>
    if type.holds d then []
    else [⟨place, d.quoted ++ " is not of type " ++ Text.quoted type.name, d⟩]
  | .oneOf choices, d =>
    if choices.any fun c => d == .text c then []
    else [⟨place, d.quoted ++ " is not one of " ++ (Document.ofTexts choices).quoted, d⟩]
  | .required names, .object fields =>
    (names.filter fun n => (Document.field? fields n).isNone).map fun n =>
      ⟨place, Text.quoted n ++ " is a required property", .null⟩
  | .only names, .object fields =>
    match extraNames names fields with
    | [] => []
    | [n] =>
      [⟨place, "Additional properties are not allowed (" ++ n ++ " was unexpected)", .null⟩]
    | ns =>
      [⟨place, "Additional properties are not allowed (" ++ ", ".intercalate ns ++
        " were unexpected)", .null⟩]
  | .property name schema, .object fields =>
    match Document.field? fields name with
    | some d => issues (place ++ [name]) schema d
    | none => []
  | .items schema, .list ds =>
    (ds.zipIdx.map fun (d, i) => issues (place ++ [toString i]) schema d).flatten
  | .minLength count, .text s =>
    if s.length < count then
      [⟨place, (Document.text s).quoted ++
        (if count = 1 then " should be non-empty" else " is too short"), .null⟩]
    else []
  | .maxLength count, .text s =>
    if count < s.length then [⟨place, (Document.text s).quoted ++ " is too long", .null⟩]
    else []
  | .minimum bound, d =>
    match d with
    | .integer _ | .real _ =>
      if d.compareNumbers? (.integer bound) = some .lt then
        [⟨place, d.quoted ++ " is less than the minimum of " ++ toString bound, d⟩]
      else []
    | _ => []
  | .hexText digits, .text s =>
    if Text.isHexText digits s then []
    else
      let pattern := "^[a-f0-9]\x7b" ++ toString digits ++ "\x7d$"
      [⟨place, (Document.text s).quoted ++ " does not match " ++ Text.quoted pattern, .null⟩]
  | .all schemas, d => issuesOfAll place schemas d
  | _, _ => []

/-- The issues of a document under each of several schemas. -/
def issuesOfAll (place : List String) : List Schema → Document → List PlacedIssue
  | [], _ => []
  | s :: rest, d => issues place s d ++ issuesOfAll place rest d
end

/-- An issue as one line that starts with its place. -/
def line (i : PlacedIssue) : String :=
  (if i.place.isEmpty then "<root>" else "/".intercalate i.place) ++ ": " ++ i.message

/-- Whether an issue of a document quotes a number that is too long to be written. -/
def quotesLongNumeral (schema : Schema) (d : Document) : Bool :=
  (schema.issues [] d).any fun i => i.quotes.hasLongNumeral

/-- The issues of a document as lines, sorted by place. -/
def report (schema : Schema) (d : Document) : List String :=
  ((schema.issues [] d).mergeSort fun a b => decide (a.place ≤ b.place)).map line

end Schema

end RuleBound
