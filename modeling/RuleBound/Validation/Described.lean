import RuleBound.Validation.Field
import RuleBound.Text.Pattern.Reader

/-!
Checks described by documents: which check, and the arguments that differ from its own.

The name of the field that is checked may be any value. It is put into the issues as it is.
-/

namespace RuleBound

/-- Which check to make. -/
inductive CheckKind
  | text
  | identity
  | count
  | address
  deriving DecidableEq, Repr

namespace CheckKind

/-- The kind of a name. -/
def ofName? : String → Option CheckKind
  | "string" => some text
  | "identity" => some identity
  | "int" => some count
  | "url" => some address
  | _ => none

/-- The names of the arguments of a check. -/
def argumentNames : CheckKind → List String
  | text => ["field_name", "min_length", "max_length", "pattern"]
  | count => ["field_name", "maximum"]
  | identity | address => ["field_name"]

/-- The name of the field if none is given; some checks need one. -/
def defaultField? : CheckKind → Option String
  | identity => some "identity"
  | address => some "payload.url"
  | text | count => none

end CheckKind

namespace Validation

/-- The pattern in the arguments of a check, if there is one. -/
def patternOf (arguments : Document) : Except Fault (Option (String → Bool)) :=
  match arguments.get? "pattern" with
  | none => .ok none
  | some (.text s) =>
    match Text.Pattern.ofText s with
    | .ok p => .ok (some p.accepts)
    | .error fault => .error (.pattern fault)
  | some _ => .error .wrongType

/-- The issues of a review with the name of their field replaced. -/
def renamed (name review : Document) : Document :=
  let issues := (review.getD "errors").items.map fun i => i.withField "field" name
  review.withField "errors" (.list issues)

/-- Make a check with arguments. An argument that the check does not have is of the wrong type. -/
def checkDescribed (kind : CheckKind) (arguments value : Document) : Except Fault Document := do
  let pattern ← patternOf arguments
  if !arguments.fields.all (fun a => kind.argumentNames.contains a.1) then throw .wrongType
  let name ← match arguments.get? "field_name", kind.defaultField? with
    | some name, _ => pure name
    | none, some name => pure (.text name)
    | none, none => throw .wrongType
  let review ← match kind with
    | .text => do
      let minLength := arguments.getD "min_length" (.integer 1)
      let maxLength := arguments.getD "max_length" (.integer defaultMaxLength)
      pure ((← checkTextBetween "" minLength maxLength pattern value).toDocument .text)
    | .identity => pure ((checkIdentity "" value).toDocument .text)
    | .count => do
      pure ((← checkCountUpTo "" (arguments.getD "maximum") value).toDocument .integer)
    | .address => do pure ((← checkAddress "" value).toDocument .text)
  return renamed name review

end Validation

end RuleBound
