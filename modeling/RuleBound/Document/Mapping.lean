import RuleBound.Document.Canonical
import RuleBound.Document.Coercion

/-!
Mappings: fields whose names are any scalars. An object is a mapping whose names are texts; a list
of pairs makes a mapping of whatever the pairs begin with.

Two names are one if they agree as documents do, so `1`, `1.0` and true are one name, which stays
as it was first given. Names have an order only if all are texts or all are numbers.
-/

namespace RuleBound

/-- Fields named by scalars. -/
abbrev Mapping := List (Document × Document)

namespace Mapping

/-- The mapping of an object's fields. -/
def ofFields (fields : List (String × Document)) : Mapping := fields.map fun f => (.text f.1, f.2)

/-- Whether two scalars are one name. -/
def sameName (a b : Document) : Bool := a == b || a.agrees b

/-- A mapping with the value of a name replaced, or the name added at the end. -/
def put (m : Mapping) (name value : Document) : Mapping :=
  match m with
  | [] => [(name, value)]
  | (k, v) :: rest => if sameName k name then (k, value) :: rest else (k, v) :: put rest name value

/-- Read pairs, later ones replacing earlier ones of the same name. -/
def ofPairs : (index : Nat) → Mapping → List Document → Except Fault Mapping
  | _, known, [] => .ok known
  | index, known, item :: rest =>
    match item.toItems with
    | .error _ => .error .wrongType
    | .ok [name, value] =>
      if name.isScalar then ofPairs (index + 1) (known.put name value) rest else .error .wrongType
    | .ok items => .error (.notPair index items.length)

/-- The mapping that a document stands for: an object, or a sequence of pairs. -/
def ofDocument : Document → Except Fault Mapping
  | .object fields => .ok (ofFields fields)
  | d =>
    match d.toItems with
    | .error e => .error e
    | .ok items => ofPairs 0 [] items

/-- The fields of a mapping whose names are all texts. -/
def textFields? (m : Mapping) : Option (List (String × Document)) :=
  m.mapM fun (k, v) => k.asText?.map (·, v)

/-- The fields of a mapping with its names as messages show them. -/
def shownFields (m : Mapping) : List (String × Document) :=
  m.foldl (fun fields (k, v) => Document.putField fields k.shown v) []

/-- Whether all names are numbers. -/
def hasNumbers (m : Mapping) : Bool := m.all fun f => f.1.numeric?.isSome

/-- Whether one numeric name does not come after another. -/
def comesBefore (a b : Document × Document) : Bool := (a.1.compareNumbers? b.1) != some .gt

/-- The fields of a mapping in the order of their names. Names without an order have the wrong
type. -/
def inOrder (m : Mapping) : Except Fault Mapping :=
  if m.length < 2 then .ok m
  else if m.hasNumbers then .ok (m.mergeSort comesBefore)
  else
    match m.textFields? with
    | some fields => .ok (ofFields (Document.sortFields fields))
    | none => .error .wrongType

/-- A name as a JSON writer spells it. -/
def spelled : Document → String
  | .text s => s
  | d => d.toJson .line

/-- A field in the canonical style. -/
def fieldText (f : Document × Document) : String :=
  Document.jsonText false (spelled f.1) ++ ":" ++ f.2.toJson .canonical

/-- A mapping in the canonical style, its names in their own order. -/
def canonicalText (m : Mapping) : Except Fault String :=
  m.inOrder.map fun ordered => "\x7b" ++ ",".intercalate (ordered.map fieldText) ++ "\x7d"

end Mapping

end RuleBound
