import RuleBound.Document.Writer
import RuleBound.Text.Quoted

/-!
Documents inside messages. A text on its own is shown as it is; inside a list or an object it is
quoted. Null, true and false are capitalised words.
-/

namespace RuleBound.Document

mutual
/-- A document with its texts in quotes. -/
def quoted : Document → String
  | .null => "None"
  | .bool b => if b then "True" else "False"
  | .integer n => toString n
  | .real x => x.toText
  | .text s => Text.quoted s
  | .list items => "[" ++ ", ".intercalate (quotedItems items) ++ "]"
  | .object fields => "\x7b" ++ ", ".intercalate (quotedFields fields) ++ "\x7d"

/-- Each item with its texts in quotes. -/
def quotedItems : List Document → List String
  | [] => []
  | d :: rest => quoted d :: quotedItems rest

/-- Each field with its texts in quotes. -/
def quotedFields : List (String × Document) → List String
  | [] => []
  | (name, d) :: rest => (Text.quoted name ++ ": " ++ quoted d) :: quotedFields rest
end

/-- A document as a message shows it: a text bare, anything else as `quoted` gives it. -/
def shown : Document → String
  | .text s => s
  | d => d.quoted

end RuleBound.Document
