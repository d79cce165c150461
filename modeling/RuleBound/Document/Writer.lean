import RuleBound.Document.Basic
import RuleBound.Text.Quoted

/-!
Writing documents as JSON text. A style fixes what the grammar leaves open: the separators,
whether fields are sorted, whether characters outside ASCII are escaped, and indentation.
-/

namespace RuleBound.Document

/-- What a JSON writer may choose. -/
structure JsonStyle where
  /-- Between items and between fields. -/
  separator : String
  /-- Between a name and its value. -/
  colon : String
  /-- Escape every character outside ASCII. -/
  asciiOnly : Bool
  /-- Write fields in the order of their names. -/
  sorted : Bool
  /-- Put each item and field on a line of its own, indented by two blanks a level. -/
  indented : Bool := false

/-- One line, blanks after separators, ASCII only, fields as they come. -/
def JsonStyle.line : JsonStyle := ⟨", ", ": ", true, false, false⟩

/-- No blanks, ASCII only, fields sorted. -/
def JsonStyle.compact : JsonStyle := ⟨",", ":", true, true, false⟩

/-- Indented, ASCII only, fields sorted. -/
def JsonStyle.page : JsonStyle := ⟨",", ": ", true, true, true⟩

/-- No blanks, all characters as they are, fields sorted. -/
def JsonStyle.canonical : JsonStyle := ⟨",", ":", false, true, false⟩

/-- An escape by number of one unit of a character. -/
def unitEscape (n : Nat) : List Char := '\\' :: 'u' :: Text.hexDigits 4 n

/-- The written form of one character inside a text. -/
def jsonChar (asciiOnly : Bool) (c : Char) : List Char :=
  if c = '"' then ['\\', '"']
  else if c = '\\' then ['\\', '\\']
  else if c = '\n' then ['\\', 'n']
  else if c = '\r' then ['\\', 'r']
  else if c = '\t' then ['\\', 't']
  else if c = '\x08' then ['\\', 'b']
  else if c = '\x0c' then ['\\', 'f']
  else if c.toNat < 0x20 then unitEscape c.toNat
  else if asciiOnly && 0x7f ≤ c.toNat then
    if c.toNat < 0x10000 then unitEscape c.toNat
    else if Text.isStandIn c then unitEscape (c.toNat - Text.standInShift)
    else
      unitEscape (0xd800 + (c.toNat - 0x10000) / 0x400) ++
        unitEscape (0xdc00 + (c.toNat - 0x10000) % 0x400)
  else [c]

/-- A text as a JSON string. -/
def jsonText (asciiOnly : Bool) (s : String) : String :=
  String.ofList ('"' :: s.toList.flatMap (jsonChar asciiOnly) ++ ['"'])

/-- A double as JSON text, with words for what is no finite number. -/
def jsonReal : Binary64 → String
  | .nan => "NaN"
  | .infinite false => "Infinity"
  | .infinite true => "-Infinity"
  | x => x.toText

/-- Fields in the order of their names. -/
def sortFields {α : Type} (fields : List (String × α)) : List (String × α) :=
  fields.mergeSort fun a b => decide (a.1 ≤ b.1)

/-- A new line and the blanks of a level. -/
def newLine (level : Nat) : String := String.ofList ('\n' :: List.replicate (2 * level) ' ')

/-- Written parts between brackets, laid out by the style. -/
def bracketed (style : JsonStyle) (level : Nat) (opening closing : String)
    (parts : List String) : String :=
  if parts.isEmpty then opening ++ closing
  else if style.indented then
    opening ++ newLine (level + 1) ++
      (style.separator ++ newLine (level + 1)).intercalate parts ++ newLine level ++ closing
  else opening ++ style.separator.intercalate parts ++ closing

mutual
/-- Write a document at a level of indentation. -/
def write (style : JsonStyle) (level : Nat) : Document → String
  | .null => "null"
  | .bool b => if b then "true" else "false"
  | .integer n => toString n
  | .real x => jsonReal x
  | .text s => jsonText style.asciiOnly s
  | .list items => bracketed style level "[" "]" (writeItems style level items)
  | .object fields =>
    let parts := writeFields style level fields
    let parts := if style.sorted then sortFields parts else parts
    bracketed style level "\x7b" "\x7d" (parts.map Prod.snd)

/-- Write each item. -/
def writeItems (style : JsonStyle) (level : Nat) : List Document → List String
  | [] => []
  | d :: rest => write style (level + 1) d :: writeItems style level rest

/-- Write each field beside its name. -/
def writeFields (style : JsonStyle) (level : Nat) :
    List (String × Document) → List (String × String)
  | [] => []
  | (name, d) :: rest =>
    (name, jsonText style.asciiOnly name ++ style.colon ++ write style (level + 1) d) ::
      writeFields style level rest
end

/-- A document as JSON text. -/
def toJson (style : JsonStyle) (d : Document) : String := write style 0 d

end RuleBound.Document
