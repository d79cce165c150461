import RuleBound.Text.CaseTable
import RuleBound.Text.CasedTable

/-!
Upper and lower case of text. A character may become several (`ß` becomes `SS`), so the length can
grow. Only one mapping looks at neighbours: a capital sigma that ends a word has a lower case of
its own.
-/

namespace RuleBound.Text

/-- Other case of one character by a table of runs and a table of exceptions. -/
def otherCase (runs : List CaseRun) (special : List (Nat × List Nat)) (c : Char) : List Char :=
  match special.find? fun entry => entry.1 == c.toNat with
  | some (_, codes) => codes.map Char.ofNat
  | none =>
    match runs.find? fun run => run.holds c.toNat with
    | some run => [Char.ofNat ((c.toNat : Int) + run.shift).toNat]
    | none => [c]

/-- Upper case of one character; the ASCII letters are decided without the tables. -/
def upperChar (c : Char) : List Char :=
  if c.toNat < 0x80 then [c.toUpper] else otherCase upperRuns upperSpecial c

/-- Lower case of one character that stands alone; the ASCII letters are decided without the
tables. -/
def lowerChar (c : Char) : List Char :=
  if c.toNat < 0x80 then [c.toLower] else otherCase lowerRuns lowerSpecial c

/-- Upper case of a text. -/
def upper (s : String) : String := String.ofList (s.toList.flatMap upperChar)

/-- Whether the first character that is not read over has case. -/
def meetsCase (cs : List Char) : Bool := (cs.dropWhile isReadOver).head?.any isCased

/-- Whether a character ends a word: what stands before it, nearest first, has case, and what
follows has none. -/
def endsWord (before rest : List Char) : Bool := meetsCase before && !meetsCase rest

/-- Lower case of characters behind others, of which the nearest comes first. -/
def lowerBehind : (before : List Char) → List Char → List Char
  | _, [] => []
  | before, c :: rest =>
    (if c = 'Σ' then [if endsWord before rest then 'ς' else 'σ'] else lowerChar c) ++
      lowerBehind (c :: before) rest

/-- Lower case of a text. -/
def lower (s : String) : String := String.ofList (lowerBehind [] s.toList)

end RuleBound.Text
