import RuleBound.Document.Writer

/-!
Writing documents as YAML in block style: one field or item a line, fields in the order of their
names, lists not indented further than the name they belong to.

A text is written plain if it reads back as that text; else between single quotes, and between
double quotes if it holds characters outside printable ASCII. Texts with blanks are folded where
a line has grown longer than eighty characters. A name that is empty, long or of several lines
stands on a line of its own behind a question mark, and its value behind a colon on the next.
-/

namespace RuleBound.Document

namespace Yaml

/-! ## Texts that would read as something else -/

/-- The length from which on lines are folded. -/
def lineWidth : Nat := 80

/-- Drop a sign. -/
def unsigned : List Char → List Char
  | '-' :: rest | '+' :: rest => rest
  | cs => cs

/-- Digits and underscores. -/
def isLooseDigit (c : Char) : Bool := c.isDigit || c == '_'

/-- Whether characters are parts of an hour or of a circle, each a colon and a number below
sixty; what follows them has to satisfy a condition. At least one part is needed. -/
def areSixties (ends : List Char → Bool) : List Char → Bool
  | ':' :: a :: b :: rest =>
    (a.toNat < 0x36 && a.isDigit && b.isDigit && (ends rest || areSixties ends rest)) ||
      (a.isDigit && (ends (b :: rest) || areSixties ends (b :: rest)))
  | [':', a] => a.isDigit && ends []
  | _ => false
termination_by cs => cs.length

/-- Whether characters without a sign read as a whole number. -/
def isUnsignedInteger : List Char → Bool
  | [] => false
  | ['0'] => true
  | '0' :: 'b' :: rest => !rest.isEmpty && rest.all fun c => c == '0' || c == '1' || c == '_'
  | '0' :: 'x' :: rest => !rest.isEmpty && rest.all fun c =>
      isLooseDigit c || ('a' ≤ c.toLower && c.toLower ≤ 'f')
  | '0' :: rest => rest.all fun c => ('0' ≤ c && c ≤ '7') || c == '_'
  | c :: rest =>
    c.isDigit &&
      ((rest.dropWhile isLooseDigit).isEmpty ||
        areSixties List.isEmpty (rest.dropWhile isLooseDigit))

/-- Whether characters are nothing or an exponent with a sign. -/
def isExponentEnd : List Char → Bool
  | [] => true
  | e :: sign :: rest =>
    (e == 'e' || e == 'E') && (sign == '-' || sign == '+') && !rest.isEmpty && rest.all Char.isDigit
  | _ => false

/-- Whether characters read as a double. -/
def isReal (cs : List Char) : Bool :=
  match unsigned cs with
  | '.' :: rest =>
    ["inf", "Inf", "INF"].contains (String.ofList rest) ||
      (cs.head? == some '.' &&
        (["nan", "NaN", "NAN"].contains (String.ofList rest) ||
          ((rest.head?.any Char.isDigit) && isExponentEnd (rest.dropWhile isLooseDigit))))
  | c :: rest =>
    c.isDigit &&
      match rest.dropWhile isLooseDigit with
      | '.' :: fraction => isExponentEnd (fraction.dropWhile isLooseDigit)
      | rest => areSixties (fun
        | '.' :: fraction => fraction.all isLooseDigit
        | _ => false) rest
  | [] => false

/-- Split off up to a number of digits. -/
def splitDigits (most : Nat) (cs : List Char) : Nat × List Char :=
  let count := ((cs.take most).takeWhile Char.isDigit).length
  (count, cs.drop count)

/-- Blanks inside a line. -/
def isGap (c : Char) : Bool := c == ' ' || c == '\t'

/-- Whether characters are nothing or a time zone. -/
def isZoneEnd (cs : List Char) : Bool :=
  match cs.dropWhile isGap with
  | [] => cs.isEmpty
  | ['Z'] => true
  | sign :: rest =>
    (sign == '-' || sign == '+') &&
      match splitDigits 2 rest with
      | (0, _) => false
      | (_, []) => true
      | (_, ':' :: minutes) => splitDigits 2 minutes == (2, [])
      | _ => false

/-- Whether characters are a time of day, perhaps with a zone. -/
def isTime (cs : List Char) : Bool :=
  match splitDigits 2 cs with
  | (0, _) => false
  | (_, ':' :: rest) =>
    match splitDigits 2 rest with
    | (2, ':' :: rest) =>
      match splitDigits 2 rest with
      | (2, '.' :: rest) => isZoneEnd (rest.dropWhile Char.isDigit)
      | (2, rest) => isZoneEnd rest
      | _ => false
    | _ => false
  | _ => false

/-- Whether characters are a date, perhaps with a time. -/
def isTimestamp (cs : List Char) : Bool :=
  match splitDigits 4 cs with
  | (4, '-' :: rest) =>
    match splitDigits 2 rest with
    | (0, _) => false
    | (monthDigits, '-' :: rest) =>
      match splitDigits 2 rest with
      | (0, _) => false
      | (dayDigits, rest) =>
        match rest with
        | [] => monthDigits == 2 && dayDigits == 2
        | 'T' :: rest | 't' :: rest => isTime rest
        | c :: rest => isGap c && isTime (rest.dropWhile isGap)
    | _ => false
  | _ => false

/-- Words with a meaning of their own. -/
def words : List String :=
  ["yes", "Yes", "YES", "no", "No", "NO", "true", "True", "TRUE", "false", "False", "FALSE",
    "on", "On", "ON", "off", "Off", "OFF", "~", "null", "Null", "NULL", "", "<<", "="]

/-- Whether a plain text would read as something other than a text. -/
def readsOtherwise (s : String) : Bool :=
  let cs := s.toList
  words.contains s || isUnsignedInteger (unsigned cs) || isReal cs || isTimestamp cs

/-! ## Texts that cannot stand plain -/

/-- Characters with a meaning at the start of a text. -/
def opens (c : Char) : Bool := "#,[]\x7b\x7d&*!|>'\"%@`".toList.contains c

/-- Whether nothing or a blank follows. -/
def gapFollows : List Char → Bool
  | [] => true
  | c :: _ => c == ' ' || c == '\t' || c == '\r' || c == '\n' || c == '\x00'

/-- Whether a mark stands somewhere behind the first character: a colon before a blank, or a
number sign after one. -/
def hasMark : (afterGap : Bool) → List Char → Bool
  | _, [] => false
  | afterGap, c :: rest =>
    (c == ':' && gapFollows rest) || (c == '#' && afterGap) || hasMark (gapFollows [c]) rest

/-- Whether a text begins with a mark. -/
def startsMarked (cs : List Char) : Bool :=
  "---".toList.isPrefixOf cs || "...".toList.isPrefixOf cs ||
    match cs with
    | [] => false
    | c :: rest => opens c || ((c == '?' || c == ':' || c == '-') && gapFollows rest)

/-- Whether a text has its blanks and breaks inside only. -/
def hasBareEnds (cs : List Char) : Bool :=
  cs.head?.any (fun c => c == ' ' || c == '\n') || cs.getLast?.any fun c => c == ' ' || c == '\n'

/-- Whether a text may stand plain. -/
def isPlain (s : String) : Bool :=
  let cs := s.toList
  !readsOtherwise s && !startsMarked cs && !hasMark (gapFollows (cs.take 1)) (cs.drop 1) &&
    !hasBareEnds cs && cs.all fun c => ' ' ≤ c && c ≤ '~'

/-- Whether blanks and breaks stand beside each other. -/
def mixesGaps : List Char → Bool
  | a :: b :: rest => (a == ' ' && b == '\n') || (a == '\n' && b == ' ') || mixesGaps (b :: rest)
  | _ => false

/-- Whether a text may stand between single quotes. -/
def isSingle (s : String) : Bool :=
  let cs := s.toList
  !mixesGaps cs && cs.all fun c => c == '\n' || (' ' ≤ c && c ≤ '~')

/-! ## Folding -/

/-- A new line with blanks in front. -/
def indented (indent : Nat) : List Char := '\n' :: List.replicate indent ' '

/-- The sort of run that a character belongs to: blanks, breaks or anything else. -/
def runSort (c : Char) : Nat := if c == ' ' then 0 else if c == '\n' then 1 else 2

/-- Characters as runs of one sort. -/
def runs (cs : List Char) : List (List Char) := cs.splitBy fun a b => runSort a == runSort b

/-- Write runs from a column on. A line that has grown long enough is folded at a single blank
between words; breaks are written with one more. -/
def foldRuns (indent : Nat) : (column : Nat) → (first : Bool) → List (List Char) → List Char
  | _, _, [] => []
  | column, first, run :: rest =>
    if run == [' '] && lineWidth < column && !first && !rest.isEmpty then
      indented indent ++ foldRuns indent indent false rest
    else if run.head? == some '\n' then
      run ++ indented indent ++ foldRuns indent indent false rest
    else run ++ foldRuns indent (column + run.length) false rest

/-- A text as it stands plain. -/
def plainText (indent column : Nat) (s : String) : List Char :=
  foldRuns indent column true (runs s.toList)

/-- A text between single quotes, in which a quote is written twice. -/
def singleText (indent column : Nat) (s : String) : List Char :=
  let twice (c : Char) : List Char := if c == '\'' then ['\'', '\''] else [c]
  '\'' :: foldRuns indent (column + 1) true ((runs s.toList).map fun r => r.flatMap twice) ++ ['\'']

/-- Characters that are escaped by a letter. -/
def letterEscapes : List (Char × Char) :=
  [('\x00', '0'), ('\x07', 'a'), ('\x08', 'b'), ('\t', 't'), ('\n', 'n'), ('\x0b', 'v'),
    ('\x0c', 'f'), ('\r', 'r'), ('\x1b', 'e'), ('"', '"'), ('\\', '\\'), ('\u0085', 'N'),
    ('\u00a0', '_'), ('\u2028', 'L'), ('\u2029', 'P')]

/-- Upper-case hexadecimal digits of a number. -/
def capitalDigits (count n : Nat) : List Char := (Text.hexDigits count n).map Char.toUpper

/-- The escape of a character between double quotes, if it needs one. -/
def escape? (c : Char) : Option (List Char) :=
  match letterEscapes.find? fun e => e.1 == c with
  | some (_, letter) => some ['\\', letter]
  | none =>
    if ' ' ≤ c && c ≤ '~' then none
    else if c.toNat < 0x100 then some ('\\' :: 'x' :: capitalDigits 2 c.toNat)
    else if c.toNat < 0x10000 then some ('\\' :: 'u' :: capitalDigits 4 c.toNat)
    else some ('\\' :: 'U' :: capitalDigits 8 c.toNat)

/-- Write characters between double quotes from a column on; `pending` holds, in reverse, what has
been read since the last escape or fold. A line is folded before a blank or after an escape, with
a backslash at its end and one more if the next line begins with a blank. -/
def foldEscaped (indent : Nat) :
    (column : Nat) → (first : Bool) → (pending : List Char) → List Char → List Char
  | _, _, pending, [] => pending.reverse
  | column, first, pending, c :: rest =>
    let foldable := !first && !rest.isEmpty
    match escape? c with
    | some e =>
      let column := column + pending.length + e.length
      let done := pending.reverse ++ e
      if foldable && lineWidth + 1 < column then
        let mark : List Char := if rest.head? == some ' ' then ['\\'] else []
        done ++ '\\' :: indented indent ++ mark ++
          foldEscaped indent (indent + mark.length) false [] rest
      else done ++ foldEscaped indent column false [] rest
    | none =>
      if foldable && (c == ' ' || pending.isEmpty) && lineWidth < column + pending.length then
        let mark : List Char := if c == ' ' then ['\\'] else []
        pending.reverse ++ '\\' :: indented indent ++ mark ++
          foldEscaped indent (indent + mark.length) false [c] rest
      else foldEscaped indent column false (c :: pending) rest

/-- A text between double quotes. -/
def doubleText (indent column : Nat) (s : String) : List Char :=
  '"' :: foldEscaped indent (column + 1) true [] s.toList ++ ['"']

/-- A text that begins at a column; its further lines are indented. -/
def text (indent column : Nat) (s : String) : String :=
  String.ofList
    (if isPlain s then plainText indent column s
    else if isSingle s then singleText indent column s
    else doubleText indent column s)

/-- The number of characters from which on a name needs a line of its own. -/
def nameLimit : Nat := 123

/-- Whether a character ends a line. -/
def isBreak (c : Char) : Bool := c == '\n' || c == '\u0085' || c == '\u2028' || c == '\u2029'

/-- Whether a name can stand on one line with its value. -/
def isSimpleName (s : String) : Bool := s != "" && s.length < nameLimit && !s.toList.any isBreak

/-- A name that stands on one line with its value: it is never folded. -/
def name (s : String) : String :=
  if isPlain s then s
  else if isSingle s then
    String.ofList ('\'' :: s.toList.flatMap (fun c => if c == '\'' then [c, c] else [c]) ++ ['\''])
  else String.ofList ('"' :: s.toList.flatMap (fun c => (escape? c).getD [c]) ++ ['"'])

/-! ## Blocks -/

/-- A double: an exponent is written behind a point. -/
def real : Binary64 → String
  | .nan => ".nan"
  | .infinite false => ".inf"
  | .infinite true => "-.inf"
  | x =>
    let cs := x.toText.toList
    if cs.contains 'e' && !cs.contains '.' then
      String.ofList (cs.takeWhile (· != 'e') ++ ['.', '0'] ++ cs.dropWhile (· != 'e'))
    else x.toText

/-- Lines of a block, each but the first behind the blanks of its level. -/
def block (indent : Nat) (lines : List String) : String :=
  (String.ofList (indented indent)).intercalate lines

/-- What stands between a name and its value, and the level of the value's further lines: a block
begins on a line of its own, and a list no deeper than its name. -/
def lead (indent : Nat) : Document → String × Nat
  | .list (_ :: _) => (String.ofList (indented indent), indent)
  | .object (_ :: _) => (String.ofList (indented (indent + 2)), indent + 2)
  | _ => (" ", indent + 2)

mutual
/-- Write what begins at a column; further lines are indented. -/
def value (indent column : Nat) : Document → String
  | .null => "null"
  | .bool b => if b then "true" else "false"
  | .integer n => toString n
  | .real x => real x
  | .text s => text indent column s
  | .list items => if items.isEmpty then "[]" else block indent (entries indent items)
  | .object members =>
    if members.isEmpty then "\x7b\x7d"
    else block indent ((sortFields (fields indent members)).map Prod.snd)

/-- Write items behind hyphens. -/
def entries (indent : Nat) : List Document → List String
  | [] => []
  | d :: rest => ("- " ++ value (indent + 2) (indent + 2) d) :: entries indent rest

/-- Write fields beside their names. -/
def fields (indent : Nat) : List (String × Document) → List (String × String)
  | [] => []
  | (n, d) :: rest =>
    let line :=
      if isSimpleName n then
        let head := name n ++ ":" ++ (lead indent d).1
        head ++ value (lead indent d).2 (indent + head.length) d
      else
        let within := indent + 2
        block indent ["? " ++ text within within n, ": " ++ value within within d]
    (n, line) :: fields indent rest
end

/-- Whether a document is written plain as a whole. Its end is then marked. -/
def isOpenEnded : Document → Bool
  | .list _ | .object _ => false
  | .text s => isPlain s
  | _ => true

end Yaml

/-- A document as YAML text. -/
def toYaml (d : Document) : String :=
  match d with
  | .list _ | .object _ => Yaml.value 0 0 d ++ "\n"
  | d => Yaml.value 2 0 d ++ "\n" ++ if Yaml.isOpenEnded d then "...\n" else ""

end RuleBound.Document
