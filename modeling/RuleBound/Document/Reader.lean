import RuleBound.Document.Basic
import RuleBound.Text.Surrogate

/-!
Reading documents from JSON text.

The grammar is strict JSON with three additions: `NaN`, `Infinity` and `-Infinity` are doubles.
Of two fields of one name the last value is kept, at the place of the first. A numeral without
fraction and exponent is a whole number of any size up to `numeralLimit` digits.

The same text can be read as YAML, which differs in a few points: a tab is no blank, those three
words are texts, and so is a numeral with an exponent unless it has a point before the exponent
and a sign in it; escapes by number are not joined to pairs.
-/

namespace RuleBound.Document

/-- The largest number of digits a whole number may be written with. -/
def numeralLimit : Nat := 4300

/-- Why a text is no document. -/
inductive ReadFault
  /-- The text breaks the grammar. -/
  | malformed
  /-- A whole number has more than `numeralLimit` digits. -/
  | numeralTooLong (digits : Nat)
  deriving DecidableEq, Repr

/-- What a text is read as. -/
inductive Dialect
  | json
  | yaml
  deriving DecidableEq, Repr

/-- The blanks of a dialect. -/
def Dialect.isBlank (dialect : Dialect) (c : Char) : Bool :=
  c == ' ' || (c == '\t' && dialect = .json) || c == '\n' || c == '\r'

/-- Skip blanks. -/
def skipBlanks (dialect : Dialect) (cs : List Char) : List Char := cs.dropWhile dialect.isBlank

/-- Remove an exact beginning. -/
def dropPrefix? : (expected cs : List Char) → Option (List Char)
  | [], cs => some cs
  | _ :: _, [] => none
  | e :: es, c :: cs => if e = c then dropPrefix? es cs else none

/-- The value of a run of ASCII digits. -/
def digitsValue (ds : List Char) : Nat := ds.foldl (fun n d => n * 10 + (d.toNat - 48)) 0

/-- The value of four hexadecimal digits, and the rest. -/
def fourHex? : List Char → Option (Nat × List Char)
  | a :: b :: c :: d :: rest =>
    match value? a, value? b, value? c, value? d with
    | some a, some b, some c, some d => some (((a * 16 + b) * 16 + c) * 16 + d, rest)
    | _, _, _, _ => none
  | _ => none
where
  /-- The value of a hexadecimal digit. -/
  value? (c : Char) : Option Nat :=
    if '0' ≤ c ∧ c ≤ '9' then some (c.toNat - 48)
    else if 'a' ≤ c ∧ c ≤ 'f' then some (c.toNat - 87)
    else if 'A' ≤ c ∧ c ≤ 'F' then some (c.toNat - 55)
    else none

/-- Whether a unit is the first half of a surrogate pair. -/
def isHighUnit (u : Nat) : Bool := 0xd800 ≤ u && u < 0xdc00

/-- Whether a unit is the second half of a surrogate pair. -/
def isLowUnit (u : Nat) : Bool := 0xdc00 ≤ u && u < 0xe000

/-- The unit of an escape by number that comes next. -/
def nextUnit? (cs : List Char) : Option (Nat × List Char) :=
  (dropPrefix? ['\\', 'u'] cs).bind fourHex?

/-- The character of an escape by number: two units of a surrogate pair make one character, one
alone has a stand-in. -/
def unitEscape? (dialect : Dialect) (cs : List Char) : Option (Char × List Char) :=
  match fourHex? cs with
  | none => none
  | some (u, rest) =>
    if dialect = .json && isHighUnit u then
      match nextUnit? rest with
      | some (v, more) =>
        if isLowUnit v then
          some (Char.ofNat (0x10000 + (u - 0xd800) * 0x400 + (v - 0xdc00)), more)
        else some (Text.standIn u, rest)
      | none => some (Text.standIn u, rest)
    else if isHighUnit u || isLowUnit u then some (Text.standIn u, rest)
    else some (Char.ofNat u, rest)

/-- The character that a short escape stands for. -/
def shortEscape? (c : Char) : Option Char :=
  if c = '"' ∨ c = '\\' ∨ c = '/' then some c
  else if c = 'b' then some '\x08'
  else if c = 'f' then some '\x0c'
  else if c = 'n' then some '\n'
  else if c = 'r' then some '\r'
  else if c = 't' then some '\t'
  else none

/-- Read the characters of a text up to its closing quote. -/
def readText (dialect : Dialect) :
    (fuel : Nat) → List Char → Option (List Char × List Char)
  | 0, _ => none
  | _ + 1, [] => none
  | fuel + 1, c :: rest =>
    if c = '"' then some ([], rest)
    else if c = '\\' then
      match rest with
      | [] => none
      | e :: more =>
        if e = 'u' then
          match unitEscape? dialect more with
          | some (x, more) => (readText dialect fuel more).map fun (xs, r) => (x :: xs, r)
          | none => none
        else
          match shortEscape? e with
          | some x => (readText dialect fuel more).map fun (xs, r) => (x :: xs, r)
          | none => none
    else if c.toNat < 0x20 && !(dialect = .yaml && c == '\t') then none
    else (readText dialect fuel rest).map fun (xs, r) => (c :: xs, r)

/-- Split off a fraction: a point followed by at least one digit. -/
def readFraction (cs : List Char) : List Char × List Char :=
  match cs with
  | '.' :: rest =>
    match rest.takeWhile Char.isDigit with
    | [] => ([], cs)
    | ds => (ds, rest.dropWhile Char.isDigit)
  | _ => ([], cs)

/-- Split off an exponent: a letter, perhaps a sign, and at least one digit. -/
def readExponent (cs : List Char) : Option Int × List Char :=
  match cs with
  | c :: rest =>
    if c = 'e' ∨ c = 'E' then
      let (negative, body) := match rest with
        | '-' :: r => (true, r)
        | '+' :: r => (false, r)
        | r => (false, r)
      match body.takeWhile Char.isDigit with
      | [] => (none, cs)
      | ds =>
        let n : Int := digitsValue ds
        (some (if negative then -n else n), body.dropWhile Char.isDigit)
    else (none, cs)
  | [] => (none, cs)

/-- Whether YAML reads a numeral with a fraction or an exponent as a number: an exponent needs a
point before it and a sign. -/
def isYamlReal (fraction rest : List Char) : Bool :=
  match rest with
  | c :: sign :: _ =>
    !(c == 'e' || c == 'E') || (!fraction.isEmpty && (sign == '+' || sign == '-'))
  | _ => true

/-- Read a numeral without its sign. A whole part that starts with zero is that zero alone. -/
def readNumeral (dialect : Dialect) (negative : Bool) (cs : List Char) :
    Except ReadFault (Document × List Char) :=
  let whole := match cs with
    | '0' :: _ => ['0']
    | _ => cs.takeWhile Char.isDigit
  if whole.isEmpty then .error .malformed
  else
    let rest := cs.drop whole.length
    let (fraction, behind) := readFraction rest
    let (exponent, rest) := readExponent behind
    if fraction.isEmpty ∧ exponent.isNone then
      if numeralLimit < whole.length then .error (.numeralTooLong whole.length)
      else
        let n : Int := digitsValue whole
        .ok (.integer (if negative then -n else n), rest)
    else if dialect = .yaml && exponent.isSome && !isYamlReal fraction behind then
      let spelled := cs.take (cs.length - rest.length)
      .ok (.text (String.ofList (if negative then '-' :: spelled else spelled)), rest)
    else
      let digits := digitsValue (whole ++ fraction)
      let power := exponent.getD 0 - fraction.length
      .ok (.real (Binary64.ofDecimal negative digits power), rest)

/-- The words for doubles that are not finite. -/
def realWords : List (List Char × Binary64) :=
  [("NaN".toList, .nan), ("Infinity".toList, .infinite false),
    ("-Infinity".toList, .infinite true)]

/-- The words of a dialect and what they stand for. -/
def words (dialect : Dialect) : List (List Char × Document) :=
  [("null".toList, .null), ("true".toList, .bool true), ("false".toList, .bool false)] ++
    realWords.map fun (w, x) =>
      (w, match dialect with
        | .json => .real x
        | .yaml => .text (String.ofList w))

/-- Read a word or a numeral. -/
def readScalar (dialect : Dialect) (cs : List Char) : Except ReadFault (Document × List Char) :=
  match (words dialect).findSome? fun w => (dropPrefix? w.1 cs).map fun rest => (w.2, rest) with
  | some r => .ok r
  | none =>
    match cs with
    | '-' :: rest => readNumeral dialect true rest
    | _ => readNumeral dialect false cs

mutual
/-- Read one value; `fuel` bounds the number of steps. -/
def readValue (dialect : Dialect) :
    (fuel : Nat) → List Char → Except ReadFault (Document × List Char)
  | 0, _ => .error .malformed
  | fuel + 1, cs =>
    match cs with
    | '"' :: rest =>
      match readText dialect (rest.length + 1) rest with
      | some (xs, rest) => .ok (.text (String.ofList xs), rest)
      | none => .error .malformed
    | '[' :: rest =>
      match skipBlanks dialect rest with
      | ']' :: rest => .ok (.list [], rest)
      | rest => (readItems dialect fuel rest).map fun (items, rest) => (.list items, rest)
    | '{' :: rest =>
      match skipBlanks dialect rest with
      | '}' :: rest => .ok (.object [], rest)
      | rest => (readFields dialect fuel [] rest).map fun (fields, rest) => (.object fields, rest)
    | _ => readScalar dialect cs

/-- Read the items of a list up to its closing bracket. -/
def readItems (dialect : Dialect) :
    (fuel : Nat) → List Char → Except ReadFault (List Document × List Char)
  | 0, _ => .error .malformed
  | fuel + 1, cs =>
    match readValue dialect fuel cs with
    | .error e => .error e
    | .ok (v, rest) =>
      match skipBlanks dialect rest with
      | ']' :: rest => .ok ([v], rest)
      | ',' :: rest =>
        (readItems dialect fuel (skipBlanks dialect rest)).map
          fun (items, rest) => (v :: items, rest)
      | _ => .error .malformed

/-- Read the fields of an object up to its closing brace, after those already known. -/
def readFields (dialect : Dialect) : (fuel : Nat) → List (String × Document) → List Char →
    Except ReadFault (List (String × Document) × List Char)
  | 0, _, _ => .error .malformed
  | fuel + 1, known, cs =>
    match cs with
    | '"' :: rest =>
      match readText dialect (rest.length + 1) rest with
      | none => .error .malformed
      | some (name, rest) =>
        match skipBlanks dialect rest with
        | ':' :: rest =>
          match readValue dialect fuel (skipBlanks dialect rest) with
          | .error e => .error e
          | .ok (v, rest) =>
            let known := putField known (String.ofList name) v
            match skipBlanks dialect rest with
            | '}' :: rest => .ok (known, rest)
            | ',' :: rest => readFields dialect fuel known (skipBlanks dialect rest)
            | _ => .error .malformed
        | _ => .error .malformed
    | _ => .error .malformed
end

/-- Read a whole text as one document, blanks around it allowed. -/
def readAs (dialect : Dialect) (s : String) : Except ReadFault Document :=
  let cs := s.toList
  match readValue dialect (2 * cs.length + 2) (skipBlanks dialect cs) with
  | .error e => .error e
  | .ok (v, rest) => if (skipBlanks dialect rest).isEmpty then .ok v else .error .malformed

/-- Read a whole JSON text. -/
def read (s : String) : Except ReadFault Document := readAs .json s

end RuleBound.Document
