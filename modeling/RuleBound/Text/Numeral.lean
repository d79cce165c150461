import RuleBound.Number.Decimal
import RuleBound.Text.Blank
import RuleBound.Text.DecimalDigit

/-!
Numbers written by people: blanks around the numeral, a sign, digits of any script and single
underscores between digits are allowed.
-/

namespace RuleBound.Text

/-- The largest number of digits a whole number may be written with. -/
def integerDigitLimit : Nat := 4300

/-- Blanks of plain ASCII text: tab to carriage return, and the space. -/
def isPlainBlank (c : Char) : Bool := c == ' ' || (0x09 ≤ c.toNat && c.toNat ≤ 0x0d)

/-- Characters outside ASCII in their plain form: a digit becomes its ASCII digit, a blank a space,
and anything else a question mark. ASCII characters stay as they are. -/
def plainChar (c : Char) : Char :=
  if c.toNat < 0x7f then c
  else if isBlank c then ' '
  else
    match decimalDigit? c with
    | some d => Char.ofNat (48 + d)
    | none => '?'

/-- A numeral without the blanks around it. -/
def numeralBody (s : String) : List Char :=
  dropEndWhile isPlainBlank ((s.toList.map plainChar).dropWhile isPlainBlank)

/-- Split off a sign. -/
def splitSign : List Char → Bool × List Char
  | '-' :: rest => (true, rest)
  | '+' :: rest => (false, rest)
  | cs => (false, cs)

/-- Remove underscores, each of which must stand between two digits. -/
def dropUnderscores? : (afterDigit : Bool) → List Char → Option (List Char)
  | _, [] => some []
  | afterDigit, '_' :: rest =>
    match rest with
    | d :: _ => if afterDigit && d.isDigit then dropUnderscores? false rest else none
    | [] => none
  | _, c :: rest => (dropUnderscores? c.isDigit rest).map (c :: ·)

/-- The value of ASCII digits. -/
def digitsToNat (ds : List Char) : Nat := ds.foldl (fun n d => n * 10 + (d.toNat - 48)) 0

/-- Why a text is no whole number. -/
inductive IntegerFault
  | notNumeral
  /-- There are more than `integerDigitLimit` digits; what follows them is not looked at. -/
  | tooLong (digits : Nat)
  deriving DecidableEq, Repr

/-- Read a whole number. -/
def readInteger (s : String) : Except IntegerFault Int :=
  let (negative, body) := splitSign (numeralBody s)
  let isPart (c : Char) : Bool := c.isDigit || c == '_'
  match dropUnderscores? false (body.takeWhile isPart) with
  | none => .error .notNumeral
  | some ds =>
    if integerDigitLimit < ds.length then .error (.tooLong ds.length)
    else if ds.isEmpty || !body.all isPart then .error .notNumeral
    else
      let n : Int := digitsToNat ds
      .ok (if negative then -n else n)

/-- Read a whole number, if a text is one. -/
def readInteger? (s : String) : Option Int := (readInteger s).toOption

/-- Read the digits of a decimal numeral without sign: digits, perhaps a point and digits, at
least one digit in all, and perhaps an exponent. -/
def readUnsignedReal? (negative : Bool) (cs : List Char) : Option Binary64 :=
  let whole := cs.takeWhile Char.isDigit
  let rest := cs.dropWhile Char.isDigit
  let (fraction, rest) := match rest with
    | '.' :: rest => (rest.takeWhile Char.isDigit, rest.dropWhile Char.isDigit)
    | rest => ([], rest)
  if whole.isEmpty && fraction.isEmpty then none
  else
    let digits := digitsToNat (whole ++ fraction)
    let value (exponent : Int) := Binary64.ofDecimal negative digits (exponent - fraction.length)
    match rest with
    | [] => some (value 0)
    | c :: rest =>
      if c = 'e' ∨ c = 'E' then
        let (down, ds) := splitSign rest
        if ds.isEmpty || !ds.all Char.isDigit then none
        else
          let n : Int := digitsToNat ds
          some (value (if down then -n else n))
      else none

/-- Read a double: a decimal numeral, or a word for infinity or for no number. -/
def readReal? (s : String) : Option Binary64 :=
  match dropUnderscores? false (numeralBody s) with
  | none => none
  | some cs =>
    let (negative, body) := splitSign cs
    let word := String.ofList (body.map Char.toLower)
    if word = "inf" ∨ word = "infinity" then some (.infinite negative)
    else if word = "nan" then some .nan
    else readUnsignedReal? negative body

end RuleBound.Text
