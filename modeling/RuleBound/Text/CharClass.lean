import RuleBound.Text.Blank
import RuleBound.Text.DecimalDigit
import RuleBound.Text.LetterCase
import RuleBound.Text.WordTable

/-!
Classes of characters as patterns name them: ranges, digits, word characters and blanks, what is
not in a class, and what is in one of several.

A range may disregard case, either that of the ASCII letters alone or that of all scripts. In all
scripts two characters are kin if their lower cases are the same or belong to one family: letters
that share their upper case, such as the two lower-case sigmas.
-/

namespace RuleBound.Text

/-- How far case is disregarded. -/
inductive Folding
  | none
  | ascii
  | all
  deriving DecidableEq, Repr

/-- Lower-case characters that differ but share their upper case. -/
def caseFamilies : List (List Nat) := [
  [0x69, 0x131], [0x73, 0x17f], [0xb5, 0x3bc], [0x345, 0x3b9, 0x1fbe], [0x390, 0x1fd3],
  [0x3b0, 0x1fe3], [0x3b2, 0x3d0], [0x3b5, 0x3f5], [0x3b8, 0x3d1], [0x3ba, 0x3f0],
  [0x3c0, 0x3d6], [0x3c1, 0x3f1], [0x3c2, 0x3c3], [0x3c6, 0x3d5], [0x432, 0x1c80],
  [0x434, 0x1c81], [0x43e, 0x1c82], [0x441, 0x1c83], [0x442, 0x1c84, 0x1c85], [0x44a, 0x1c86],
  [0x463, 0x1c87], [0x1c88, 0xa64b], [0x1e61, 0x1e9b], [0xfb05, 0xfb06]]

/-- The first character of a character's lower case. -/
def lowerHead (c : Char) : Char := (lowerChar c).headD c

/-- The characters whose lower case begins with a character. -/
def lowerSources (c : Char) : List Char :=
  let moved := lowerRuns.filterMap fun run =>
    let code := ((c.toNat : Int) - run.shift).toNat
    if run.holds code then some (Char.ofNat code) else none
  let special := lowerSpecial.filterMap fun entry =>
    if entry.2.head? = some c.toNat then some (Char.ofNat entry.1) else none
  (c :: c.toUpper :: moved ++ special).filter fun x => lowerHead x == c

/-- The characters that differ from a character in case only. -/
def kin (c : Char) : List Char :=
  let small := lowerHead c
  let family := ((caseFamilies.find? fun f => f.contains small.toNat).map
    fun f => f.map Char.ofNat).getD [small]
  family.flatMap lowerSources

/-- A class of characters. -/
inductive CharClass
  /-- The characters between two code points, or those that differ from one in case only. -/
  | range (first last : Nat) (folding : Folding)
  /-- The digits of all scripts, or those of ASCII alone; likewise below. -/
  | digit (ascii : Bool)
  | word (ascii : Bool)
  | blank (ascii : Bool)
  | any
  /-- Every character but the line feed. -/
  | visible
  | negated (inner : CharClass)
  | union (parts : List CharClass)
  deriving Inhabited

namespace CharClass

/-- Whether a code point lies between two others. -/
def between (first last : Nat) (c : Char) : Bool := first ≤ c.toNat && c.toNat ≤ last

/-- Whether a character is a letter, a number or an underscore. -/
def isWordChar (ascii : Bool) (c : Char) : Bool :=
  c == '_' || (if ascii then c.isAlphanum else isLetterOrNumber c)

/-- Whether a character is a digit. -/
def isDigitChar (ascii : Bool) (c : Char) : Bool :=
  if ascii then c.isDigit else (decimalDigit? c).isSome

/-- Whether a character is a blank. -/
def isBlankChar (ascii : Bool) (c : Char) : Bool :=
  if ascii then c == ' ' || between 0x09 0x0d c else isBlank c

mutual
/-- Whether a character belongs to a class. -/
def holds : CharClass → Char → Bool
  | range first last .none, c => between first last c
  | range first last .ascii, c => [c, c.toLower, c.toUpper].any (between first last)
  | range first last .all, c => (kin c).any (between first last)
  | digit ascii, c => isDigitChar ascii c
  | word ascii, c => isWordChar ascii c
  | blank ascii, c => isBlankChar ascii c
  | any, _ => true
  | visible, c => c != '\n'
  | negated inner, c => !holds inner c
  | union parts, c => anyHolds parts c

/-- Whether a character belongs to one of several classes. -/
def anyHolds : List CharClass → Char → Bool
  | [], _ => false
  | part :: rest, c => holds part c || anyHolds rest c
end

/-- The class of a single code point. -/
def single (code : Nat) (folding : Folding) : CharClass := range code code folding

end CharClass

end RuleBound.Text
