import RuleBound.Text.Blank

/-!
The shape of written digests and nonces: a fixed number of lower-case hexadecimal digits.
-/

namespace RuleBound.Text

/-- Whether a character is a lower-case hexadecimal digit. -/
def isLowerHex (c : Char) : Bool :=
  (0x30 ≤ c.toNat && c.toNat ≤ 0x39) || (0x61 ≤ c.toNat && c.toNat ≤ 0x66)

/-- Characters without one final line feed. -/
def dropFinalNewline (cs : List Char) : List Char :=
  if cs.getLast? = some '\n' then cs.dropLast else cs

/-- Whether a text is `count` lower-case hexadecimal digits, perhaps followed by a line feed: the
end of a line counts as the end of the text. -/
def isHexText (count : Nat) (s : String) : Bool :=
  let cs := s.toList
  let body := if cs.length = count then cs else dropFinalNewline cs
  body.length == count && body.all isLowerHex

/-- Whether a text has the shape of a digest. -/
def isDigest (s : String) : Bool := isHexText 64 s

end RuleBound.Text
