import RuleBound.Bytes
import RuleBound.Text.Quoted

/-!
Bytes as pairs of hexadecimal digits. Writing uses lower case; reading takes either case and
allows ASCII blanks between bytes, never inside one.
-/

namespace RuleBound.Text

/-- The value of a hexadecimal digit of either case. -/
def hexValue? (c : Char) : Option Nat :=
  let n := c.toNat
  if 0x30 ≤ n ∧ n ≤ 0x39 then some (n - 0x30)
  else if 0x61 ≤ n ∧ n ≤ 0x66 then some (n - 0x61 + 10)
  else if 0x41 ≤ n ∧ n ≤ 0x46 then some (n - 0x41 + 10)
  else none

/-- Whether a character is a hexadecimal digit. -/
def isHexDigit (c : Char) : Bool := (hexValue? c).isSome

/-- The two digits of a byte. -/
def byteDigits (b : UInt8) : List Char := hexDigits 2 b.toNat

/-- Bytes written in lower-case hexadecimal. -/
def toHex (bytes : Bytes) : String := String.ofList (bytes.flatMap byteDigits)

/-- ASCII blanks, the only characters allowed between two written bytes. -/
def isAsciiBlank (c : Char) : Bool := c == ' ' || (0x09 ≤ c.toNat && c.toNat ≤ 0x0d)

/-- Read bytes from digits; `none` if a byte is incomplete or a character is no digit. -/
def hexChars? : List Char → Option Bytes
  | [] => some []
  | [c] => if isAsciiBlank c then some [] else none
  | c :: d :: rest =>
    if isAsciiBlank c then hexChars? (d :: rest)
    else
      match hexValue? c, hexValue? d with
      | some high, some low => (hexChars? rest).map (UInt8.ofNat (16 * high + low) :: ·)
      | _, _ => none

/-- Read bytes from hexadecimal text. -/
def fromHex? (s : String) : Option Bytes := hexChars? s.toList

end RuleBound.Text
