import RuleBound.Text.Hex

/-!
Base 64. Writing groups three bytes into four characters; the plain alphabet ends in `+` and `/`
and pads with `=`, the one for addresses ends in `-` and `_`.

Reading is lenient: characters outside the alphabet are skipped, and padding counts only where it
can complete a group of four; there it ends the text, whatever follows. What is left at the end
decides between success and the two defects.
-/

namespace RuleBound.Text

/-- The character of a value below 64 in the plain alphabet. -/
def base64Char (n : Nat) : Char :=
  if n < 26 then Char.ofNat (0x41 + n)
  else if n < 52 then Char.ofNat (0x61 + (n - 26))
  else if n < 62 then Char.ofNat (0x30 + (n - 52))
  else if n = 62 then '+'
  else '/'

/-- The value of a character of the plain alphabet. -/
def base64Value? (c : Char) : Option Nat :=
  let n := c.toNat
  if 0x41 ≤ n ∧ n ≤ 0x5a then some (n - 0x41)
  else if 0x61 ≤ n ∧ n ≤ 0x7a then some (n - 0x61 + 26)
  else if 0x30 ≤ n ∧ n ≤ 0x39 then some (n - 0x30 + 52)
  else if c = '+' then some 62
  else if c = '/' then some 63
  else none

/-- The groups of four values below 64 that hold the bytes, without padding. -/
def sextets : Bytes → List Nat
  | a :: b :: c :: rest =>
    let n := a.toNat * 65536 + b.toNat * 256 + c.toNat
    n / 262144 :: n / 4096 % 64 :: n / 64 % 64 :: n % 64 :: sextets rest
  | [a, b] =>
    let n := a.toNat * 65536 + b.toNat * 256
    [n / 262144, n / 4096 % 64, n / 64 % 64]
  | [a] =>
    let n := a.toNat * 65536
    [n / 262144, n / 4096 % 64]
  | [] => []

/-- Base 64 in the plain alphabet, padded to a multiple of four. -/
def toBase64 (bytes : Bytes) : String :=
  let body := (sextets bytes).map base64Char
  String.ofList (body ++ List.replicate ((4 - body.length % 4) % 4) '=')

/-- The address-safe spelling of a character of the plain alphabet. -/
def addressSafe (c : Char) : Char := if c = '+' then '-' else if c = '/' then '_' else c

/-- The plain spelling of a character of the address-safe alphabet. -/
def addressPlain (c : Char) : Char := if c = '-' then '+' else if c = '_' then '/' else c

/-- Base 64 in the address-safe alphabet, without padding. -/
def toBase64Url (bytes : Bytes) : String :=
  String.ofList ((sextets bytes).map fun n => addressSafe (base64Char n))

/-- Why a text is no base 64. -/
inductive Base64Defect
  /-- A character outside ASCII. -/
  | notAscii
  /-- One character is left over after whole groups; the number of data characters is kept. -/
  | lone (count : Nat)
  /-- Two or three characters are left over and not completed by padding. -/
  | padding
  deriving DecidableEq, Repr

/-- Where the reader stands: the values of the unfinished group, how much padding it has seen
since the last value, and the number of values in all. -/
structure Base64State where
  group : List Nat
  pads : Nat
  count : Nat

/-- The bytes that an unfinished group of two or three values already determines. -/
def groupBytes : List Nat → Bytes
  | [a, b] => [UInt8.ofNat (a * 4 + b / 16)]
  | [a, b, c] => [UInt8.ofNat (a * 4 + b / 16), UInt8.ofNat (b % 16 * 16 + c / 4)]
  | [a, b, c, d] =>
    [UInt8.ofNat (a * 4 + b / 16), UInt8.ofNat (b % 16 * 16 + c / 4), UInt8.ofNat (c % 4 * 64 + d)]
  | _ => []

/-- Read the rest of a text in the plain alphabet from a state. -/
def base64Read : Base64State → List Char → Except Base64Defect Bytes
  | st, [] =>
    match st.group with
    | [] => .ok []
    | [_] => .error (.lone st.count)
    | _ => .error .padding
  | st, c :: rest =>
    match base64Value? c with
    | some v =>
      let group := st.group ++ [v]
      if group.length = 4 then
        (base64Read ⟨[], 0, st.count + 1⟩ rest).map (groupBytes group ++ ·)
      else base64Read ⟨group, 0, st.count + 1⟩ rest
    | none =>
      if c = '=' then
        if 2 ≤ st.group.length ∧ 4 ≤ st.group.length + (st.pads + 1) then .ok (groupBytes st.group)
        else
          let pads := if 2 ≤ st.group.length then st.pads + 1 else st.pads
          base64Read { st with pads } rest
      else base64Read st rest

/-- Read base 64 in either alphabet: the text is padded to a multiple of four first, counting
every character, and the address-safe characters are taken for their plain spelling. -/
def fromBase64Url (s : String) : Except Base64Defect Bytes :=
  let cs := s.toList
  if cs.all fun c => c.toNat < 0x80 then
    base64Read ⟨[], 0, 0⟩ ((cs ++ List.replicate ((4 - cs.length % 4) % 4) '=').map addressPlain)
  else .error .notAscii

/-- The defect in words. -/
def Base64Defect.message : Base64Defect → String
  | .notAscii => "string argument should contain only ASCII characters"
  | .lone count =>
    s!"Invalid base64-encoded string: number of data characters ({count}) " ++
      "cannot be 1 more than a multiple of 4"
  | .padding => "Incorrect padding"

end RuleBound.Text
