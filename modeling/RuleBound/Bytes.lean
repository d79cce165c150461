/-!
Bytes and the numbers that they write, high byte first.
-/

namespace RuleBound

/-- A sequence of bytes. -/
abbrev Bytes := List UInt8

/-- The low `width` bytes of a number, high byte first. -/
def bytesOfNat : (width : Nat) → Nat → Bytes
  | 0, _ => []
  | width + 1, n => bytesOfNat width (n / 256) ++ [UInt8.ofNat (n % 256)]

/-- Bytes as a number, high byte first. -/
def natOfBytes (bytes : Bytes) : Nat := bytes.foldl (fun n b => n * 256 + b.toNat) 0

end RuleBound
