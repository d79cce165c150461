/-!
Lone surrogates. Half of a surrogate pair is no character, but an escape can name one. It is kept
in a text as a stand-in, a private character of the last plane with the same lower digits, which
has no bytes.
-/

namespace RuleBound.Text

/-- How far the stand-in of a surrogate lies above it. -/
def standInShift : Nat := 0x100000

/-- The stand-in of a surrogate. -/
def standIn (unit : Nat) : Char := Char.ofNat (standInShift + unit)

/-- The surrogate that a character stands in for. -/
def surrogate? (c : Char) : Option Nat :=
  if standInShift + 0xd800 ≤ c.toNat ∧ c.toNat < standInShift + 0xe000 then
    some (c.toNat - standInShift)
  else none

/-- Whether a character stands in for a surrogate. -/
def isStandIn (c : Char) : Bool := (surrogate? c).isSome

end RuleBound.Text
