import RuleBound.Fault

/-!
Comparison of written digests. Only ASCII texts can be compared; anything else has the wrong type.
-/

namespace RuleBound

/-- Whether a text is ASCII. -/
def Text.isAscii (s : String) : Bool := s.toList.all fun c => c.toNat < 0x80

/-- Whether two written digests are the same. -/
def sameDigest (a b : String) : Except Fault Bool :=
  if Text.isAscii a && Text.isAscii b then .ok (a == b) else .error .wrongType

end RuleBound
