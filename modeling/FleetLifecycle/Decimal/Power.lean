/-!
# Powers of two and of ten

1. `twoTo` and `tenTo`;
2. `signedBound` and `unsignedBound`, the numbers that 64 bits do not reach.
-/

namespace FleetLifecycle

def twoTo (n : Nat) : Nat := Nat.pow 2 n

def tenTo (n : Nat) : Nat := Nat.pow 10 n

/-- The least natural number that 64 bits with a sign do not hold. -/
def signedBound : Nat := twoTo 63

/-- The least natural number that 64 bits do not hold. -/
def unsignedBound : Nat := twoTo 64

end FleetLifecycle
