/-! # Powers of two and ten

    The two scales of number text: doubles count in powers of two, and their digits
    in powers of ten.
-/

namespace Gleaner.Decimal

def twoTo (n : Nat) : Nat := Nat.pow 2 n

def tenTo (n : Nat) : Nat := Nat.pow 10 n

end Gleaner.Decimal
