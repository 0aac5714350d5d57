/-
This file writes numbers with a least count of digits.
-/

namespace HostTree.Decimal

/-- Zeros fill the width, and a longer number keeps all its digits. -/
def padded (width number : Nat) : String :=
  let digits := Nat.toDigits 10 number
  String.ofList (List.replicate (width - digits.length) '0' ++ digits)

end HostTree.Decimal
