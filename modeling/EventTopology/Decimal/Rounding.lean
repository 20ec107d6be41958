/-
  This file defines rounding of a quotient to the nearest
  whole number, exact ties going to the even neighbour.

  Key definitions include:
    * `Decimal.roundDiv`
-/

------------------------------------------------------------
-- Rounding a Quotient
------------------------------------------------------------

namespace EventTopology

namespace Decimal

/-
  The whole number nearest to `num / den`.  A quotient
  halfway between two whole numbers goes to the even one.
-/
def roundDiv (num den : Nat) : Nat :=
  let q := num / den
  let twice := 2 * (num % den)
  if twice < den then q
  else if den < twice then q + 1
  else if q % 2 = 0 then q
  else q + 1

end Decimal

end EventTopology
