import EventTopology.Decimal.Rounding

/-
  This file relates double precision numbers to exact whole
  numbers: `decode` reads a double as `m * 2 ^ q`, and
  `nearest` rounds a quotient of whole numbers to a double.

  Key definitions include:
    * `Decimal.Magnitude`
    * `Decimal.decode`
    * `Decimal.nearest`
    * `Decimal.ofInt`
    * `Decimal.ofScientific`
-/

------------------------------------------------------------
-- Reading a Double Exactly
------------------------------------------------------------

namespace EventTopology

namespace Decimal

/- What a double stands for, its sign apart. -/
inductive Magnitude where
/- The number `m * 2 ^ q`. -/
| finite (m : Nat) (q : Int)
| infinite
| notANumber
deriving DecidableEq, Repr

/- The sign bit of a double. -/
def isNegative (x : Float) : Bool :=
  x.toBits.toNat / Nat.pow 2 63 = 1

/- Read the exponent and fraction bits of a double. -/
def decode (x : Float) : Magnitude :=
  let bits := x.toBits.toNat
  let exponent : Nat := bits / Nat.pow 2 52 % Nat.pow 2 11
  let fraction : Nat := bits % Nat.pow 2 52
  if exponent = 2047 then
    if fraction = 0 then .infinite else .notANumber
  else if exponent = 0 then
    .finite fraction (-1074)
  else
    .finite (Nat.pow 2 52 + fraction)
      ((exponent : Int) - 1075)

end Decimal

------------------------------------------------------------
-- Rounding to a Double
------------------------------------------------------------

namespace Decimal

/- The double with the given sign and remaining bits. -/
private def withSign
    (negative : Bool)
    (bits : Nat) : Float :=
  Float.ofBits
    (UInt64.ofNat
      (if negative then Nat.pow 2 63 + bits else bits))

/- The quotient `num / den` in units of `2 ^ q`, rounded. -/
private def inUnits (num den : Nat) (q : Int) : Nat :=
  if q < 0 then roundDiv (num * Nat.pow 2 q.natAbs) den
  else roundDiv num (den * Nat.pow 2 q.natAbs)

/- Is `num / den` below `2 ^ 53` units of `2 ^ q`? -/
private def fitsUnit (num den : Nat) (q : Int) : Bool :=
  if q < 0 then
    num * Nat.pow 2 q.natAbs < Nat.pow 2 53 * den
  else num < Nat.pow 2 53 * (den * Nat.pow 2 q.natAbs)

/-
  The double nearest to `num / den`, ties going to the even
  one.  A quotient beyond the range becomes infinite.

  The unit is the finest one in which the quotient has at
  most 53 bits.  Adding the rounded count to the shifted
  exponent carries into the exponent when rounding reaches
  `2 ^ 53`, and leaves the exponent of a subnormal count at
  zero.
-/
def nearest
    (negative : Bool)
    (num den : Nat) : Float :=
  if num = 0 then withSign negative 0
  else
    let fine : Int :=
      (Nat.log2 num : Int) - (Nat.log2 den : Int) - 53
    let q : Int :=
      max (-1074) (if fitsUnit num den fine then fine
        else fine + 1)
    let bits :=
      (q + 1074).toNat * Nat.pow 2 52 + inUnits num den q
    withSign negative (min bits (2047 * Nat.pow 2 52))

/- The double nearest to a whole number. -/
def ofInt (n : Int) : Float :=
  nearest (n < 0) n.natAbs 1

/-
  The double nearest to `m * 10 ^ e`.  Exponents far outside
  the range are decided without computing the power.
-/
def ofScientific
    (negative : Bool)
    (m : Nat)
    (e : Int) : Float :=
  let digits : Int := (Nat.log2 m / 3 + 1 : Nat)
  if m = 0 || digits + e < -400 then
    withSign negative 0
  else if 400 < e then
    withSign negative (2047 * Nat.pow 2 52)
  else if e < 0 then
    nearest negative m (Nat.pow 10 e.natAbs)
  else
    nearest negative (m * Nat.pow 10 e.natAbs) 1

end Decimal

end EventTopology
