import EventTopology.Decimal.Binary64

/-
  This file defines the text of a double: the fewest decimal
  digits that read back as the same double and, of those,
  the ones nearest to it.

  Key definitions include:
    * `Decimal.Digits`
    * `Decimal.shortest`
    * `Decimal.text`
-/

------------------------------------------------------------
-- The Shortest Decimal
------------------------------------------------------------

namespace EventTopology

namespace Decimal

/- The decimal number `coefficient * 10 ^ exponent`. -/
structure Digits where
  coefficient : Nat
  exponent : Int
deriving DecidableEq, Repr

/-
  The reals that round to `m * 2 ^ q`, scaled by `2 ^ (2 - q)`
  so that value and ends are whole: the value is `4 * m`.
  The ends belong to the interval when `m` is even.
-/
private structure Interval where
  low : Nat
  value : Nat
  high : Nat
  closed : Bool

/-
  Half a unit on each side.  Below a power of two the lower
  neighbour is only half as far away.
-/
private def Interval.around (m : Nat) (q : Int) : Interval where
  low :=
    if m = Nat.pow 2 52 && -1074 < q then 4 * m - 1
    else 4 * m - 2
  value := 4 * m
  high := 4 * m + 2
  closed := m % 2 = 0

/- Is `a * 10 ^ e` inside the interval of scale `2 ^ q`? -/
private def Interval.holds
    (i : Interval)
    (q : Int)
    (a : Nat)
    (e : Int) : Bool :=
  -- Compare `a * 10 ^ e` with `end * 2 ^ (q - 2)`.
  let s := q - 2
  let left :=
    a * Nat.pow 10 e.toNat * Nat.pow 2 (-s).toNat
  let unit := Nat.pow 10 (-e).toNat * Nat.pow 2 s.toNat
  if i.closed then
    i.low * unit ≤ left && left ≤ i.high * unit
  else
    i.low * unit < left && left < i.high * unit

/- The whole part of `m * 2 ^ q / 10 ^ e`, and its rest. -/
private def onGrid
    (m : Nat)
    (q e : Int) : Nat × Nat × Nat :=
  let num := m * Nat.pow 2 q.toNat * Nat.pow 10 (-e).toNat
  let den := Nat.pow 10 e.toNat * Nat.pow 2 (-q).toNat
  (num / den, num % den, den)

/-
  The best decimal with exponent `e`: of the two neighbours
  of the value on that grid, the nearer one that reads back.
-/
private def onGrid?
    (m : Nat)
    (q e : Int) : Option Nat :=
  let (below, rest, unit) := onGrid m q e
  let above := below + 1
  let i := Interval.around m q
  let lowFits := i.holds q below e
  let highFits := rest ≠ 0 && i.holds q above e
  match lowFits, highFits with
  | true, true =>
      if 2 * rest < unit then some below
      else if unit < 2 * rest then some above
      else if below % 2 = 0 then some below
      else some above
  | true, false => some below
  | false, true => some above
  | false, false => none

/-
  Try ever finer grids.  Seventeen digits always suffice, so
  the search ends with a hit.
-/
private def searchGrid
    (m : Nat)
    (q : Int) : Nat → Int → Digits
| 0, e => ⟨(onGrid m q e).1, e⟩
| n + 1, e =>
    match onGrid? m q e with
    | some a => ⟨a, e⟩
    | none => searchGrid m q n (e - 1)

/- Drop the zeros at the end of a coefficient. -/
private def dropZeros : Nat → Digits → Digits
| 0, d => d
| n + 1, d =>
    if d.coefficient ≠ 0 && d.coefficient % 10 = 0 then
      dropZeros n ⟨d.coefficient / 10, d.exponent + 1⟩
    else d

/-
  The shortest decimal that reads back as `m * 2 ^ q`.  The
  search starts at a grid coarser than the value.
-/
def shortest (m : Nat) (q : Int) : Digits :=
  if m = 0 then ⟨0, 0⟩
  else
    let bits : Int := Nat.log2 m + q
    let start : Int := (bits + 1) * 30103 / 100000 + 1
    dropZeros 20 (searchGrid m q 24 start)

end Decimal

------------------------------------------------------------
-- Decimal Text
------------------------------------------------------------

namespace Decimal

/- The digits of a whole number in base ten. -/
def digits (n : Nat) : List Char :=
  Nat.toDigits 10 n

/- A decimal written with a point and at least one place. -/
private def positional
    (ds : List Char)
    (point : Int) : List Char :=
  if point ≤ 0 then
    '0' :: '.' :: (List.replicate (-point).toNat '0' ++ ds)
  else
    let n := point.toNat
    let whole := ds.take n ++
      List.replicate (n - ds.length) '0'
    let places := ds.drop n
    whole ++ '.' :: (if places.isEmpty then ['0'] else places)

/- A decimal written as one digit, places and an exponent. -/
private def scientific
    (ds : List Char)
    (point : Int) : List Char :=
  let e := point - 1
  let mark := if e < 0 then '-' else '+'
  let ed := digits e.natAbs
  let padded := if ed.length < 2 then '0' :: ed else ed
  let mantissa :=
    match ds with
    | [] => ['0']
    | [d] => [d]
    | d :: rest => d :: '.' :: rest
  mantissa ++ 'e' :: mark :: padded

/-
  The text of a double.  The point is written where it
  stands when the leading digit's place is between `10 ^ -4`
  and `10 ^ 15`; outside that range an exponent of at least
  two digits is used.
-/
def text (x : Float) : String :=
  let sign := if isNegative x then ['-'] else []
  match decode x with
  | .notANumber => "nan"
  | .infinite => String.ofList (sign ++ "inf".toList)
  | .finite m q =>
      let d := shortest m q
      let ds := digits d.coefficient
      let point : Int := ds.length + d.exponent
      let body :=
        if m = 0 then "0.0".toList
        else if -3 ≤ point && point ≤ 16 then
          positional ds point
        else scientific ds point
      String.ofList (sign ++ body)

end Decimal

------------------------------------------------------------
-- Rounding to Decimal Places
------------------------------------------------------------

namespace Decimal

/-
  Round the exact value of a double to two decimal places,
  ties going to the even neighbour, and read the result back
  as a double.  Infinities and doubles without a fraction
  are unchanged.
-/
def roundPlaces (x : Float) : Float :=
  match decode x with
  | .finite m q =>
      if 0 ≤ q then x
      else
        ofScientific (isNegative x)
          (roundDiv (m * 100) (Nat.pow 2 q.natAbs)) (-2)
  | _ => x

end Decimal

end EventTopology
