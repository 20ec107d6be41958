import EventTopology.Decimal.Binary64
import EventTopology.Text.Blank
import EventTopology.Text.Digit
import EventTopology.Text.Split

/-
  This file defines how a text is read as a double.  Blanks
  around it are ignored, digits of any script count, and
  single underscores may stand between digits.

  Key definitions include:
    * `Decimal.joined`
    * `Decimal.readUnsigned`
    * `Decimal.read?`
-/

------------------------------------------------------------
-- Digits
------------------------------------------------------------

namespace EventTopology

namespace Decimal

/- A digit of any script as an ASCII digit. -/
def plainDigit (c : Char) : Char :=
  match Text.digitValue? c with
  | some n => Char.ofNat ('0'.toNat + n)
  | none => c

/-
  The text without underscores, each of which must stand
  between two digits.
-/
def joined (afterDigit : Bool) :
    List Char → Option (List Char)
| [] => some []
| ['_'] => none
| '_' :: c :: cs =>
    if afterDigit && c.isDigit then
      (joined true cs).map (c :: ·)
    else none
| c :: cs => (joined c.isDigit cs).map (c :: ·)

/- The whole number that ASCII digits spell. -/
def naturalOf (ds : List Char) : Nat :=
  ds.foldl (fun n c => 10 * n + (c.toNat - '0'.toNat)) 0

/- A sign at the front: is it a minus, and what follows? -/
def sign : List Char → Bool × List Char
| '-' :: cs => (true, cs)
| '+' :: cs => (false, cs)
| cs => (false, cs)

end Decimal

------------------------------------------------------------
-- Numbers
------------------------------------------------------------

namespace Decimal

/- An exponent, which must end the text. -/
def exponent? : List Char → Option Int
| [] => some 0
| c :: cs =>
    if c = 'e' ∨ c = 'E' then
      let (negative, ds) := sign cs
      if ds.isEmpty || !ds.all (·.isDigit) then none
      else
        let e : Int := naturalOf ds
        some (if negative then -e else e)
    else none

/- A point and the digits after it, and what follows. -/
def places : List Char → List Char × List Char
| '.' :: cs => cs.span (·.isDigit)
| cs => ([], cs)

/- A number of digits, with a point or an exponent or not. -/
def number?
    (negative : Bool)
    (cs : List Char) : Option Float :=
  let (whole, rest) := cs.span (·.isDigit)
  let (ps, rest) := places rest
  if whole.isEmpty && ps.isEmpty then none
  else
    (exponent? rest).map fun e =>
      ofScientific negative (naturalOf (whole ++ ps))
        (e - ps.length)

/- Infinity, with its sign. -/
def infinity (negative : Bool) : Float :=
  if negative then -1.0 / 0.0 else 1.0 / 0.0

/- A number or the name of what is no number. -/
def readUnsigned
    (negative : Bool)
    (cs : List Char) : Option Float :=
  match Text.lowerAscii (String.ofList cs) with
  | "inf" | "infinity" => some (infinity negative)
  | "nan" => some (0.0 / 0.0)
  | _ => number? negative cs

/- The double that a text spells. -/
def read? (s : String) : Option Float := do
  let cs := (Text.strip s).toList.map plainDigit
  let (negative, rest) := sign (← joined false cs)
  readUnsigned negative rest

end Decimal

end EventTopology
