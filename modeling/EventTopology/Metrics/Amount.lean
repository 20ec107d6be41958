import EventTopology.Decimal.Reading
import EventTopology.Failure

/-
  This file defines the amounts that are measured, and which
  JSON values are amounts.

  Key definitions include:
    * `Amount`
    * `Amount.toFloat`
    * `Amount.ofValue`
    * `Amount.ofNumber`
-/

------------------------------------------------------------
-- Amounts
------------------------------------------------------------

namespace EventTopology

/- A measured amount. -/
inductive Amount where
| whole (n : Int)
| real (x : Float)

namespace Amount

/- The double nearest to an amount. -/
def toFloat : Amount → Float
| .whole n => Decimal.ofInt n
| .real x => x

/- The text of an amount, which is that of a double. -/
def text (a : Amount) : String :=
  Decimal.text a.toFloat

end Amount

------------------------------------------------------------
-- Reading Amounts
------------------------------------------------------------

namespace Amount

/- A whole number, unless it is beyond all doubles. -/
def ofInt (n : Int) : Except Failure Amount :=
  match Decimal.decode (Decimal.ofInt n) with
  | .finite _ _ => .ok (.whole n)
  | _ => .error (.tooLarge "int too large to convert to float")

/- The amount that a number is. -/
def ofNumber (what : String) : Json → Except Failure Amount
| .bool b => .ok (.whole (if b then 1 else 0))
| .int n => ofInt n
| .float x => .ok (.real x)
| v =>
    .error (.arguments
      (what ++ ", not '" ++ v.kind.typeName ++ "'"))

/- The amount that a number is or a text spells. -/
def ofValue : Json → Except Failure Amount
| .str s =>
    match Decimal.read? s with
    | some x => .ok (.real x)
    | none =>
        .error (.notNumber
          ("could not convert string to float: " ++
            Text.quoted s))
| v =>
    ofNumber
      "float() argument must be a string or a real number"
      v

end Amount

end EventTopology
