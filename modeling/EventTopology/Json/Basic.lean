import EventTopology.Decimal.Shortest
import EventTopology.Table

/-
  This file defines JSON values and their core operations.
  The members of an object keep the order in which their
  names first occurred.

  Key definitions include:
    * `Json`
    * `Json.truthy`
    * `Json.ofMembers`
    * `Json.find`
    * `Json.Kind`
    * `Json.sameKey`
-/

------------------------------------------------------------
-- Values
------------------------------------------------------------

namespace EventTopology

/- A JSON value.  Whole numbers are unbounded. -/
inductive Json where
| null
| bool (b : Bool)
| int (n : Int)
| float (x : Float)
| str (s : String)
| arr (elements : List Json)
| obj (members : List (String × Json))
deriving Inhabited

namespace Json

/- The members of an object, in order. -/
abbrev Members := Table Json

/- What sort of value a JSON value is. -/
inductive Kind where
| null
| bool
| int
| float
| str
| arr
| obj
deriving DecidableEq, Repr

/- The sort of a value. -/
def kind : Json → Kind
| .null => .null
| .bool _ => .bool
| .int _ => .int
| .float _ => .float
| .str _ => .str
| .arr _ => .arr
| .obj _ => .obj

/-
  False are null, false, zero, and empty texts, arrays and
  objects.  All else is true.
-/
def truthy : Json → Bool
| .null => false
| .bool b => b
| .int n => n ≠ 0
| .float x => x != 0.0
| .str s => s ≠ ""
| .arr es => !es.isEmpty
| .obj ms => !ms.isEmpty

/- A value, or an empty object in place of a false one. -/
def orEmpty (v : Json) : Json :=
  if v.truthy then v else .obj []

/- The first value if it is true, else the second. -/
def orElse (v w : Json) : Json :=
  if v.truthy then v else w

/- Is the value this text? -/
def isText (v : Json) (s : String) : Bool :=
  match v with
  | .str t => t = s
  | _ => false

/- Is the value null or the empty text? -/
def isUnset : Json → Bool
| .null => true
| .str s => s = ""
| _ => false

/- A text, or null where there is none. -/
def ofText? : Option String → Json
| none => .null
| some s => .str s

/- An array of texts. -/
def ofTexts (ss : List String) : Json :=
  .arr (ss.map .str)

end Json

------------------------------------------------------------
-- Members of Objects
------------------------------------------------------------

namespace Json

/- Members in which a repeated name keeps its last value. -/
def ofMembers (ms : Members) : Members :=
  Table.ofList ms

/- The value of a name, or null. -/
def find (name : String) (ms : Members) : Json :=
  (Table.lookup name ms).getD .null

end Json

------------------------------------------------------------
-- Values as Keys
------------------------------------------------------------

namespace Json

/- The whole number that a number or truth value equals. -/
def whole? : Json → Option Int
| .bool b => some (if b then 1 else 0)
| .int n => some n
| .float x =>
    match Decimal.decode x with
    | .finite m q =>
        let signed (n : Nat) : Int :=
          if Decimal.isNegative x then -(n : Int) else n
        if 0 ≤ q then some (signed (m * Nat.pow 2 q.natAbs))
        else if m % Nat.pow 2 q.natAbs = 0 then
          some (signed (m / Nat.pow 2 q.natAbs))
        else none
    | _ => none
| _ => none

/-
  Are two values one key?  Numbers and truth values are
  compared by what they amount to, texts as they are.
  Arrays and objects are no keys.
-/
def sameKey (v w : Json) : Bool :=
  match v, w with
  | .null, .null => true
  | .str s, .str t => s = t
  | .float x, .float y => x == y
  | _, _ =>
      match v.whole?, w.whole? with
      | some m, some n => m = n
      | _, _ => false

/- Can the value be a key? -/
def isKey : Json → Bool
| .arr _ => false
| .obj _ => false
| _ => true

end Json

end EventTopology
