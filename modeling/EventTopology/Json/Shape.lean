import EventTopology.Json.Basic

/-
  This file defines how untyped values are looked into, and
  the faults that arise when a value has not the shape that
  is asked of it, or holds a number that has no text.

  Key definitions include:
    * `Json.ShapeFault`
    * `Json.ShapeFault.message`
    * `Json.firstFault`
    * `Json.members`
    * `Json.get?`
    * `Json.contains`
    * `Json.iterate`
    * `Json.pairs`
-/

------------------------------------------------------------
-- Shape Faults
------------------------------------------------------------

namespace EventTopology

namespace Json

/- A whole number of more digits than this has no text. -/
def digitLimit : Nat := 4300

/- The names of the sorts of values in messages. -/
def Kind.typeName : Kind → String
| .null => "NoneType"
| .bool => "bool"
| .int => "int"
| .float => "float"
| .str => "str"
| .arr => "list"
| .obj => "dict"

/- A value has not the shape that is asked of it. -/
inductive ShapeFault where
/- The value lacks an operation. -/
| noOperation (found : Kind) (operation : String)
/- Nothing can be sought in the value. -/
| notSearchable (found : Kind)
/- The value has no elements to walk over. -/
| notIterable (found : Kind)
/- The value has no parts under names. -/
| notNamed (found : Kind)
/- The element at a position is no pair at all. -/
| notPair (position : Nat)
/- The element at a position has not two parts. -/
| pairLength (position length : Nat)
/- The value cannot be a key. -/
| notKey (found : Kind)
/- A whole number has too many digits to be written. -/
| tooLong
/- A number that is not finite cannot be sent. -/
| notFinite
deriving DecidableEq, Repr

namespace ShapeFault

/- The three classes of shape faults. -/
inductive Class where
| operation
| type
| content
deriving DecidableEq, Repr

/- The class of a fault. -/
def cls : ShapeFault → Class
| .noOperation _ _ => .operation
| .pairLength _ _ => .content
| .tooLong => .content
| .notFinite => .content
| _ => .type

/- The class names of messages. -/
def Class.typeName : Class → String
| .operation => "AttributeError"
| .type => "TypeError"
| .content => "ValueError"

/- What is wrong, in words. -/
def message : ShapeFault → String
| .noOperation found operation =>
    "'" ++ found.typeName ++
      "' object has no attribute '" ++ operation ++ "'"
| .notSearchable found =>
    "argument of type '" ++ found.typeName ++
      "' is not iterable"
| .notIterable found =>
    "'" ++ found.typeName ++ "' object is not iterable"
| .notNamed .str =>
    "string indices must be integers, not 'str'"
| .notNamed .arr =>
    "list indices must be integers or slices, not str"
| .notNamed found =>
    "'" ++ found.typeName ++
      "' object is not subscriptable"
| .notPair position =>
    "cannot convert dictionary update sequence element #" ++
      toString position ++ " to a sequence"
| .pairLength position length =>
    "dictionary update sequence element #" ++
      toString position ++ " has length " ++
      toString length ++ "; 2 is required"
| .notKey found =>
    "unhashable type: '" ++ found.typeName ++ "'"
| .tooLong =>
    "Exceeds the limit (" ++ toString digitLimit ++
      " digits) for integer string conversion; use " ++
      "sys.set_int_max_str_digits() to increase the limit"
| .notFinite =>
    "Out of range float values are not JSON compliant"

end ShapeFault

end Json

------------------------------------------------------------
-- Faults of Parts
------------------------------------------------------------

namespace Json

variable (fault : Json → Option ShapeFault)

mutual

/-
  The first fault among the parts of a value that hold no
  others, given the fault of each.
-/
def firstFault : Json → Option ShapeFault
| .arr es => elementsFault es
| .obj ms => membersFault ms
| v => fault v

/- The first fault among the parts of elements. -/
def elementsFault : List Json → Option ShapeFault
| [] => none
| e :: es => (firstFault e).or (elementsFault es)

/- The first fault among the parts of members. -/
def membersFault : List (String × Json) → Option ShapeFault
| [] => none
| (_, v) :: ms => (firstFault v).or (membersFault ms)

end

end Json

------------------------------------------------------------
-- Looking into Objects
------------------------------------------------------------

namespace Json

/- The members of an object, for an operation on it. -/
def members
    (operation : String)
    (v : Json) : Except ShapeFault Members :=
  match v with
  | .obj ms => .ok ms
  | v => .error (.noOperation v.kind operation)

/- The value under a name, if it is there. -/
def get?
    (v : Json)
    (name : String) : Except ShapeFault (Option Json) :=
  (v.members "get").map (Table.lookup name)

/- The value under a name, or null. -/
def get
    (v : Json)
    (name : String) : Except ShapeFault Json :=
  (v.members "get").map (find name)

/- The value under a name, or the empty text. -/
def getText
    (v : Json)
    (name : String) : Except ShapeFault Json :=
  (v.get? name).map (·.getD (.str ""))

/- The value under a name that is known to be there. -/
def part
    (v : Json)
    (name : String) : Except ShapeFault Json :=
  match v with
  | .obj ms => .ok (find name ms)
  | v => .error (.notNamed v.kind)

end Json

------------------------------------------------------------
-- Looking into Other Values
------------------------------------------------------------

namespace Json

/- Does a text occur in another? -/
def occursIn (needle : List Char) : List Char → Bool
| [] => needle.isEmpty
| c :: cs =>
    needle.isPrefixOf (c :: cs) || occursIn needle cs

/-
  Is a text part of a value: of a text, among the elements
  of an array, or a name of an object?
-/
def contains
    (v : Json)
    (s : String) : Except ShapeFault Bool :=
  match v with
  | .str t => .ok (occursIn s.toList t.toList)
  | .arr es => .ok (es.any (·.isText s))
  | .obj ms => .ok (Table.has s ms)
  | v => .error (.notSearchable v.kind)

/-
  What a value is walked over by: elements of an array,
  names of an object, characters of a text.
-/
def elements? : Json → Option (List Json)
| .arr es => some es
| .obj ms => some (ms.map fun m => .str m.1)
| .str s => some (s.toList.map fun c => .str c.toString)
| _ => none

/- The elements of a value that is walked over. -/
def iterate (v : Json) : Except ShapeFault (List Json) :=
  match v.elements? with
  | some es => .ok es
  | none => .error (.notIterable v.kind)

end Json

------------------------------------------------------------
-- Values as Maps
------------------------------------------------------------

namespace Json

/- The entries of a map whose keys need not be texts. -/
abbrev Entries := List (Json × Json)

/-
  Give a key a value.  A key that is there already keeps its
  place and its form.
-/
def insertEntry
    (key v : Json) : Entries → Entries
| [] => [(key, v)]
| (k, w) :: es =>
    if sameKey k key then (k, v) :: es
    else (k, w) :: insertEntry key v es

/- Read one element as a pair and add it to a map. -/
def addPair
    (entries : Entries)
    (e : Json × Nat) : Except ShapeFault Entries :=
  match e.1.elements? with
  | none => .error (.notPair e.2)
  | some [key, v] =>
      if key.isKey then .ok (insertEntry key v entries)
      else .error (.notKey key.kind)
  | some es => .error (.pairLength e.2 es.length)

/-
  A value as a map: an object as it is, anything else that
  is walked over as a row of pairs, of which the last with a
  key wins.
-/
def pairs : Json → Except ShapeFault Entries
| .obj ms => .ok (ms.map fun m => (.str m.1, m.2))
| v => do
    let es ← v.iterate
    es.zipIdx.foldlM addPair []

end Json

end EventTopology
