import EventTopology.Json.Basic
import EventTopology.Text.Quoted

/-
  This file defines the written form of JSON values: no
  blanks, members in order, quotes, backslashes and control
  characters escaped, everything else as it is.

  Key definitions include:
    * `Json.escapeText`
    * `Json.writeText`
    * `Json.write`
-/

------------------------------------------------------------
-- Writing Texts
------------------------------------------------------------

namespace EventTopology

namespace Json

/- One character inside quotes. -/
def escapeText (c : Char) : List Char :=
  if c = '"' ∨ c = '\\' then ['\\', c]
  else if c.toNat < 0x20 then
    '\\' :: 'u' :: Text.hexDigits 4 c.toNat
  else [c]

/- A text between quotes. -/
def writeText (s : String) : List Char :=
  '"' :: s.toList.flatMap escapeText ++ ['"']

end Json

------------------------------------------------------------
-- Writing Values
------------------------------------------------------------

namespace Json

/- Parts with commas between them. -/
private def commaJoin : List (List Char) → List Char
| [] => []
| [p] => p
| p :: ps => p ++ ',' :: commaJoin ps

mutual

/- The written form of a value. -/
def writeChars : Json → List Char
| .null => "null".toList
| .bool b => if b then "true".toList else "false".toList
| .int n => (toString n).toList
| .float x => (Decimal.text x).toList
| .str s => writeText s
| .arr es => '[' :: commaJoin (writeElements es) ++ [']']
| .obj ms =>
    '\x7b' :: commaJoin (writeMembers ms) ++ ['\x7d']

/- The written forms of an array's elements. -/
def writeElements : List Json → List (List Char)
| [] => []
| e :: es => e.writeChars :: writeElements es

/- The written forms of an object's members. -/
def writeMembers :
    List (String × Json) → List (List Char)
| [] => []
| (k, v) :: ms =>
    (writeText k ++ ':' :: v.writeChars) :: writeMembers ms

end

/- The written form of a value, as a text. -/
def write (v : Json) : String :=
  String.ofList v.writeChars

end Json

end EventTopology
