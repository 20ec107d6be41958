import EventTopology.Record.Check

/-
  This file defines the words in which faults of records are
  reported.

  Key definitions include:
    * `Record.FaultKind.code`
    * `Record.FaultKind.words`
    * `Record.Input.shown`
    * `Record.shorten`
    * `Record.report`
-/

------------------------------------------------------------
-- Words for Faults
------------------------------------------------------------

namespace EventTopology

namespace Record

namespace FaultKind

/- The code of a fault. -/
def code : FaultKind → String
| .missing => "missing"
| .notText => "string_type"
| .notMap => "dict_type"
| .notList => "list_type"
| .notRecord _ => "model_type"
| .fixed => "frozen_instance"
| .unreadableTruth => "bool_parsing"
| .notTruth => "bool_type"
| .unreadableWhole => "int_parsing"
| .notWhole => "int_type"
| .fraction => "int_from_float"
| .notFinite => "finite_number"
| .notChoice _ => "literal_error"
| .notSet => "frozen_set_type"

/- Choices in a row, the last one after `or`. -/
private def orList : List String → String
| [] => ""
| [c] => c
| [c, d] => c ++ " or " ++ d
| c :: cs => c ++ ", " ++ orList cs

/- What is expected instead, in words. -/
def words : FaultKind → String
| .missing => "Field required"
| .notText => "Input should be a valid string"
| .notMap => "Input should be a valid dictionary"
| .notList => "Input should be a valid list"
| .notRecord record =>
    "Input should be a valid dictionary or instance of " ++
      record
| .fixed => "Instance is frozen"
| .unreadableTruth =>
    "Input should be a valid boolean, " ++
      "unable to interpret input"
| .notTruth => "Input should be a valid boolean"
| .unreadableWhole =>
    "Input should be a valid integer, " ++
      "unable to parse string as an integer"
| .notWhole => "Input should be a valid integer"
| .fraction =>
    "Input should be a valid integer, " ++
      "got a number with a fractional part"
| .notFinite => "Input should be a finite number"
| .notChoice choices =>
    "Input should be " ++ orList (choices.map Text.quoted)
| .notSet => "Input should be a valid frozenset"

end FaultKind

end Record

------------------------------------------------------------
-- Values in Reports
------------------------------------------------------------

namespace Record

namespace Input

/- The sort of a value at fault. -/
def typeName : Input → String
| .value v => v.kind.typeName
| .entries _ => Json.Kind.typeName .obj

/- A value at fault, as reports show it. -/
def shown : Input → String
| .value v => v.described
| .entries es =>
    if ∀ e ∈ es, e.1.HasText ∧ e.2.HasText then
      "\x7b" ++
        ", ".intercalate
          (es.map fun e => e.1.shown ++ ": " ++ e.2.shown) ++
        "\x7d"
    else Json.unprintable .obj

end Input

/- The longest front of a text of at most `n` bytes. -/
def takeBytes : Nat → List Char → List Char
| _, [] => []
| n, c :: cs =>
    if c.utf8Size ≤ n then
      c :: takeBytes (n - c.utf8Size) cs
    else []

/- The longest end of a text of at most `n` bytes. -/
def takeEndBytes (n : Nat) (cs : List Char) : List Char :=
  (takeBytes n cs.reverse).reverse

/-
  A text of more than 50 bytes is cut to at most 25 bytes of
  its front and 24 of its end.
-/
def shorten (s : String) : String :=
  if s.utf8ByteSize ≤ 50 then s
  else
    String.ofList (takeBytes 25 s.toList) ++ "..." ++
      String.ofList (takeEndBytes 24 s.toList)

end Record

------------------------------------------------------------
-- Reports
------------------------------------------------------------

namespace Record

/- One step of a path; a name with a point is marked. -/
private def Step.text : Step → String
| .name s =>
    if s.toList.contains '.' then "\x60" ++ s ++ "\x60"
    else s
| .position n => toString n

/- The value at fault, in words. -/
private def foundWords : Option Input → String
| none => ""
| some found =>
    ", input_value=" ++ shorten found.shown ++
      ", input_type=" ++ found.typeName

/- The report on one fault. -/
private def Fault.report
    (helpPages : String)
    (f : Fault) : String :=
  let place :=
    if f.path.isEmpty then ""
    else "\n" ++ ".".intercalate (f.path.map Step.text)
  place ++ "\n  " ++ f.kind.words ++ " [type=" ++
    f.kind.code ++ foundWords f.found ++ "]\n" ++
    "    For further information visit " ++ helpPages ++
    f.kind.code

/-
  The report on all faults of a record.  Each names the page
  that explains it, under the address of the help pages.
-/
def report
    (helpPages record : String)
    (faults : List Fault) : String :=
  let n := faults.length
  toString n ++ " validation error" ++
    (if n = 1 then "" else "s") ++ " for " ++ record ++
    String.join (faults.map (Fault.report helpPages))

end Record

end EventTopology
