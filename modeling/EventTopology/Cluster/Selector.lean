import EventTopology.Json.Shape
import EventTopology.Text.Blank
import EventTopology.Text.Split

/-
  This file defines label selectors: requirements on labels,
  written as terms `key` and `key=value` with commas between
  them.

  Key definitions include:
    * `Selector.Requirement`
    * `Selector.parse`
    * `Selector.Requirement.holds`
    * `Selector.selects`
-/

------------------------------------------------------------
-- Requirements
------------------------------------------------------------

namespace EventTopology

namespace Selector

/- What is required of labels. -/
inductive Requirement where
| present (key : String)
| equals (key value : String)
deriving DecidableEq, Repr

/- Read one term, which is not blank. -/
def requirementOf (term : String) : Requirement :=
  match Text.splitOnce '=' term with
  | none => .present term
  | some (key, value) =>
      .equals (Text.strip key) (Text.strip value)

/- The requirements of a selector; blank terms are none. -/
def parse (selector : String) : List Requirement :=
  (((Text.splitOn ',' selector).map Text.strip).filter
    fun term => term ≠ "").map requirementOf

end Selector

------------------------------------------------------------
-- Selecting
------------------------------------------------------------

namespace Selector

open Json (ShapeFault)

/- Does a requirement hold of untyped labels? -/
def Requirement.holds
    (labels : Json) :
    Requirement → Except ShapeFault Bool
| .present key => labels.contains key
| .equals key value => do
    let found ← labels.get key
    return found.isText value

/- Do all requirements hold?  The first that fails decides. -/
def allHold
    (labels : Json) :
    List Requirement → Except ShapeFault Bool
| [] => .ok true
| r :: rs => do
    if ← r.holds labels then allHold labels rs
    else return false

/- Does a selector select untyped labels? -/
def selects
    (selector : String)
    (labels : Json) : Except ShapeFault Bool :=
  allHold labels (parse selector)

end Selector

end EventTopology
