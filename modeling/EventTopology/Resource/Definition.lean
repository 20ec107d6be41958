import EventTopology.Resource.Conversion

/-
  This file defines how a schema definition gives the
  coordinates of the kind that it defines.

  Key definitions include:
    * `Definition.servedName?`
    * `Definition.report`
    * `Definition.servedVersion`
    * `Definition.coordinates`
-/

------------------------------------------------------------
-- Versions
------------------------------------------------------------

namespace EventTopology

namespace Definition

/-
  The name of a version that is served: an object whose
  `served` is exactly true and whose name is not empty.
-/
def servedName? : Json → Option Json
| .obj ms =>
    match Json.find "served" ms with
    | .bool true =>
        let name := Json.find "name" ms
        if name.truthy then some name else none
    | _ => none
| _ => none

/-
  Report on a definition, whose name is written in the
  report and may have no text.
-/
def report
    {α : Type}
    (definition : Json)
    (f : Failure) : Except Failure α := do
  discard definition.text?
  throw f

/-
  The version of a kind: the first one served, in the order
  of declaration.  Definitions of the older form have one
  version instead of a list.
-/
def servedVersion
    (definition spec : Json) : Except Failure Json := do
  let versions := (← spec.get "versions").orElse (.arr [])
  if !versions.truthy then
    let version ← spec.get "version"
    if version.truthy then return version
    else report definition (.missingPart .version definition)
  else
    match (← versions.iterate).findSome? servedName? with
    | some name => return name
    | none => report definition (.notServed definition)

end Definition

------------------------------------------------------------
-- Coordinates
------------------------------------------------------------

namespace Definition

open Resource

/- The coordinates of the kind that is defined. -/
def coordinates
    (raw : Json) : Except Failure KindCoordinates := do
  let md ← metadata raw
  let spec ← spec raw
  let definition ← md.getText "name"
  let group ← spec.get "group"
  if !group.truthy then
    report definition (.missingPart .group definition)
  let names := (← spec.get "names").orEmpty
  let plural ← names.get "plural"
  if !plural.truthy then
    report definition (.missingPart .plural definition)
  let version ← servedVersion definition spec
  let kind ← names.getText "kind"
  let annotations := (← md.get "annotations").orEmpty
  Failure.ofChecked KindCoordinates.recordName
    (KindCoordinates.check []
      [("definition", .value definition),
       ("group", .value group),
       ("version", .value version),
       ("resource", .value plural),
       ("kind", .value kind),
       ("annotations", .value annotations)])

end Definition

end EventTopology
