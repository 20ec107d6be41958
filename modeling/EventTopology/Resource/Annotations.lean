import EventTopology.Failure

/-
  This file defines the filter on annotations.  It drops the
  entries that are of no interest to the readers of a mesh.

  Key definitions include:
    * `Annotations.defaultExcluded`
    * `Annotations.kept`
    * `Annotations.sanitize`
-/

------------------------------------------------------------
-- Filtering Annotations
------------------------------------------------------------

namespace EventTopology

namespace Annotations

/- The annotation in which tools keep their last input. -/
def lastApplied : String :=
  "kubectl.kubernetes.io/last-applied-configuration"

/- The annotations that are dropped unless told otherwise. -/
def defaultExcluded : List String :=
  [lastApplied]

/- The entries whose names are not excluded. -/
def kept
    (excluded : List String)
    (ms : Json.Members) : Json.Members :=
  ms.filter fun m => !excluded.contains m.1

/-
  The entries that remain, as an object; null when there are
  none to begin with or none remain.
-/
def sanitize
    (excluded : List String) :
    Json → Except Json.ShapeFault Json
| .null => .ok .null
| v => do
    let ms ← v.members "items"
    match kept excluded ms with
    | [] => return .null
    | rest => return .obj rest

/- What remains has no excluded name. -/
theorem mem_kept_iff
    {excluded : List String}
    {ms : Json.Members}
    {m : String × Json} :
    m ∈ kept excluded ms ↔ m ∈ ms ∧ m.1 ∉ excluded := by
  simp [kept]

end Annotations

end EventTopology
