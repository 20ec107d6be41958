import EventTopology.Build.Run
import EventTopology.Resource.Definition

/-
  This file defines the discovery of kinds: the coordinates
  of every kind whose schema definition carries a tag.

  Key definitions include:
    * `Discovery.coordinates`
    * `Discovery.discover`
-/

------------------------------------------------------------
-- Discovery
------------------------------------------------------------

namespace EventTopology

namespace Discovery

variable {σ : Type}

/-
  The coordinates that listed definitions give, in order, or
  the failure of the first that gives none.
-/
def coordinates
    (found : Json) : Except Failure (List KindCoordinates) :=
  do (← found.iterate).mapM Definition.coordinates

/-
  The kinds with a tag, in listing order.  There are none
  where definitions do not exist at all.
-/
def discover
    (c : Cluster σ)
    (tag : String) : Build σ (List KindCoordinates) := do
  match ← Build.attempt c (.definitions tag) with
  | .ok found =>
      let kinds ← Build.ofExcept (coordinates found)
      Build.tell
        (.kindsDiscovered tag (kinds.map (·.resourceName)))
      return kinds
  | .error (.cluster (.notFound _)) =>
      Build.tell (.definitionsNotFound tag)
      return []
  | .error (.cluster e) => throw (.definitions tag e)
  | .error f => throw f

end Discovery

end EventTopology
