import EventTopology.Failure
import EventTopology.Log.Event

/-
  This file defines clusters as what answers requests.  A
  cluster may change its state and tell events while it
  answers; a table of answers does neither.

  Key definitions include:
    * `Request`
    * `Answer`
    * `Cluster`
    * `Cluster.ofTable`
-/

------------------------------------------------------------
-- Requests
------------------------------------------------------------

namespace EventTopology

/- What a cluster is asked. -/
inductive Request where
| brokers
| eventTypes
| triggers
| subscriptions
/- The schema definitions with a tag. -/
| definitions (tag : String)
/- The instances of a discovered kind. -/
| instances (coords : KindCoordinates)
/- The value of a label of one resource. -/
| identity (ref : ObjectReference) (label : String)
deriving DecidableEq, Repr

------------------------------------------------------------
-- Clusters
------------------------------------------------------------

/- An outcome, the next state, and the events on the way. -/
structure Answer (σ α : Type) where
  outcome : Except Failure α
  state : σ
  events : List Log.Event := []

namespace Answer

variable {σ α : Type}

/- An outcome that changes nothing and tells nothing. -/
def still (s : σ) (outcome : Except Failure α) : Answer σ α :=
  ⟨outcome, s, []⟩

end Answer

/-
  A cluster with states `σ`.  A listing is answered with a
  value that should be walked over, and an identity lookup
  with the label's value or null.
-/
structure Cluster (σ : Type) where
  answer : Request → σ → Answer σ Json
  /- Is the cluster well?  A false value means it is not. -/
  health : σ → Answer σ Json
  /- Give up what is held for the cluster, which may fail. -/
  close : σ → Except Failure Unit × σ

namespace Cluster

/- The cluster that always gives the answers of a table. -/
def ofTable
    (table : Request → Except Failure Json) :
    Cluster Unit where
  answer r s := .still s (table r)
  health s := .still s (.ok (.bool true))
  close s := (.ok (), s)

end Cluster

end EventTopology
