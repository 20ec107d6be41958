import EventTopology.Cluster.Store
import EventTopology.Json.Reader

/-
  This file defines how a store is read from the bytes of a
  snapshot: a JSON array of resources, or an object that
  holds one under `items`.

  Key definitions include:
    * `Snapshot.resources`
    * `Snapshot.read`
-/

------------------------------------------------------------
-- Reading Snapshots
------------------------------------------------------------

namespace EventTopology

namespace Snapshot

/- The resources of a snapshot's value. -/
def resources (v : Json) : Except Json.ShapeFault (List Json) :=
  match v with
  | .obj ms =>
      ((Table.lookup "items" ms).getD (.arr [])).iterate
  | v => v.iterate

/- The value that bytes spell; they must be proper UTF-8. -/
def valueOf (bytes : ByteArray) : Except Failure Json :=
  match (String.fromUTF8? bytes).bind (Json.read? .strict) with
  | none => .error .notJson
  | some v => .ok v

/- The store that a snapshot holds, and how much went in. -/
def read
    (path : String)
    (bytes : ByteArray) :
    Except Failure (Store × List Log.Event) := do
  let raws ← resources (← valueOf bytes)
  let store ← Store.ofResources raws
  return (store, [.snapshotLoaded path raws.length])

end Snapshot

end EventTopology
