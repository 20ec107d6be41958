import EventTopology.Cluster.Cluster
import EventTopology.Cluster.Selector
import EventTopology.Resource.Conversion

/-
  This file defines clusters in memory.  Resources go to one
  of six buckets by group and kind; listings and lookups can
  be made to fail.

  Key definitions include:
    * `Store`
    * `Store.Bucket`
    * `Store.bucketOf`
    * `Store.add`
    * `Store.listing`
    * `Store.resolveIdentity`
    * `Store.cluster`
-/

------------------------------------------------------------
-- Stores and Buckets
------------------------------------------------------------

namespace EventTopology

/- A cluster in memory. -/
structure Store where
  brokers : List Json := []
  eventTypes : List Json := []
  triggers : List Json := []
  subscriptions : List Json := []
  definitions : List Json := []
  /- Instances of all other kinds. -/
  objects : List Json := []
  /- Errors in place of listings, by the listing's name. -/
  listingErrors : Table ClusterError := []
  /- Errors in place of lookups, by the reference's key. -/
  lookupErrors : Table ClusterError := []
  /- What a probe finds, or the words it fails with. -/
  health : Except String Json := .ok (.bool true)

namespace Store

/- The classes that resources are sorted into. -/
inductive Bucket where
| brokers
| eventTypes
| triggers
| subscriptions
| definitions
| objects
deriving DecidableEq, Repr

/- All buckets, in order. -/
def Bucket.all : List Bucket :=
  [.brokers, .eventTypes, .triggers, .subscriptions,
    .definitions, .objects]

/- The contents of a bucket. -/
def contents (s : Store) : Bucket → List Json
| .brokers => s.brokers
| .eventTypes => s.eventTypes
| .triggers => s.triggers
| .subscriptions => s.subscriptions
| .definitions => s.definitions
| .objects => s.objects

/- Put a resource at the end of a bucket. -/
def put (s : Store) (b : Bucket) (raw : Json) : Store :=
  match b with
  | .brokers => { s with brokers := s.brokers ++ [raw] }
  | .eventTypes =>
      { s with eventTypes := s.eventTypes ++ [raw] }
  | .triggers => { s with triggers := s.triggers ++ [raw] }
  | .subscriptions =>
      { s with subscriptions := s.subscriptions ++ [raw] }
  | .definitions =>
      { s with definitions := s.definitions ++ [raw] }
  | .objects => { s with objects := s.objects ++ [raw] }

/- The contents after a resource was put somewhere. -/
theorem contents_put
    (s : Store)
    (b b' : Bucket)
    (raw : Json) :
    (s.put b raw).contents b' =
      s.contents b' ++ if b = b' then [raw] else [] := by
  cases b <;> cases b' <;> simp [put, contents]

end Store

------------------------------------------------------------
-- Sorting Resources
------------------------------------------------------------

namespace Store

open Json (ShapeFault)

/- The group of a resource; core resources have none. -/
def groupOf (raw : Json) : Except ShapeFault String := do
  Key.resourceGroupOfValue (← raw.getText "apiVersion")

/- The bucket for resources of a group and kind. -/
def bucketFor (group : String) (kind : Json) : Bucket :=
  if group = "eventing.knative.dev" then
    if kind.isText "Broker" then .brokers
    else if kind.isText "EventType" then .eventTypes
    else if kind.isText "Trigger" then .triggers
    else .objects
  else if group = "messaging.knative.dev" then
    if kind.isText "Subscription" then .subscriptions
    else .objects
  else if group = "apiextensions.k8s.io" then
    if kind.isText "CustomResourceDefinition" then
      .definitions
    else .objects
  else .objects

/- The bucket that a resource belongs to. -/
def bucketOf (raw : Json) : Except ShapeFault Bucket := do
  let group ← groupOf raw
  let kind ← raw.get "kind"
  return bucketFor group kind

/-
  Add resources in order.  The first one that cannot be
  sorted ends the addition; those before it stay.
-/
def add (s : Store) :
    List Json → Store × Except ShapeFault Unit
| [] => (s, .ok ())
| raw :: rest =>
    match bucketOf raw with
    | .error e => (s, .error e)
    | .ok b => (s.put b raw).add rest

/- A store of some resources. -/
def ofResources
    (raws : List Json) : Except ShapeFault Store :=
  match ({} : Store).add raws with
  | (s, .ok ()) => .ok s
  | (_, .error e) => .error e

end Store

------------------------------------------------------------
-- Listings
------------------------------------------------------------

namespace Store

open Json (ShapeFault)

/- The resources found, unless the listing is made to fail. -/
def listing
    (s : Store)
    (name : String)
    (found : List Json) : Except Failure Json :=
  match Table.lookup name s.listingErrors with
  | some e => .error (.cluster e)
  | none => .ok (.arr found)

/- Does a selector select a resource by its labels? -/
def tagged
    (tag : String)
    (raw : Json) : Except ShapeFault Bool := do
  Selector.selects tag (← Resource.labelsOf raw)

/- Is a resource of a group and kind? -/
def isOfKind
    (group kind : String)
    (raw : Json) : Except ShapeFault Bool := do
  let g ← groupOf raw
  let k ← raw.get "kind"
  return g = group && k.isText kind

/- The definitions with a tag, in the order of addition. -/
def listDefinitions
    (s : Store)
    (tag : String) : Except Failure Json := do
  let found ←
    Failure.ofShape (s.definitions.filterM (tagged tag))
  s.listing "definitions" found

/- The instances of a kind, in the order of addition. -/
def listInstances
    (s : Store)
    (coords : KindCoordinates) : Except Failure Json := do
  let found ← Failure.ofShape
    (s.objects.filterM
      (isOfKind coords.group coords.kind))
  s.listing coords.resource found

end Store

------------------------------------------------------------
-- Lookups
------------------------------------------------------------

namespace Store

open Json (ShapeFault)

/- Is a resource the one that a reference names? -/
def isNamedBy
    (ref : ObjectReference)
    (raw : Json) : Except ShapeFault Bool := do
  let md ← Resource.metadata raw
  if ← isOfKind ref.group ref.kind raw then
    if (← md.get "namespace").isText ref.ns then
      return (← md.get "name").isText ref.name
    else return false
  else return false

/- The first resource that a reference names. -/
def findNamed
    (ref : ObjectReference) :
    List Json → Except ShapeFault (Option Json)
| [] => .ok none
| raw :: rest => do
    if ← isNamedBy ref raw then return some raw
    else findNamed ref rest

/-
  The value of a label on the resource that a reference
  names.  Null stands for a missing resource or label.
-/
def resolveIdentity
    (s : Store)
    (ref : ObjectReference)
    (label : String) : Except Failure Json × List Log.Event :=
  match Table.lookup ref.key s.lookupErrors with
  | some e => (.error (.cluster e), [])
  | none =>
      match findNamed ref s.objects with
      | .error e => (.error (.shape e), [])
      | .ok none =>
          (.ok .null, [.storeLacksSubscriber ref.key])
      | .ok (some raw) =>
          (Failure.ofShape do
            (← Resource.labelsOf raw).get label, [])

end Store

------------------------------------------------------------
-- Stores as Clusters
------------------------------------------------------------

namespace Store

/- What a store answers to a request. -/
def answer
    (s : Store) :
    Request → Except Failure Json × List Log.Event
| .brokers => (s.listing "brokers" s.brokers, [])
| .eventTypes => (s.listing "eventtypes" s.eventTypes, [])
| .triggers => (s.listing "triggers" s.triggers, [])
| .subscriptions =>
    (s.listing "subscriptions" s.subscriptions, [])
| .definitions tag => (s.listDefinitions tag, [])
| .instances coords => (s.listInstances coords, [])
| .identity ref label => s.resolveIdentity ref label

/- The cluster that a store is.  Asking changes nothing. -/
def cluster : Cluster Store where
  answer r s :=
    let (outcome, events) := s.answer r
    ⟨outcome, s, events⟩
  health s :=
    .still s
      (match s.health with
      | .ok v => .ok v
      | .error words => .error (.collaborator words))
  close s := (.ok (), s)

/- Make a listing fail. -/
def failListing
    (s : Store)
    (name : String)
    (e : ClusterError) : Store :=
  { s with
    listingErrors := Table.insert name e s.listingErrors }

/- Make the lookup of a reference fail. -/
def failLookup
    (s : Store)
    (ref : ObjectReference)
    (e : ClusterError) : Store :=
  { s with
    lookupErrors := Table.insert ref.key e s.lookupErrors }

end Store

end EventTopology
