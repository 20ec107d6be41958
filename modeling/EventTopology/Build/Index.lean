import EventTopology.Cluster.Coordinates
import EventTopology.Log.Event

/-
  This file defines the index of a build: the providers by
  key, the event types by id and by type, and which provider
  provides which event types.

  Key definitions include:
    * `Index`
    * `Index.addBroker`
    * `Index.addSubscribable`
    * `Index.addEventType`
    * `Index.link`
    * `Index.matching`
    * `Index.received`
-/

------------------------------------------------------------
-- Indices
------------------------------------------------------------

namespace EventTopology

/- What a build has collected, indexed. -/
structure Index where
  /- Brokers with different keys. -/
  brokers : List Broker := []
  /- Subscribables with keys of their own. -/
  subscribables : List Subscribable := []
  /- The event types by id. -/
  eventTypes : Table EventType := []
  /- The ids of event types by namespace and type. -/
  byType : Table (List String) := []
  /- The ids of event types by the provider's key. -/
  provided : Table (List String) := []

namespace Index

/- The keys of the providers. -/
def providerKeys (x : Index) : List String :=
  x.brokers.map (·.key) ++ x.subscribables.map (·.key)

/- Is there a provider with a key? -/
def hasProvider (x : Index) (key : String) : Bool :=
  key ∈ x.providerKeys

end Index

------------------------------------------------------------
-- Collecting
------------------------------------------------------------

namespace Index

/- Add a broker, unless its key is taken. -/
def addBroker (x : Index) (b : Broker) : Index :=
  if x.hasProvider b.key then x
  else { x with brokers := x.brokers ++ [b] }

/- Add a subscribable, unless its key is taken. -/
def addSubscribable (x : Index) (s : Subscribable) : Index :=
  if x.hasProvider s.key then x
  else { x with subscribables := x.subscribables ++ [s] }

/-
  Add an event type.  One with a known id replaces the
  earlier one in its place.
-/
def addEventType (x : Index) (e : EventType) : Index :=
  { x with
    eventTypes := Table.insert e.id e x.eventTypes
    byType := Table.push e.typeKey e.id x.byType }

/- Add event types in the order of a mesh. -/
def addEventTypes (x : Index) (es : List EventType) : Index :=
  (es.mergeSort EventType.le).foldl addEventType x

end Index

------------------------------------------------------------
-- Linking
------------------------------------------------------------

namespace Index

/-
  Register an event type on the provider that it refers to.
  A reference to no provider is told and left alone.
-/
def linkEventType
    (x : Index)
    (id : String)
    (e : EventType) : Index × List Log.Event :=
  match e.reference with
  | none => (x, [])
  | some r =>
      if x.hasProvider r.key then
        ({ x with
           provided := Table.push r.key id x.provided }, [])
      else (x, [.referenceDangling id r.key])

/- Register event types on the providers they refer to. -/
def linkAll
    (x : Index) :
    List (String × EventType) → Index × List Log.Event
| [] => (x, [])
| (id, e) :: rest =>
    let (y, events) := x.linkEventType id e
    let (z, more) := y.linkAll rest
    (z, events ++ more)

/- Register all event types, in order. -/
def link (x : Index) : Index × List Log.Event :=
  x.linkAll x.eventTypes

end Index

------------------------------------------------------------
-- Asking
------------------------------------------------------------

namespace Index

/- The members in order of first occurrence. -/
def firsts : List String → List String
| [] => []
| s :: ss => s :: (firsts ss).filter (· ≠ s)

/-
  The ids of the event types in a namespace that have one of
  the declared types.
-/
def matching
    (x : Index)
    (ns : String)
    (declared : List String) : List String :=
  firsts
    (declared.flatMap fun type =>
      Table.pushed (Key.namespaced ns type) x.byType)

/- Is the event type with an id one to be received? -/
def isReceived
    (x : Index)
    (s : Subscription)
    (id : String) : Bool :=
  (Table.lookup id x.eventTypes).any fun e =>
    s.receives e.type

/-
  The ids of the event types that a subscription to the
  provider with a key receives.
-/
def received
    (x : Index)
    (key : String)
    (s : Subscription) : List String :=
  (Table.pushed key x.provided).filter (x.isReceived s)

end Index

end EventTopology
