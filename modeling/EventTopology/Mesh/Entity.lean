import EventTopology.Mesh.Key
import EventTopology.Text.Order

/-
  This file defines the entities of a mesh: brokers and
  subscribables, which provide event types, the event types
  themselves, and sources.

  Key definitions include:
    * `Reference`
    * `Broker`
    * `Subscribable`
    * `EventType`
    * `Source`
    * `Mesh`
-/

------------------------------------------------------------
-- References
------------------------------------------------------------

namespace EventTopology

/- A resource of any group and kind, named from a mesh. -/
structure Reference where
  group : String
  kind : String
  ns : String
  name : String
deriving DecidableEq, Repr

namespace Reference

/- The key of the resource that is referred to. -/
def key (r : Reference) : String :=
  Key.qualified r.group r.kind r.ns r.name

end Reference

------------------------------------------------------------
-- Providers
------------------------------------------------------------

/- Labels and annotations map texts to texts. -/
abbrev Labels := Table String

/- A broker and the ids of the event types it provides. -/
structure Broker where
  name : String
  ns : String
  uid : String := ""
  labels : Option Labels := none
  annotations : Option Labels := none
  providedEventTypes : List String := []
deriving DecidableEq, Repr

namespace Broker

/- The group that brokers are served under. -/
def apiGroup : String := "eventing.knative.dev"

/- The kind of brokers. -/
def apiKind : String := "Broker"

/- The id of a broker within a cluster. -/
def id (b : Broker) : String :=
  Key.namespaced b.ns b.name

/- The key of a broker among all providers. -/
def key (b : Broker) : String :=
  Key.qualified apiGroup apiKind b.ns b.name

end Broker

/- A channel-like provider of a discovered kind. -/
structure Subscribable where
  name : String
  ns : String
  uid : String := ""
  group : String
  kind : String
  labels : Option Labels := none
  annotations : Option Labels := none
  providedEventTypes : List String := []
deriving DecidableEq, Repr

namespace Subscribable

/- The key of a subscribable among all providers. -/
def key (s : Subscribable) : String :=
  Key.qualified s.group s.kind s.ns s.name

end Subscribable

------------------------------------------------------------
-- Event Types and Sources
------------------------------------------------------------

/-
  An event type.  Its consumers are the identities found on
  subscribers, kept as they were found.
-/
structure EventType where
  name : String
  ns : String
  type : String := ""
  uid : String := ""
  description : Option String := none
  schemaData : Option String := none
  schemaUrl : Option String := none
  labels : Option Labels := none
  annotations : Option Labels := none
  reference : Option Reference := none
  consumedBy : List Json := []

namespace EventType

/- The id of an event type within a cluster. -/
def id (e : EventType) : String :=
  Key.namespaced e.ns e.name

/- The key of an event type by its type. -/
def typeKey (e : EventType) : String :=
  Key.namespaced e.ns e.type

/- Does an event type refer to the provider with a key? -/
def refersTo (e : EventType) (key : String) : Bool :=
  match e.reference with
  | none => false
  | some r => r.key = key

/- The order of event types in a mesh. -/
def le (e f : EventType) : Bool :=
  Text.before e.ns f.ns ||
    (e.ns = f.ns && !Text.before f.name e.name)

end EventType

/- A source and the event types its kind declares. -/
structure Source where
  name : String
  ns : String
  uid : String := ""
  group : String
  kind : String
  labels : Option Labels := none
  annotations : Option Labels := none
  /- Declared for the kind, shared by all its instances. -/
  declaredTypes : List String := []
  providedEventTypes : List String := []
  sink : Option Reference := none
deriving DecidableEq, Repr

namespace Source

/- The key of a source. -/
def key (s : Source) : String :=
  Key.qualified s.group s.kind s.ns s.name

end Source

------------------------------------------------------------
-- Meshes
------------------------------------------------------------

/- The eventing resources of a cluster, correlated. -/
structure Mesh where
  brokers : List Broker := []
  eventTypes : List EventType := []
  subscribables : List Subscribable := []
  sources : List Source := []

namespace Mesh

/- The keys of all providers of a mesh. -/
def providerKeys (m : Mesh) : List String :=
  m.brokers.map (·.key) ++ m.subscribables.map (·.key)

end Mesh

end EventTopology
