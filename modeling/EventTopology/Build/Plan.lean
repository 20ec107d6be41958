import EventTopology.Build.Consumption
import EventTopology.Build.Discovery
import EventTopology.Resource.Declaration

/-
  This file defines how a mesh is built from a cluster.
  Providers come first, then event types and their links,
  then sources, and last the subscriptions, whose
  subscribers are looked up one by one.

  Key definitions include:
    * `Plan`
    * `Plan.providers`
    * `Plan.eventTypes`
    * `Plan.sources`
    * `Plan.subscriptions`
    * `Plan.build`
    * `Plan.run`
-/

------------------------------------------------------------
-- Plans
------------------------------------------------------------

namespace EventTopology

/- The choices that a build makes. -/
structure Plan where
  conversion : Conversion := {}
  /- The label that ties a subscriber to its identity. -/
  identityLabel : String := "backstage.io/kubernetes-id"
  /- The tag of definitions of subscribable kinds. -/
  subscribableTag : String :=
    "messaging.knative.dev/subscribable=true"
  /- The tag of definitions of source kinds. -/
  sourceTag : String := "duck.knative.dev/source=true"

------------------------------------------------------------
-- Providers
------------------------------------------------------------

namespace Plan

variable {σ : Type}

/- The records that listed resources convert to. -/
def convertAll
    {α : Type}
    (convert : Json → Except Failure α)
    (raws : List Json) : Build σ (List α) :=
  Build.ofExcept (raws.mapM convert)

/- The instances of a kind, as they are listed. -/
def instances
    (c : Cluster σ)
    (coords : KindCoordinates) : Build σ (List Json) :=
  Build.list c coords.listing (.instances coords)

/- All brokers, in listing order. -/
def brokers
    (p : Plan)
    (c : Cluster σ) : Build σ (List Broker) := do
  convertAll p.conversion.broker
    (← Build.list c "brokers" .brokers)

/- The subscribables of one kind, in listing order. -/
def subscribablesOf
    (p : Plan)
    (c : Cluster σ)
    (coords : KindCoordinates) :
    Build σ (List Subscribable) := do
  convertAll (p.conversion.subscribable coords)
    (← instances c coords)

/- All subscribables, kind by kind. -/
def subscribables
    (p : Plan)
    (c : Cluster σ) : Build σ (List Subscribable) := do
  let kinds ← Discovery.discover c p.subscribableTag
  return (← kinds.mapM (p.subscribablesOf c)).flatten

/- An index of all providers. -/
def providers
    (p : Plan)
    (c : Cluster σ) : Build σ Index := do
  let bs ← p.brokers c
  let ss ← p.subscribables c
  return ss.foldl Index.addSubscribable
    (bs.foldl Index.addBroker {})

end Plan

------------------------------------------------------------
-- Event Types and Sources
------------------------------------------------------------

namespace Plan

variable {σ : Type}

/- All event types, in listing order. -/
def eventTypes
    (p : Plan)
    (c : Cluster σ) : Build σ (List EventType) := do
  convertAll p.conversion.eventType
    (← Build.list c "eventtypes" .eventTypes)

/- The sources of one kind with their event types. -/
def sourcesOf
    (p : Plan)
    (c : Cluster σ)
    (x : Index)
    (coords : KindCoordinates)
    (declared : List String) : Build σ (List Source) := do
  let found ← convertAll
    (p.conversion.source coords (.ofTexts declared))
    (← instances c coords)
  return found.map fun s =>
    { s with
      providedEventTypes := x.matching s.ns s.declaredTypes }

/-
  The sources of one kind.  A kind whose declaration cannot
  be read is skipped, and its instances are not listed.
-/
def sourcesOfKind
    (p : Plan)
    (c : Cluster σ)
    (x : Index)
    (coords : KindCoordinates) : Build σ (List Source) := do
  match p.conversion.declaredTypes coords with
  | .ok declared => p.sourcesOf c x coords declared
  | .error f =>
      Build.tell
        (.sourceKindSkipped coords.definition f.message)
      Build.skip .declaration
      return []

/- All sources, kind by kind. -/
def sources
    (p : Plan)
    (c : Cluster σ)
    (x : Index) : Build σ (List Source) := do
  let kinds ← Discovery.discover c p.sourceTag
  return (← kinds.mapM (p.sourcesOfKind c x)).flatten

end Plan

------------------------------------------------------------
-- Subscriptions
------------------------------------------------------------

namespace Plan

variable {σ : Type}

/- All triggers, then all channel subscriptions. -/
def subscriptions
    (c : Cluster σ) : Build σ (List Subscription) := do
  let triggers ← convertAll Conversion.trigger
    (← Build.list c "triggers" .triggers)
  let others ← convertAll Conversion.channelSubscription
    (← Build.list c "subscriptions" .subscriptions)
  return triggers ++ others

/- Who consumes what, by all subscriptions in order. -/
def consumption
    (p : Plan)
    (c : Cluster σ)
    (x : Index)
    (ss : List Subscription) : Build σ Consumption :=
  ss.foldlM (Consumption.process c p.identityLabel x) []

end Plan

------------------------------------------------------------
-- Building
------------------------------------------------------------

namespace Mesh

/- The mesh that an index, sources and consumers make. -/
def ofIndex
    (x : Index)
    (sources : List Source)
    (consumed : Consumption) : Mesh where
  brokers := x.brokers.map fun b =>
    { b with
      providedEventTypes := Table.pushed b.key x.provided }
  eventTypes := x.eventTypes.map fun e =>
    { e.2 with consumedBy := Table.pushed e.1 consumed }
  subscribables := x.subscribables.map fun s =>
    { s with
      providedEventTypes := Table.pushed s.key x.provided }
  sources := sources

/- The sizes of the four lists of a mesh. -/
def counts (m : Mesh) : Log.Counts where
  brokers := m.brokers.length
  subscribables := m.subscribables.length
  eventTypes := m.eventTypes.length
  sources := m.sources.length

end Mesh

namespace Plan

variable {σ : Type}

/- Build the mesh of a cluster. -/
def build
    (p : Plan)
    (c : Cluster σ) : Build σ Mesh := do
  let providers ← p.providers c
  let (x, dangling) :=
    (providers.addEventTypes (← p.eventTypes c)).link
  Build.tellAll dangling
  let sources ← p.sources c x
  let ss ← subscriptions c
  let consumed ← p.consumption c x ss
  let mesh := Mesh.ofIndex x sources consumed
  Build.tell (.buildCompleted mesh.counts)
  return mesh

/- Build the mesh of a cluster in a given state. -/
def run
    (p : Plan)
    (c : Cluster σ)
    (s : σ) : Except Failure Mesh × Run σ :=
  (p.build c).run.run ⟨s, [], [], []⟩

end Plan

end EventTopology
