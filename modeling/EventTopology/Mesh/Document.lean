import EventTopology.Mesh.Entity
import EventTopology.Record.Check

/-
  This file relates the entities of a mesh to JSON objects:
  how each is written, and how each is read from fields.
  Members carry camel-case names outside.

  Key definitions include:
    * `Reference.toJson`, `Reference.check`
    * `Broker.toJson`, `Broker.check`
    * `Subscribable.toJson`, `Subscribable.check`
    * `EventType.toJson`, `EventType.check`
    * `Source.toJson`, `Source.check`
    * `Mesh.toJson`, `Mesh.check`
-/

------------------------------------------------------------
-- Fields
------------------------------------------------------------

namespace EventTopology

namespace Mesh.Field

open Record

def name : Field := .plain "name"
def ns : Field := .plain "namespace"
def type : Field := .plain "type"
def uid : Field := .plain "uid"
def group : Field := .plain "group"
def kind : Field := .plain "kind"
def labels : Field := .plain "labels"
def annotations : Field := .plain "annotations"
def description : Field := .plain "description"
def reference : Field := .plain "reference"
def sink : Field := .plain "sink"
def brokers : Field := .plain "brokers"
def sources : Field := .plain "sources"
def subscribables : Field := .plain "subscribables"

def schemaData : Field :=
  ⟨"schema_data", "schemaData"⟩

def schemaUrl : Field :=
  ⟨"schema_url", "schemaURL"⟩

def consumedBy : Field :=
  ⟨"consumed_by", "consumedBy"⟩

def eventTypes : Field :=
  ⟨"event_types", "eventTypes"⟩

def providedEventTypes : Field :=
  ⟨"provided_event_types", "providedEventTypes"⟩

def declaredTypes : Field :=
  ⟨"provided_event_type_types", "providedEventTypeTypes"⟩

end Mesh.Field

namespace Mesh

/- Labels as an object, or null. -/
def labelsJson : Option Labels → Json
| none => .null
| some ls => .obj (ls.map fun l => (l.1, .str l.2))

/- A member that is left out when there is nothing in it. -/
def memberUnlessNone
    (f : Record.Field) : Option Json → Json.Members
| none => []
| some v => [(f.outer, v)]

/- Read labels or null. -/
def readLabels : Record.Reading (Option Labels) :=
  Record.orNull Record.readMap

end Mesh

------------------------------------------------------------
-- References
------------------------------------------------------------

namespace Reference

open Record

/- The name that faults give to references. -/
def recordName : String := "GroupKindNamespacedName"

/- The JSON object of a reference. -/
def toJson (r : Reference) : Json :=
  .obj
    [("group", .str r.group),
     ("kind", .str r.kind),
     ("namespace", .str r.ns),
     ("name", .str r.name)]

/- Read a reference from fields. -/
def check
    (path : List Step)
    (d : Draft) : Checked Reference :=
  Reference.mk
    <$> required path d Mesh.Field.group readText
    <*> required path d Mesh.Field.kind readText
    <*> required path d Mesh.Field.ns readText
    <*> required path d Mesh.Field.name readText

end Reference

------------------------------------------------------------
-- Providers
------------------------------------------------------------

namespace Broker

open Record

/- The name that faults give to brokers. -/
def recordName : String := "Broker"

/- The JSON object of a broker. -/
def toJson (b : Broker) : Json :=
  .obj
    [("name", .str b.name),
     ("namespace", .str b.ns),
     ("uid", .str b.uid),
     ("labels", Mesh.labelsJson b.labels),
     ("annotations", Mesh.labelsJson b.annotations),
     ("providedEventTypes", .ofTexts b.providedEventTypes)]

/- Read a broker from fields. -/
def check
    (path : List Step)
    (d : Draft) : Checked Broker :=
  Broker.mk
    <$> required path d Mesh.Field.name readText
    <*> required path d Mesh.Field.ns readText
    <*> withDefault path d Mesh.Field.uid readText ""
    <*> withDefault path d Mesh.Field.labels
          Mesh.readLabels none
    <*> withDefault path d Mesh.Field.annotations
          Mesh.readLabels none
    <*> withDefault path d Mesh.Field.providedEventTypes
          (readList readText) []

end Broker

namespace Subscribable

open Record

/- The name that faults give to subscribables. -/
def recordName : String := "Subscribable"

/- The JSON object of a subscribable. -/
def toJson (s : Subscribable) : Json :=
  .obj
    [("name", .str s.name),
     ("namespace", .str s.ns),
     ("uid", .str s.uid),
     ("group", .str s.group),
     ("kind", .str s.kind),
     ("labels", Mesh.labelsJson s.labels),
     ("annotations", Mesh.labelsJson s.annotations),
     ("providedEventTypes", .ofTexts s.providedEventTypes)]

/- Read a subscribable from fields. -/
def check
    (path : List Step)
    (d : Draft) : Checked Subscribable :=
  Subscribable.mk
    <$> required path d Mesh.Field.name readText
    <*> required path d Mesh.Field.ns readText
    <*> withDefault path d Mesh.Field.uid readText ""
    <*> required path d Mesh.Field.group readText
    <*> required path d Mesh.Field.kind readText
    <*> withDefault path d Mesh.Field.labels
          Mesh.readLabels none
    <*> withDefault path d Mesh.Field.annotations
          Mesh.readLabels none
    <*> withDefault path d Mesh.Field.providedEventTypes
          (readList readText) []

end Subscribable

------------------------------------------------------------
-- Event Types
------------------------------------------------------------

namespace EventType

open Record

/- The name that faults give to event types. -/
def recordName : String := "EventType"

/-
  The JSON object of an event type.  Description, schemas
  and reference are left out where they are missing.
-/
def toJson (e : EventType) : Json :=
  .obj
    ([("name", .str e.name),
      ("namespace", .str e.ns),
      ("type", .str e.type),
      ("uid", .str e.uid)] ++
     Mesh.memberUnlessNone Mesh.Field.description
       (e.description.map .str) ++
     Mesh.memberUnlessNone Mesh.Field.schemaData
       (e.schemaData.map .str) ++
     Mesh.memberUnlessNone Mesh.Field.schemaUrl
       (e.schemaUrl.map .str) ++
     [("labels", Mesh.labelsJson e.labels),
      ("annotations", Mesh.labelsJson e.annotations)] ++
     Mesh.memberUnlessNone Mesh.Field.reference
       (e.reference.map (·.toJson)) ++
     [("consumedBy", .arr e.consumedBy)])

/- Read an event type from fields. -/
def check
    (path : List Step)
    (d : Draft) : Checked EventType :=
  EventType.mk
    <$> required path d Mesh.Field.name readText
    <*> required path d Mesh.Field.ns readText
    <*> withDefault path d Mesh.Field.type readText ""
    <*> withDefault path d Mesh.Field.uid readText ""
    <*> withDefault path d Mesh.Field.description
          (orNull readText) none
    <*> withDefault path d Mesh.Field.schemaData
          (orNull readText) none
    <*> withDefault path d Mesh.Field.schemaUrl
          (orNull readText) none
    <*> withDefault path d Mesh.Field.labels
          Mesh.readLabels none
    <*> withDefault path d Mesh.Field.annotations
          Mesh.readLabels none
    <*> withDefault path d Mesh.Field.reference
          (orNull
            (readRecord Reference.recordName
              Reference.check))
          none
    <*> ((·.map Json.str) <$>
          withDefault path d Mesh.Field.consumedBy
            (readList readText) [])

end EventType

------------------------------------------------------------
-- Sources
------------------------------------------------------------

namespace Source

open Record

/- The name that faults give to sources. -/
def recordName : String := "Source"

/-
  The JSON object of a source.  The sink is left out where
  it is missing.
-/
def toJson (s : Source) : Json :=
  .obj
    ([("name", .str s.name),
      ("namespace", .str s.ns),
      ("uid", .str s.uid),
      ("group", .str s.group),
      ("kind", .str s.kind),
      ("labels", Mesh.labelsJson s.labels),
      ("annotations", Mesh.labelsJson s.annotations),
      ("providedEventTypeTypes", .ofTexts s.declaredTypes),
      ("providedEventTypes",
        .ofTexts s.providedEventTypes)] ++
     Mesh.memberUnlessNone Mesh.Field.sink
       (s.sink.map (·.toJson)))

/- Read a source from fields. -/
def check
    (path : List Step)
    (d : Draft) : Checked Source :=
  Source.mk
    <$> required path d Mesh.Field.name readText
    <*> required path d Mesh.Field.ns readText
    <*> withDefault path d Mesh.Field.uid readText ""
    <*> required path d Mesh.Field.group readText
    <*> required path d Mesh.Field.kind readText
    <*> withDefault path d Mesh.Field.labels
          Mesh.readLabels none
    <*> withDefault path d Mesh.Field.annotations
          Mesh.readLabels none
    <*> withDefault path d Mesh.Field.declaredTypes
          (readList readText) []
    <*> withDefault path d Mesh.Field.providedEventTypes
          (readList readText) []
    <*> withDefault path d Mesh.Field.sink
          (orNull
            (readRecord Reference.recordName
              Reference.check))
          none

end Source

------------------------------------------------------------
-- Meshes
------------------------------------------------------------

namespace Mesh

open Record

/- The name that faults give to meshes. -/
def recordName : String := "EventMesh"

/- The JSON object of a mesh. -/
def toJson (m : Mesh) : Json :=
  .obj
    [("brokers", .arr (m.brokers.map (·.toJson))),
     ("eventTypes", .arr (m.eventTypes.map (·.toJson))),
     ("subscribables",
       .arr (m.subscribables.map (·.toJson))),
     ("sources", .arr (m.sources.map (·.toJson)))]

/- Read a mesh from fields. -/
def check
    (path : List Step)
    (d : Draft) : Checked Mesh :=
  Mesh.mk
    <$> withDefault path d Field.brokers
          (readList
            (readRecord Broker.recordName Broker.check))
          []
    <*> withDefault path d Field.eventTypes
          (readList
            (readRecord EventType.recordName
              EventType.check))
          []
    <*> withDefault path d Field.subscribables
          (readList
            (readRecord Subscribable.recordName
              Subscribable.check))
          []
    <*> withDefault path d Field.sources
          (readList
            (readRecord Source.recordName Source.check))
          []

end Mesh

end EventTopology
