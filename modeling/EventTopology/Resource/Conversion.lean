import EventTopology.Resource.Annotations

/-
  This file defines how untyped cluster resources become the
  entities of a mesh and the subscriptions to them.

  Key definitions include:
    * `Conversion`
    * `Conversion.broker`
    * `Conversion.subscribable`
    * `Conversion.eventType`
    * `Conversion.source`
    * `Conversion.trigger`
    * `Conversion.channelSubscription`
-/

------------------------------------------------------------
-- Parts of Resources
------------------------------------------------------------

namespace EventTopology

/- Faults of shape are failures. -/
instance :
    MonadLift (Except Json.ShapeFault)
      (Except Failure) where
  monadLift := Failure.ofShape

/- The choices that a conversion makes. -/
structure Conversion where
  /- The annotations that are dropped. -/
  excluded : List String := Annotations.defaultExcluded
  /- The annotation in which a kind declares event types. -/
  declaredUnder : String :=
    "registry.knative.dev/eventTypes"

namespace Resource

open Json (ShapeFault)

/- The metadata of a resource. -/
def metadata (raw : Json) : Except ShapeFault Json :=
  (raw.get "metadata").map Json.orEmpty

/- The spec of a resource. -/
def spec (raw : Json) : Except ShapeFault Json :=
  (raw.get "spec").map Json.orEmpty

/- The labels of a resource, for looking one up. -/
def labelsOf (raw : Json) : Except ShapeFault Json := do
  return (← (← metadata raw).get "labels").orEmpty

/- The text of a value; null and the empty text are null. -/
def textOrNull (v : Json) : Except ShapeFault Json :=
  if v.isUnset then .ok .null else v.text?.map .str

/- A copy of the labels, or null. -/
def labels
    (md : Json) : Except ShapeFault Record.Input := do
  match ← md.get "labels" with
  | .null => return .value .null
  | v => return .entries (← v.pairs)

/- The annotations that are kept, or null. -/
def annotations
    (c : Conversion)
    (md : Json) : Except ShapeFault Record.Input := do
  let found ← md.get "annotations"
  return .value (← Annotations.sanitize c.excluded found)

end Resource

------------------------------------------------------------
-- References Inside Resources
------------------------------------------------------------

namespace Resource

open Json (ShapeFault)

/- A reference of which all parts are known. -/
def reference
    (group kind ns name : Json) : Except Failure Reference :=
  Failure.ofChecked Reference.recordName
    (Reference.check []
      [("group", .value group),
       ("kind", .value kind),
       ("namespace", .value ns),
       ("name", .value name)])

/-
  The subscriber of a spec.  Without a name or a kind there
  is none; without a namespace it lives beside the
  subscription.
-/
def subscriber
    (spec ns : Json) :
    Except Failure (Option ObjectReference) := do
  let holder := (← spec.get "subscriber").orEmpty
  let ref ← holder.get "ref"
  if !ref.truthy then return none
  let name ← ref.get "name"
  if !name.truthy then return none
  let kind ← ref.get "kind"
  if !kind.truthy then return none
  let apiVersion ← ref.getText "apiVersion"
  let ownNs ← ref.get "namespace"
  let r ← Failure.ofChecked ObjectReference.recordName
    (ObjectReference.check []
      [("api_version", .value apiVersion),
       ("kind", .value kind),
       ("namespace", .value (ownNs.orElse ns)),
       ("name", .value name)])
  return some r

/-
  The sink of a source.  Only a reference with version, kind
  and name is one; it lives in the source's namespace.
-/
def sink
    (raw : Json) : Except Failure (Option Reference) := do
  let holder := (← (← spec raw).get "sink").orEmpty
  match ← holder.get "ref" with
  | .obj ms =>
      let apiVersion := Json.find "apiVersion" ms
      let kind := Json.find "kind" ms
      let name := Json.find "name" ms
      if apiVersion.truthy && kind.truthy &&
          name.truthy then
        let group ← Key.groupOfValue apiVersion
        let ns ← (← metadata raw).getText "namespace"
        return some (← reference group kind ns name)
      else return none
  | _ => return none

/- A record inside a draft, or null. -/
def draftRecord
    {α : Type}
    (toJson : α → Json)
    (record : Option α) : Record.Input :=
  .value ((record.map toJson).getD .null)

end Resource

------------------------------------------------------------
-- Providers
------------------------------------------------------------

namespace Conversion

open Resource

/- Read a broker. -/
def broker
    (c : Conversion)
    (raw : Json) : Except Failure Broker := do
  let md ← metadata raw
  let name ← md.getText "name"
  let ns ← md.getText "namespace"
  let uid ← md.getText "uid"
  let labels ← labels md
  let annotations ← annotations c md
  Failure.ofChecked Broker.recordName
    (Broker.check []
      [("name", .value name),
       ("namespace", .value ns),
       ("uid", .value uid),
       ("labels", labels),
       ("annotations", annotations)])

/- Read an instance of a subscribable kind. -/
def subscribable
    (c : Conversion)
    (coords : KindCoordinates)
    (raw : Json) : Except Failure Subscribable := do
  let md ← metadata raw
  let name ← md.getText "name"
  let ns ← md.getText "namespace"
  let uid ← md.getText "uid"
  let kind := (← raw.get "kind").orElse (.str coords.kind)
  let labels ← labels md
  let annotations ← annotations c md
  Failure.ofChecked Subscribable.recordName
    (Subscribable.check []
      [("name", .value name),
       ("namespace", .value ns),
       ("uid", .value uid),
       ("group", .value (.str coords.group)),
       ("kind", .value kind),
       ("labels", labels),
       ("annotations", annotations)])

end Conversion

------------------------------------------------------------
-- Event Types
------------------------------------------------------------

namespace Resource

open Json (ShapeFault)

/- The type and the schema of an event type, as found. -/
structure TypeAndSchema where
  type : Json
  schema : Json

/- Take one attribute into account. -/
def TypeAndSchema.addAttribute
    (found : TypeAndSchema)
    (a : Json) :
    Except ShapeFault TypeAndSchema := do
  let name ← a.get "name"
  if name.isText "type" then
    return { found with type := ← a.getText "value" }
  else if name.isText "schemadata" then
    let v ← a.get "value"
    return { found with schema := ← textOrNull v }
  else return found

/-
  The type and the schema of a spec.  A list of attributes
  wins over the members of the spec, and among attributes of
  one name the last one.
-/
def typeAndSchema
    (spec : Json) : Except ShapeFault TypeAndSchema := do
  let type ← spec.getText "type"
  let schema ← textOrNull (← spec.get "schema")
  let attributes := (← spec.get "attributes").orElse (.arr [])
  (← attributes.iterate).foldlM
    TypeAndSchema.addAttribute ⟨type, schema⟩

/- The provider that an event type refers to. -/
def provider
    (spec ns : Json) : Except Failure (Option Reference) := do
  let ref ← spec.get "reference"
  if !ref.truthy then return none
  let group ← Key.groupOfValue (← ref.getText "apiVersion")
  let kind ← ref.getText "kind"
  let name ← ref.getText "name"
  return some (← reference group kind ns name)

end Resource

namespace Conversion

open Resource

/- Read an event type. -/
def eventType
    (c : Conversion)
    (raw : Json) : Except Failure EventType := do
  let md ← metadata raw
  let spec ← spec raw
  let ns ← md.getText "namespace"
  let found ← typeAndSchema spec
  let reference ← provider spec ns
  let name ← md.getText "name"
  let uid ← md.getText "uid"
  let description ← textOrNull (← spec.get "description")
  let schemaData ← textOrNull (← spec.get "schemaData")
  let labels ← labels md
  let annotations ← annotations c md
  Failure.ofChecked EventType.recordName
    (EventType.check []
      [("name", .value name),
       ("namespace", .value ns),
       ("type", .value (found.type.orElse (.str ""))),
       ("uid", .value uid),
       ("description", .value description),
       ("schema_data", .value schemaData),
       ("schema_url", .value found.schema),
       ("labels", labels),
       ("annotations", annotations),
       ("reference",
         draftRecord Reference.toJson reference)])

end Conversion

------------------------------------------------------------
-- Sources
------------------------------------------------------------

namespace Conversion

open Resource

/- Read an instance of a source kind. -/
def source
    (c : Conversion)
    (coords : KindCoordinates)
    (declared : Json)
    (raw : Json) : Except Failure Source := do
  let md ← metadata raw
  let name ← md.getText "name"
  let ns ← md.getText "namespace"
  let uid ← md.getText "uid"
  let kind := (← raw.get "kind").orElse (.str coords.kind)
  let labels ← labels md
  let annotations ← annotations c md
  let sink ← sink raw
  Failure.ofChecked Source.recordName
    (Source.check []
      [("name", .value name),
       ("namespace", .value ns),
       ("uid", .value uid),
       ("group", .value (.str coords.group)),
       ("kind", .value kind),
       ("labels", labels),
       ("annotations", annotations),
       ("provided_event_type_types", .value declared),
       ("sink", draftRecord Reference.toJson sink)])

end Conversion

------------------------------------------------------------
-- Subscriptions
------------------------------------------------------------

namespace Resource

open Json (ShapeFault)

/- The type that a trigger filters by. -/
def typeFilter
    (spec : Json) : Except ShapeFault Json := do
  let filter := (← spec.get "filter").orEmpty
  let attributes := (← filter.get "attributes").orEmpty
  if ← attributes.contains "type" then
    attributes.part "type"
  else return .null

/- The key of the channel that a spec subscribes to. -/
def channelTarget
    (spec ns : Json) : Except ShapeFault Json := do
  let channel := (← spec.get "channel").orEmpty
  let name ← channel.get "name"
  if !name.truthy then return .null
  let kind ← channel.get "kind"
  if !kind.truthy then return .null
  let group ← Key.groupOfValue
    (← channel.getText "apiVersion")
  return .str
    (Key.qualified (← group.text?) (← kind.text?)
      (← ns.text?) (← name.text?))

/- The key of the broker that a spec names. -/
def brokerTarget
    (spec ns : Json) : Except ShapeFault Json := do
  let name ← spec.get "broker"
  if name.truthy then
    return .str
      (Key.qualified Broker.apiGroup Broker.apiKind
        (← ns.text?) (← name.text?))
  else return .null

end Resource

namespace Conversion

open Resource

/- Read a trigger, which targets a broker beside it. -/
def trigger (raw : Json) : Except Failure Subscription := do
  let md ← metadata raw
  let spec ← spec raw
  let ns ← md.getText "namespace"
  let target ← brokerTarget spec ns
  let filter ← typeFilter spec
  let name ← md.getText "name"
  let subscriber ← subscriber spec ns
  Failure.ofChecked Subscription.recordName
    (Subscription.check []
      [("name", .value name),
       ("namespace", .value ns),
       ("origin", .value (.str "Trigger")),
       ("target", .value target),
       ("subscriber",
         draftRecord ObjectReference.toJson subscriber),
       ("type_filter", .value filter)])

/- Read a channel subscription, which has no filter. -/
def channelSubscription
    (raw : Json) : Except Failure Subscription := do
  let md ← metadata raw
  let spec ← spec raw
  let ns ← md.getText "namespace"
  let target ← channelTarget spec ns
  let name ← md.getText "name"
  let subscriber ← subscriber spec ns
  Failure.ofChecked Subscription.recordName
    (Subscription.check []
      [("name", .value name),
       ("namespace", .value ns),
       ("origin", .value (.str "Subscription")),
       ("target", .value target),
       ("subscriber",
         draftRecord ObjectReference.toJson subscriber)])

end Conversion

end EventTopology
