import EventTopology.Resource.Annotations

/-
  This file defines how resources are made: brokers, event
  types, triggers, subscriptions, services, schema
  definitions and instances of any kind, as they stand in a
  cluster.

  Key definitions include:
    * `Manifest.reference`
    * `Manifest.broker`
    * `Manifest.eventType`
    * `Manifest.trigger`
    * `Manifest.channelSubscription`
    * `Manifest.service`
    * `Manifest.definition`
    * `Manifest.instanceOf`
    * `Manifest.call`
-/

------------------------------------------------------------
-- Parts of Manifests
------------------------------------------------------------

namespace EventTopology

namespace Manifest

/- The label that ties a resource to a catalog. -/
def identityLabel : String :=
  "backstage.io/kubernetes-id"

/- A member that is left out when its value is null. -/
def unlessNull
    (name : String) : Json → Json.Members
| .null => []
| v => [(name, v)]

/- A member that is left out when its value is false. -/
def ifTruthy
    (name : String)
    (v : Json) : Json.Members :=
  if v.truthy then [(name, v)] else []

/- The metadata of a resource. -/
def metadata
    (name ns uid labels annotations : Json) : Json :=
  .obj
    (("name", name) ::
      (unlessNull "namespace" ns ++
        ifTruthy "uid" uid ++
        unlessNull "labels" labels ++
        unlessNull "annotations" annotations))

/- A reference by version, kind and name. -/
def reference (apiVersion kind name ns : Json) : Json :=
  .obj
    ([("apiVersion", apiVersion),
      ("kind", kind),
      ("name", name)] ++ unlessNull "namespace" ns)

/- A reference to a broker. -/
def brokerReference (name : Json) : Json :=
  reference (.str "eventing.knative.dev/v1")
    (.str "Broker") name .null

/- A reference to a service. -/
def serviceReference (name ns : Json) : Json :=
  reference (.str "v1") (.str "Service") name ns

/- The spec's member for a subscriber that is named. -/
def subscriberMember : Json → Json.Members
| .null => []
| ref => [("subscriber", .obj [("ref", ref)])]

end Manifest

------------------------------------------------------------
-- Eventing Resources
------------------------------------------------------------

namespace Manifest

/- A broker. -/
def broker
    (name ns uid labels annotations : Json) : Json :=
  .obj
    [("apiVersion", .str "eventing.knative.dev/v1"),
     ("kind", .str "Broker"),
     ("metadata", metadata name ns uid labels annotations),
     ("spec", .obj [])]

/- An event type; empty texts are left out. -/
def eventType
    (name ns type ref uid description schema schemaData
      labels annotations : Json) : Json :=
  .obj
    [("apiVersion", .str "eventing.knative.dev/v1beta2"),
     ("kind", .str "EventType"),
     ("metadata", metadata name ns uid labels annotations),
     ("spec", .obj
       (("type", type) ::
         (unlessNull "reference" ref ++
           ifTruthy "description" description ++
           ifTruthy "schema" schema ++
           ifTruthy "schemaData" schemaData)))]

/-
  A trigger.  A filter that is passed stands in the spec
  whatever its value is; the empty text lets any type pass.
-/
def trigger
    (name ns broker subscriber : Json)
    (filter : Option Json) : Json :=
  let filterMember : Json.Members :=
    match filter with
    | none => []
    | some type =>
        [("filter", .obj
          [("attributes", .obj [("type", type)])])]
  .obj
    [("apiVersion", .str "eventing.knative.dev/v1"),
     ("kind", .str "Trigger"),
     ("metadata",
       metadata name ns (.str "") .null .null),
     ("spec", .obj
       (("broker", broker) ::
         (subscriberMember subscriber ++ filterMember)))]

/- A subscription to a channel. -/
def channelSubscription
    (name ns channel subscriber : Json) : Json :=
  .obj
    [("apiVersion", .str "messaging.knative.dev/v1"),
     ("kind", .str "Subscription"),
     ("metadata",
       metadata name ns (.str "") .null .null),
     ("spec", .obj
       (("channel", channel) ::
         subscriberMember subscriber))]

end Manifest

------------------------------------------------------------
-- Services, Definitions and Instances
------------------------------------------------------------

namespace Manifest

/- A service, with a catalog identity unless null. -/
def service (name ns identity : Json) : Json :=
  let labels : Json :=
    match identity with
    | .null => .null
    | v => .obj [(identityLabel, v)]
  .obj
    [("apiVersion", .str "v1"),
     ("kind", .str "Service"),
     ("metadata",
       metadata name ns (.str "") labels .null)]

/- The object of one version of a definition. -/
def versionObject (name served : Json) : Json :=
  .obj
    [("name", name), ("served", served),
     ("storage", served)]

/- Read a version's name and whether it is served. -/
def versionOf
    (e : Json × Nat) : Except Json.ShapeFault Json :=
  match e.1.elements? with
  | none => .error (.notPair e.2)
  | some [name, served] => .ok (versionObject name served)
  | some es => .error (.pairLength e.2 es.length)

/-
  A schema definition.  Without versions it serves the
  single version `v1`.
-/
def definition
    (group kind plural labels annotations versions : Json) :
    Except Json.ShapeFault Json := do
  let pairs : Json :=
    match versions with
    | .null => .arr [.arr [.str "v1", .bool true]]
    | v => v
  let name := (← plural.text?) ++ "." ++ (← group.text?)
  let listKind := (← kind.text?) ++ "List"
  let served ← (← pairs.iterate).zipIdx.mapM versionOf
  return .obj
    [("apiVersion", .str "apiextensions.k8s.io/v1"),
     ("kind", .str "CustomResourceDefinition"),
     ("metadata",
       metadata (.str name) .null (.str "") labels
         annotations),
     ("spec", .obj
       [("group", group),
        ("names", .obj
          [("kind", kind),
           ("listKind", .str listKind),
           ("plural", plural)]),
        ("versions", .arr served)])]

/- An instance of any kind, with a sink unless null. -/
def instanceOf
    (apiVersion kind name ns sink labels annotations :
      Json) : Json :=
  let sinkMember : Json.Members :=
    match sink with
    | .null => []
    | ref => [("sink", .obj [("ref", ref)])]
  .obj
    [("apiVersion", apiVersion),
     ("kind", kind),
     ("metadata",
       metadata name ns (.str "") labels annotations),
     ("spec", .obj sinkMember)]

end Manifest

------------------------------------------------------------
-- Manifests by Name
------------------------------------------------------------

namespace Manifest

/- A parameter and its value when it is not passed. -/
structure Parameter where
  name : String
  default : Option Json := none

/- Parameters that must be passed. -/
private def needed (names : List String) : List Parameter :=
  names.map fun n => ⟨n, none⟩

/- Parameters that are null unless passed. -/
private def optional
    (names : List String) : List Parameter :=
  names.map fun n => ⟨n, some .null⟩

/- Parameters that are empty texts unless passed. -/
private def emptyText
    (names : List String) : List Parameter :=
  names.map fun n => ⟨n, some (.str "")⟩

/-
  The parameters of each manifest.  The filter of a trigger
  stands apart: it may be absent altogether.
-/
def parameters : String → Option (List Parameter)
| "reference" =>
    some (needed ["api_version", "kind", "name"] ++
      optional ["namespace"])
| "broker_reference" => some (needed ["name"])
| "service_reference" =>
    some (needed ["name"] ++ optional ["namespace"])
| "broker" =>
    some (needed ["name", "namespace"] ++
      emptyText ["uid"] ++
      optional ["labels", "annotations"])
| "event_type" =>
    some (needed ["name", "namespace", "type_"] ++
      optional ["ref"] ++
      emptyText
        ["uid", "description", "schema", "schema_data"] ++
      optional ["labels", "annotations"])
| "trigger" =>
    some (needed ["name", "namespace", "broker_name"] ++
      optional ["subscriber"] ++
      [⟨"type_filter", none⟩])
| "channel_subscription" =>
    some (needed ["name", "namespace", "channel"] ++
      optional ["subscriber"])
| "service" =>
    some (needed ["name", "namespace"] ++
      optional ["identity"])
| "definition" =>
    some (needed ["group", "kind", "plural", "labels"] ++
      optional ["annotations", "versions"])
| "instance" =>
    some
      (needed ["api_version", "kind", "name", "namespace"] ++
      optional ["sink", "labels", "annotations"])
| _ => none

/- May a parameter be absent without a default? -/
private def mayBeAbsent
    (manifest : String)
    (p : Parameter) : Bool :=
  manifest = "trigger" && p.name = "type_filter"

/-
  Give every parameter a value: first by position, then by
  name.  Too many values, unknown names, values given twice
  and missing values are refused.
-/
def bindArguments
    (manifest : String)
    (ps : List Parameter)
    (args : List Json)
    (named : Json.Members) :
    Except Failure Json.Members :=
  let refuse (w : String) : Except Failure Json.Members :=
    .error (.arguments (manifest ++ "() " ++ w))
  if ps.length < args.length then
    refuse "takes fewer positional arguments"
  else
    let byPosition := (ps.map (·.name)).zip args
    let unknown := named.any fun m =>
      !(ps.map (·.name)).contains m.1
    let twice := named.any fun m => Table.has m.1 byPosition
    if unknown then refuse "got an unexpected argument"
    else if twice then refuse "got an argument twice"
    else
      let given := byPosition ++ named
      let missing := ps.any fun p =>
        p.default.isNone && !mayBeAbsent manifest p &&
          !Table.has p.name given
      if missing then refuse "lacks an argument"
      else
        let defaults := ps.filterMap fun p =>
          if Table.has p.name given then none
          else p.default.map fun v => (p.name, v)
        .ok (given ++ defaults)

/- Make the manifest of a name from bound arguments. -/
private def make
    (manifest : String)
    (b : Json.Members) : Except Failure Json :=
  let v (name : String) : Json := Json.find name b
  match manifest with
  | "reference" =>
      .ok (reference (v "api_version") (v "kind") (v "name")
        (v "namespace"))
  | "broker_reference" => .ok (brokerReference (v "name"))
  | "service_reference" =>
      .ok (serviceReference (v "name") (v "namespace"))
  | "broker" =>
      .ok (broker (v "name") (v "namespace") (v "uid")
        (v "labels") (v "annotations"))
  | "event_type" =>
      .ok (eventType (v "name") (v "namespace") (v "type_")
        (v "ref") (v "uid") (v "description") (v "schema")
        (v "schema_data") (v "labels") (v "annotations"))
  | "trigger" =>
      .ok (trigger (v "name") (v "namespace")
        (v "broker_name") (v "subscriber")
        (Table.lookup "type_filter" b))
  | "channel_subscription" =>
      .ok (channelSubscription (v "name") (v "namespace")
        (v "channel") (v "subscriber"))
  | "service" =>
      .ok (service (v "name") (v "namespace")
        (v "identity"))
  | "definition" =>
      Failure.ofShape
        (definition (v "group") (v "kind") (v "plural")
          (v "labels") (v "annotations") (v "versions"))
  | "instance" =>
      .ok (instanceOf (v "api_version") (v "kind") (v "name")
        (v "namespace") (v "sink") (v "labels")
        (v "annotations"))
  | other =>
      .error (.shape (.noOperation .null other))

/- Make a manifest by its name and arguments. -/
def call
    (manifest : String)
    (args : List Json)
    (named : Json.Members) : Except Failure Json :=
  match parameters manifest with
  | none => .error (.shape (.noOperation .null manifest))
  | some ps => do
      let b ← bindArguments manifest ps args named
      make manifest b

end Manifest

end EventTopology
