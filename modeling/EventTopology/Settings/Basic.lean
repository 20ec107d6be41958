import EventTopology.Build.Plan
import EventTopology.Settings.Reading
import EventTopology.Text.Order

/-
  This file defines the settings of a service.

  Key definitions include:
    * `Settings`
    * `Settings.plan`
    * `Settings.check`
    * `Settings.ofMembers`
-/

------------------------------------------------------------
-- Settings
------------------------------------------------------------

namespace EventTopology

/- Where a service reads clusters. -/
inductive ClusterSource where
/- From an API server. -/
| kubernetes
/- From a snapshot in memory. -/
| memory
deriving DecidableEq, Repr

namespace ClusterSource

/- The name of a cluster source. -/
def name : ClusterSource → String
| .kubernetes => "kubernetes"
| .memory => "memory"

/- The cluster sources by name. -/
def choices : List (String × ClusterSource) :=
  [.kubernetes, .memory].map fun c => (c.name, c)

end ClusterSource

/- The settings of a service. -/
structure Settings where
  env : String := "dev"
  servicePort : Int := 8080
  logJson : Bool := true
  logLevel : String := "INFO"
  clusterSource : ClusterSource := .kubernetes
  /- The file that the memory source serves. -/
  snapshot : Option String := none
  inCluster : Bool := true
  kubeconfig : Option String := none
  eventTypesVersion : String := "v1beta2"
  /- Does every reader of a mesh need a token? -/
  requireAuth : Bool := true
  identityLabel : String := "backstage.io/kubernetes-id"
  subscribableTag : String :=
    "messaging.knative.dev/subscribable=true"
  sourceTag : String := "duck.knative.dev/source=true"
  declaredUnder : String :=
    "registry.knative.dev/eventTypes"
  excludedAnnotations : List String :=
    Annotations.defaultExcluded
deriving DecidableEq, Repr

namespace Settings

/- The choices that the settings make for builds. -/
def plan (s : Settings) : Plan where
  conversion :=
    { excluded := s.excludedAnnotations
      declaredUnder := s.declaredUnder }
  identityLabel := s.identityLabel
  subscribableTag := s.subscribableTag
  sourceTag := s.sourceTag

end Settings

------------------------------------------------------------
-- Reading Settings
------------------------------------------------------------

namespace Settings

open Record

/- The name that faults give to settings. -/
def recordName : String := "Settings"

/- The setting that is a set, written as JSON in texts. -/
def setName : String := "EXCLUDED_ANNOTATIONS"

/- The names of the settings, in order. -/
def names : List String :=
  ["ENV", "SERVICE_PORT", "LOG_JSON", "LOG_LEVEL",
   "CLUSTER_ADAPTER", "CLUSTER_SNAPSHOT", "KUBE_IN_CLUSTER",
   "KUBECONFIG", "EVENT_TYPES_VERSION", "REQUIRE_AUTH",
   "IDENTITY_LABEL", "SUBSCRIBABLE_TAG", "SOURCE_TAG",
   "EVENT_TYPES_ANNOTATION", setName]

/- Read one setting, which has a default. -/
private def field
    {α : Type}
    (d : Draft)
    (name : String)
    (read : Reading α)
    (default : α) : Checked α :=
  withDefault [] d (.plain name) read default

/- Read settings from fields. -/
def check (d : Draft) : Checked Settings :=
  let base : Settings := {}
  Settings.mk
    <$> field d "ENV" readText base.env
    <*> field d "SERVICE_PORT" readWhole base.servicePort
    <*> field d "LOG_JSON" readTruth base.logJson
    <*> field d "LOG_LEVEL" readText base.logLevel
    <*> field d "CLUSTER_ADAPTER"
          (readChoice ClusterSource.choices)
          base.clusterSource
    <*> field d "CLUSTER_SNAPSHOT" (orNull readText)
          base.snapshot
    <*> field d "KUBE_IN_CLUSTER" readTruth base.inCluster
    <*> field d "KUBECONFIG" (orNull readText)
          base.kubeconfig
    <*> field d "EVENT_TYPES_VERSION" readText
          base.eventTypesVersion
    <*> field d "REQUIRE_AUTH" readTruth base.requireAuth
    <*> field d "IDENTITY_LABEL" readText base.identityLabel
    <*> field d "SUBSCRIBABLE_TAG" readText
          base.subscribableTag
    <*> field d "SOURCE_TAG" readText base.sourceTag
    <*> field d "EVENT_TYPES_ANNOTATION" readText
          base.declaredUnder
    <*> field d setName readSet base.excludedAnnotations

/- Settings that are given by name. -/
def ofMembers (ms : Json.Members) : Except Failure Settings :=
  Failure.ofChecked recordName (check (Draft.ofMembers ms))

end Settings

------------------------------------------------------------
-- Writing Settings
------------------------------------------------------------

namespace Settings

/- A set of texts, in order and without repeats. -/
def sortedSet (ss : List String) : List String :=
  (Index.firsts ss).mergeSort fun s t => !Text.before t s

/- The JSON object of settings. -/
def toJson (s : Settings) : Json :=
  .obj
    (names.zip
      [.str s.env, .int s.servicePort, .bool s.logJson,
       .str s.logLevel, .str s.clusterSource.name,
       .ofText? s.snapshot, .bool s.inCluster,
       .ofText? s.kubeconfig, .str s.eventTypesVersion,
       .bool s.requireAuth, .str s.identityLabel,
       .str s.subscribableTag, .str s.sourceTag,
       .str s.declaredUnder,
       .ofTexts (sortedSet s.excludedAnnotations)])

end Settings

end EventTopology
