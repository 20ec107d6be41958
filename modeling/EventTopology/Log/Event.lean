import EventTopology.Json.Basic

/-
  This file defines what is worth telling while a mesh is
  built and served: one constructor for each event, and the
  entry that an event makes in the log.

  Key definitions include:
    * `Log.Level`
    * `Log.Entry`
    * `Log.SubscriptionOutcome`
    * `Log.Event`
    * `Log.Event.entry`
-/

------------------------------------------------------------
-- Entries
------------------------------------------------------------

namespace EventTopology

namespace Log

/- How grave an entry is. -/
inductive Level where
| debug
| info
| warning
| error
| critical
deriving DecidableEq, Repr

namespace Level

/- The name of a level in the log. -/
def name : Level → String
| .debug => "debug"
| .info => "info"
| .warning => "warning"
| .error => "error"
| .critical => "critical"

/- Levels in order of gravity. -/
def rank : Level → Nat
| .debug => 10
| .info => 20
| .warning => 30
| .error => 40
| .critical => 50

end Level

/- An entry of the log. -/
structure Entry where
  level : Level
  event : String
  fields : Json.Members := []

namespace Entry

/- The members that an entry is written with. -/
def toMembers (e : Entry) : Json.Members :=
  e.fields ++
    [("event", .str e.event), ("level", .str e.level.name)]

/-
  An entry inside a context.  A field of the entry wins over
  one of the context.
-/
def within (context : Json.Members) (e : Entry) : Entry :=
  { e with fields := Table.ofList (context ++ e.fields) }

end Entry

end Log

------------------------------------------------------------
-- Events
------------------------------------------------------------

namespace Log

/- What becomes of a subscription in a build. -/
inductive SubscriptionOutcome where
| noTarget
| providerNotFound (target : String)
| noSubscriber
| lookupFailed (error : String)
| noIdentity (subscriber : String)
| resolved (identity : Json) (eventTypes : List String)

/- The numbers of entities in a finished mesh. -/
structure Counts where
  brokers : Nat
  subscribables : Nat
  eventTypes : Nat
  sources : Nat
deriving DecidableEq, Repr

/- An event. -/
inductive Event where
-- Discovering kinds.
| definitionsNotFound (tag : String)
| kindsDiscovered (tag : String) (kinds : List String)
-- Building a mesh.
| listingNotFound (listing : String)
| listingFailed (listing error : String)
| referenceDangling (eventType reference : String)
| sourceKindSkipped (definition error : String)
| subscription
    (outcome : SubscriptionOutcome)
    (origin ns name : String)
| buildCompleted (counts : Counts)
-- Clusters in memory.
| snapshotLoaded (path : String) (objects : Nat)
| snapshotMissing
| memorySelected
| storeLacksSubscriber (reference : String)
-- Clusters behind a client.
| clientSelected (inCluster : Bool)
| listFailed
    (resource : String) (status : Option Int)
    (reason : Option String)
| unreachable (resource error : String)
| clusterLacksSubscriber (reference : String)
| healthCheckFailed (error : String)
-- Serving requests.
| tokenPresent
| authSkipped
| authFailed
| httpError (status : Nat) (detail : Json) (path : String)
| buildFailed (error errorType path : String)
| unhandled (error errorType path : String)
| requestServed (status : Nat) (milliseconds : Float)
| livenessAsked
| readinessAsked
| clusterProbeFailed (error : String)
| memoryProbeFailed (error : String)
| serviceStarting
    (version env clusterAdapter : String)
    (requireAuth : Bool)
| serviceStopping

end Log

------------------------------------------------------------
-- Entries of Events
------------------------------------------------------------

namespace Log

namespace SubscriptionOutcome

/- The level, name and fields that tell an outcome. -/
def entry : SubscriptionOutcome → Entry
| .noTarget =>
    ⟨.debug, "mesh.subscription.no_target", []⟩
| .providerNotFound target =>
    ⟨.info, "mesh.subscription.provider_not_found",
      [("target", .str target)]⟩
| .noSubscriber =>
    ⟨.debug, "mesh.subscription.no_subscriber", []⟩
| .lookupFailed error =>
    ⟨.error, "mesh.subscription.lookup_failed",
      [("error", .str error)]⟩
| .noIdentity subscriber =>
    ⟨.debug, "mesh.subscription.no_identity",
      [("subscriber", .str subscriber)]⟩
| .resolved identity eventTypes =>
    ⟨.debug, "mesh.subscription.resolved",
      [("identity", identity),
       ("event_types", .ofTexts eventTypes)]⟩

end SubscriptionOutcome

namespace Event

/- A reason, as the only field. -/
private def reason (r : String) : Json.Members :=
  [("reason", .str r)]

/- An error, as the only field. -/
private def error (e : String) : Json.Members :=
  [("error", .str e)]

/- The entry that an event makes. -/
def entry : Event → Entry
| .definitionsNotFound tag =>
    ⟨.debug, "discovery.definitions_not_found",
      [("tag", .str tag)]⟩
| .kindsDiscovered tag kinds =>
    ⟨.debug, "discovery.completed",
      [("tag", .str tag), ("kinds", .ofTexts kinds)]⟩
| .listingNotFound listing =>
    ⟨.debug, "mesh.listing.not_found",
      [("listing", .str listing)]⟩
| .listingFailed listing e =>
    ⟨.error, "mesh.listing.failed",
      ("listing", .str listing) :: error e⟩
| .referenceDangling eventType reference =>
    ⟨.debug, "mesh.reference.dangling",
      [("event_type", .str eventType),
       ("reference", .str reference)]⟩
| .sourceKindSkipped definition e =>
    ⟨.warning, "mesh.source_kind.skipped",
      ("definition", .str definition) :: error e⟩
| .subscription outcome origin ns name =>
    let e := outcome.entry
    { e with
      fields := e.fields ++
        [("origin", .str origin),
         ("namespace", .str ns),
         ("name", .str name)] }
| .buildCompleted counts =>
    ⟨.info, "mesh.build.completed",
      [("brokers", .int counts.brokers),
       ("subscribables", .int counts.subscribables),
       ("event_types", .int counts.eventTypes),
       ("sources", .int counts.sources)]⟩
| .snapshotLoaded path objects =>
    ⟨.info, "adapter.snapshot_loaded",
      [("path", .str path), ("objects", .int objects)]⟩
| .snapshotMissing =>
    ⟨.warning, "adapter.empty_snapshot",
      reason "CLUSTER_SNAPSHOT not configured"⟩
| .memorySelected =>
    ⟨.info, "adapter.selected", [("type", .str "memory")]⟩
| .storeLacksSubscriber reference =>
    ⟨.debug, "adapter.subscriber_not_found",
      [("reference", .str reference),
       ("adapter", .str "memory")]⟩
| .clientSelected inCluster =>
    ⟨.info, "adapter.selected",
      [("type", .str "kubernetes"),
       ("in_cluster", .bool inCluster)]⟩
| .listFailed resource status r =>
    ⟨.warning, "kubernetes.list_failed",
      [("resource", .str resource),
       ("status", (status.map .int).getD .null),
       ("reason", .ofText? r)]⟩
| .unreachable resource e =>
    ⟨.error, "kubernetes.unreachable",
      ("resource", .str resource) :: error e⟩
| .clusterLacksSubscriber reference =>
    ⟨.debug, "kubernetes.subscriber_not_found",
      [("reference", .str reference)]⟩
| .healthCheckFailed e =>
    ⟨.warning, "kubernetes.health_check_failed", error e⟩
| .tokenPresent => ⟨.debug, "auth.token_present", []⟩
| .authSkipped =>
    ⟨.debug, "auth.skipped", reason "auth_not_required"⟩
| .authFailed =>
    ⟨.warning, "auth.failed", reason "missing_token"⟩
| .httpError status detail path =>
    ⟨.warning, "http.exception",
      [("status_code", .int status),
       ("detail", detail),
       ("path", .str path)]⟩
| .buildFailed e errorType path =>
    ⟨.error, "mesh.build.failed",
      error e ++
        [("error_type", .str errorType),
         ("path", .str path)]⟩
| .unhandled e errorType path =>
    ⟨.error, "unhandled.exception",
      error e ++
        [("error_type", .str errorType),
         ("path", .str path)]⟩
| .requestServed status milliseconds =>
    ⟨.info, "http_request",
      [("http_status", .int status),
       ("duration_ms", .float milliseconds)]⟩
| .livenessAsked => ⟨.debug, "health_check_liveness", []⟩
| .readinessAsked => ⟨.debug, "health_check_readiness", []⟩
| .clusterProbeFailed e =>
    ⟨.warning, "cluster_health_check_failed", error e⟩
| .memoryProbeFailed e =>
    ⟨.warning, "memory_health_check_failed", error e⟩
| .serviceStarting version env clusterAdapter requireAuth =>
    ⟨.info, "service_starting",
      [("version", .str version),
       ("env", .str env),
       ("cluster_adapter", .str clusterAdapter),
       ("require_auth", .bool requireAuth)]⟩
| .serviceStopping => ⟨.info, "service_stopping", []⟩

end Event

end Log

end EventTopology
