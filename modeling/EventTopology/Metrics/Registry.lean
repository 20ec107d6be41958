import EventTopology.Build.Run
import EventTopology.Metrics.Sample

/-
  This file defines the registry of all measurements of a
  service: of its requests, of itself, and of its builds.

  Key definitions include:
    * `Registry`
    * `Registry.recordBuild`
    * `Registry.recordSkip`
    * `Registry.setEntities`
    * `Registry.endRequest`
    * `Registry.samples`
    * `Registry.families`
-/

------------------------------------------------------------
-- Registries
------------------------------------------------------------

namespace EventTopology

open Metrics (Series Histogram Sample)

/- All measurements of a service. -/
structure Registry where
  service : String := "eventmesh"
  version : String := "0.1.0"
  /- Finished requests by method, path and status. -/
  requests : Series Nat := []
  /- Their durations by method and path. -/
  durations : Series Histogram := []
  /- Requests that are being answered. -/
  active : Int := 0
  up : Bool := true
  /- Builds by outcome. -/
  builds : Series Nat := []
  buildDurations : Histogram := {}
  /- Skipped items by reason. -/
  skipped : Series Nat := []
  /- The sizes of the last mesh by kind of entity. -/
  entities : Series Amount := []

namespace Registry

/- Count a finished build. -/
def countBuild (r : Registry) (outcome : String) : Registry :=
  { r with builds := r.builds.count [outcome] }

/- Count a finished build and observe its duration. -/
def recordBuild
    (r : Registry)
    (outcome : String)
    (duration : Amount) : Registry :=
  let r := r.countBuild outcome
  { r with buildDurations := r.buildDurations.observe duration }

/- Count a skipped item. -/
def recordSkip (r : Registry) (reason : String) : Registry :=
  { r with skipped := r.skipped.count [reason] }

/- Count the items that a build skipped. -/
def recordSkips
    (r : Registry)
    (reasons : List SkipReason) : Registry :=
  reasons.foldl (fun r reason => r.recordSkip reason.name) r

/- Set the size of a kind of entity. -/
def setEntity
    (r : Registry)
    (kind : String)
    (size : Amount) : Registry :=
  { r with
    entities :=
      r.entities.update [kind] size (fun _ => size) }

/- Set the sizes of a mesh. -/
def setEntities
    (r : Registry)
    (counts : Log.Counts) : Registry :=
  (((r.setEntity "broker" (.whole counts.brokers)).setEntity
      "subscribable" (.whole counts.subscribables)).setEntity
      "eventtype" (.whole counts.eventTypes)).setEntity
      "source" (.whole counts.sources)

end Registry

------------------------------------------------------------
-- Untyped Measurements
------------------------------------------------------------

namespace Registry

/-
  Count a build by an untyped outcome and duration.  A bad
  duration is a failure, but the build is counted; it is not
  if the outcome has no text.
-/
def recordBuildValue
    (r : Registry)
    (outcome duration : Json) : Registry × Except Failure Unit :=
  match outcome.text? with
  | .error e => (r, .error (.shape e))
  | .ok outcome =>
      match Amount.ofNumber "not a number" duration with
      | .ok a => (r.recordBuild outcome a, .ok ())
      | .error e => (r.countBuild outcome, .error e)

/-
  Set an untyped size.  A bad one is a failure, but the kind
  is known from then on, with the size that it had or none.
-/
def setEntityValue
    (r : Registry)
    (kind : String)
    (size : Json) : Registry × Except Failure Unit :=
  match Amount.ofValue size with
  | .ok a => (r.setEntity kind a, .ok ())
  | .error e =>
      ({ r with
         entities := r.entities.update [kind] (.whole 0) id },
       .error e)

/- Set untyped sizes in order, up to the first bad one. -/
def setEntityValues (r : Registry) :
    Json.Members → Registry × Except Failure Unit
| [] => (r, .ok ())
| (kind, size) :: rest =>
    match r.setEntityValue kind size with
    | (r, .ok ()) => r.setEntityValues rest
    | failed => failed

/- Set the sizes that a value holds by kind. -/
def setEntitiesValue
    (r : Registry)
    (sizes : Json) : Registry × Except Failure Unit :=
  match sizes.members "items" with
  | .ok ms => r.setEntityValues ms
  | .error e => (r, .error (.shape e))

end Registry

------------------------------------------------------------
-- Requests
------------------------------------------------------------

namespace Registry

/- A request begins to be answered. -/
def beginRequest (r : Registry) : Registry :=
  { r with active := r.active + 1 }

/- A request has been answered. -/
def endRequest
    (r : Registry)
    (method path : String)
    (status : Nat)
    (duration : Amount) : Registry :=
  { r with
    requests :=
      r.requests.count [method, path, toString status]
    durations :=
      r.durations.update [method, path] {}
        (·.observe duration)
    active := r.active - 1 }

/- The service goes down. -/
def shutDown (r : Registry) : Registry :=
  { r with up := false }

end Registry

------------------------------------------------------------
-- Samples
------------------------------------------------------------

namespace Registry

/- The samples of a series with one label. -/
def labelled
    {α : Type}
    (name label : String)
    (value : α → Amount)
    (s : Series α) : List Sample :=
  s.map fun (key, v) => ⟨name, [label].zip key, value v⟩

/- A count as an amount. -/
def ofCount (n : Nat) : Amount :=
  .whole n

/- The labels of requests, which are in order of name. -/
def requestLabels
    (r : Registry) :
    List String → List (String × String)
| [method, path] =>
    [("method", method), ("path", path),
     ("service", r.service)]
| [method, path, status] =>
    [("method", method), ("path", path),
     ("service", r.service), ("status", status)]
| _ => []

/- The samples of the requests. -/
def requestSamples (r : Registry) : List Sample :=
  r.requests.map (fun (key, n) =>
      ⟨"http_requests_total", r.requestLabels key,
        ofCount n⟩) ++
    r.durations.flatMap (fun (key, h) =>
      h.samples "http_request_duration_seconds"
        (r.requestLabels key)) ++
    [⟨"http_requests_active", [("service", r.service)],
      .whole r.active⟩]

/- The samples of the service itself. -/
def serviceSamples (r : Registry) : List Sample :=
  let labels :=
    [("service", r.service), ("version", r.version)]
  [⟨"app_info", labels, .whole 1⟩,
   ⟨"app_up", labels, .whole (if r.up then 1 else 0)⟩]

/- The samples of the builds. -/
def buildSamples (r : Registry) : List Sample :=
  labelled "eventmesh_builds_total" "outcome" ofCount
      r.builds ++
    r.buildDurations.samples
      "eventmesh_build_duration_seconds" [] ++
    labelled "eventmesh_items_skipped_total" "reason"
      ofCount r.skipped ++
    labelled "eventmesh_entities" "kind" id r.entities

/- All samples in order. -/
def samples (r : Registry) : List Sample :=
  (r.requestSamples ++ r.serviceSamples ++ r.buildSamples)
    |>.mergeSort Sample.le

/- The samples whose name starts with a text, in order. -/
def samplesNamed
    (r : Registry)
    (start : String) : List Sample :=
  r.samples.filter fun s =>
    start.toList.isPrefixOf s.name.toList

/- The families of measurements and their types, in order. -/
def families : List (String × String) :=
  [("app_info", "gauge"),
   ("app_up", "gauge"),
   ("eventmesh_build_duration_seconds", "histogram"),
   ("eventmesh_builds_total", "counter"),
   ("eventmesh_entities", "gauge"),
   ("eventmesh_items_skipped_total", "counter"),
   ("http_request_duration_seconds", "histogram"),
   ("http_requests_active", "gauge"),
   ("http_requests_total", "counter")]

end Registry

end EventTopology
