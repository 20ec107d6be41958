import EventTopology.Http.Handling
import EventTopology.Http.Routing
import EventTopology.Service.Health
import EventTopology.Service.Ledger

/-
  This file defines the application: how a service answers
  requests, what it tells and measures while it does, and
  how it starts and stops.

  Key definitions include:
    * `Framework`
    * `App`
    * `App.Moment`
    * `App.answer`
    * `App.handle`
    * `App.start`
    * `App.stop`
-/

------------------------------------------------------------
-- Applications
------------------------------------------------------------

namespace EventTopology

open Http (Response Route)
open Log (Event Entry)

/- What a service leaves to its framework. -/
structure Framework where
  /-
    The path in the address of a request, which is made of
    its host, path and query and cannot always be read.
  -/
  urlPath : Http.Request → Option String
  /- What the framework tells of the service. -/
  page : Http.Page → Http.Request → Response
  /- Do the methods of pages come with HEAD before GET? -/
  headFirst : Bool := false

/- A service that answers requests. -/
structure App (ω σ : Type) where
  service : Service ω σ
  settings : Settings := {}
  name : String := "eventmesh"
  version : String := "0.1.0"
  framework : Framework
  /- The host that it is reached at. -/
  host : String
  /- The address of help on faults of records. -/
  helpPages : String

namespace App

/- What a request meets when it arrives. -/
structure Moment where
  /- The name of a request that brings none. -/
  freshId : String
  /- The time, as it is written in reports. -/
  now : String
  memory : Except String Health.Memory
  /- How long it takes to answer, in seconds. -/
  duration : Amount := .whole 0

/- A response, the next ledger, and the events on the way. -/
structure Outcome (ω : Type) where
  response : Response
  ledger : Ledger ω
  events : List Event := []

end App

------------------------------------------------------------
-- Failing Routes
------------------------------------------------------------

namespace App

variable {ω σ : Type}

/- Answer with a failure. -/
def fail
    (a : App ω σ)
    (s : Subject)
    (l : Ledger ω)
    (f : Failure) : Outcome ω :=
  let (response, events) := failure a.helpPages s f
  ⟨response, l, events⟩

/- Answer with a response, if it can be sent. -/
def send
    (a : App ω σ)
    (s : Subject)
    (l : Ledger ω) :
    Except Failure Response → Outcome ω
| .ok response => ⟨response, l, []⟩
| .error f => a.fail s l f

/- Answer after some events. -/
def Outcome.after
    (events : List Event)
    (o : Outcome ω) : Outcome ω :=
  { o with events := events ++ o.events }

end App

------------------------------------------------------------
-- Routes
------------------------------------------------------------

namespace App

variable {ω σ : Type}

/- How a caller is told to bring a token. -/
def missingToken : Http.Error :=
  .ofText .application 401
    ("missing auth token. set the " ++
      "'Authorization: Bearer YOUR_KEY' header")
    [("WWW-Authenticate", "Bearer")]

/-
  The token with which a mesh is built, or none for the
  service's own credentials.  It may be missing.
-/
def callerToken
    (a : App ω σ)
    (r : Http.Request) :
    Except Failure (Option String) × List Event :=
  match Http.bearerToken r with
  | some token => (.ok (some token), [.tokenPresent])
  | none =>
      if a.settings.requireAuth then
        (.error (.http missingToken), [.authFailed])
      else (.ok none, [.authSkipped])

/- Answer with the mesh that a token gives access to. -/
def meshFor
    (a : App ω σ)
    (m : Moment)
    (s : Subject)
    (token : Option String)
    (l : Ledger ω) : Outcome ω :=
  let built := a.service.build token m.duration l
  let sent := built.outcome.bind fun mesh =>
    Http.sendJson 200 mesh.toJson []
  (a.send s built.ledger sent).after built.events

/- Answer with a mesh, if the caller may see one. -/
def mesh
    (a : App ω σ)
    (m : Moment)
    (s : Subject)
    (r : Http.Request)
    (l : Ledger ω) : Outcome ω :=
  match a.callerToken r with
  | (.error f, events) => (a.fail s l f).after events
  | (.ok token, events) =>
      (a.meshFor m s token l).after events

/- The reporter on the health of the service. -/
def reporter (a : App ω σ) (m : Moment) : Health.Reporter where
  service := a.name
  version := a.version
  now := m.now

/- Answer whether the service is ready. -/
def readiness
    (a : App ω σ)
    (m : Moment)
    (s : Subject)
    (l : Ledger ω) : Outcome ω :=
  let probed := a.service.health l
  let (cluster, told) :=
    Health.cluster a.helpPages probed.outcome
  let (memory, more) := Health.memory m.memory
  let status :=
    if Health.isReady cluster memory then 200 else 503
  let report :=
    Health.readiness (a.reporter m) cluster memory
  (a.send s probed.ledger (Http.sendJson status report [])).after
    (.readinessAsked :: (probed.events ++ told ++ more))

/- Answer with the measurements. -/
def measurements : Response where
  status := 200
  headers :=
    [("content-type",
      "text/plain; version=0.0.4; charset=utf-8")]
  body := .measurements Registry.families

/- Answer at a route. -/
def answerAt
    (a : App ω σ)
    (m : Moment)
    (s : Subject)
    (r : Http.Request)
    (l : Ledger ω) : Route → Outcome ω
| .mesh => a.mesh m s r l
| .liveness =>
    ⟨.json 200 (Health.liveness (a.reporter m)) [], l,
      [.livenessAsked]⟩
| .readiness => a.readiness m s l
| .measurements => ⟨measurements, l, []⟩
| .page p => ⟨a.framework.page p r, l, []⟩

end App

------------------------------------------------------------
-- Routing
------------------------------------------------------------

namespace App

variable {ω σ : Type}

/- The methods that a route is asked with. -/
def methodsOf (a : App ω σ) : Route → String
| .page _ =>
    if a.framework.headFirst then "HEAD, GET"
    else "GET, HEAD"
| _ => "GET"

/- There is nothing at a path. -/
def notFound : Http.Error :=
  .ofText .http 404 "Not Found" []

/- A route is asked with other methods. -/
def notAllowed (methods : String) : Http.Error :=
  .ofText .http 405 "Method Not Allowed" [("Allow", methods)]

/- The address of another path with the query of a request. -/
def addressOf
    (a : App ω σ)
    (r : Http.Request)
    (path : String) : String :=
  let host := (r.header "host").getD a.host
  let query :=
    match r.target.query with
    | none => ""
    | some q => "?" ++ q
  Path.escape ("http://" ++ host ++ path ++ query)

/- Answer a request. -/
def answer
    (a : App ω σ)
    (m : Moment)
    (s : Subject)
    (r : Http.Request)
    (l : Ledger ω) : Outcome ω :=
  match Http.route r.method r.target.path with
  | .found route => a.answerAt m s r l route
  | .wrongMethod route =>
      a.fail s l (.http (notAllowed (a.methodsOf route)))
  | .elsewhere path =>
      let address := a.addressOf r path
      ⟨⟨307, [("location", address)], .empty⟩, l, []⟩
  | .unknown => a.fail s l (.http notFound)

end App

------------------------------------------------------------
-- Requests
------------------------------------------------------------

namespace App

variable {ω σ : Type}

/- The name of a request: its own, or a fresh one. -/
def correlationId (m : Moment) (r : Http.Request) : String :=
  match r.header "x-correlation-id" with
  | none | some "" => m.freshId
  | some id => id

/- The duration of an answer, in milliseconds. -/
def milliseconds (duration : Amount) : Float :=
  Decimal.roundPlaces (duration.toFloat * 1000.0)

/-
  Answer a request and measure it, unless it asks for
  measurements.
-/
def measured
    (a : App ω σ)
    (m : Moment)
    (s : Subject)
    (r : Http.Request)
    (l : Ledger ω) : Outcome ω :=
  if Http.isMeasurements s.path then a.answer m s r l
  else
    let o := a.answer m s r (l.measure (·.beginRequest))
    let status := o.response.status
    { o with
      ledger := o.ledger.measure
        (·.endRequest r.method s.path status m.duration)
      events := o.events ++
        [.requestServed status (milliseconds m.duration)] }

/- What every entry of the log about a request holds. -/
def context (s : Subject) (r : Http.Request) : Json.Members :=
  [("correlation_id", .str s.correlationId),
   ("http_method", .str r.method),
   ("http_path", .str s.path)]

/- The answer to a request whose address cannot be read. -/
def unreadable : Response where
  status := 500
  headers := [("content-type", "text/plain; charset=utf-8")]
  body := .text "Internal Server Error"

/- A response as it is sent for a request. -/
def sentFor
    (r : Http.Request)
    (response : Response) : Response :=
  if r.method = "HEAD" then response.bodiless else response

/-
  Answer a request.  Its name goes to the response and to
  every entry of the log.  A request whose address cannot be
  read gets as far as neither.
-/
def handle
    (a : App ω σ)
    (m : Moment)
    (r : Http.Request)
    (l : Ledger ω) : Response × Ledger ω × List Entry :=
  match a.framework.urlPath r with
  | none => (sentFor r unreadable, l, [])
  | some path =>
      let s : Subject := ⟨correlationId m r, path⟩
      let o := a.measured m s r l
      let response :=
        o.response.withHeader "x-correlation-id"
          s.correlationId
      (sentFor r response, o.ledger,
        o.events.map fun e => e.entry.within (context s r))

end App

------------------------------------------------------------
-- Starting and Stopping
------------------------------------------------------------

namespace App

variable {ω σ : Type}

/- What is told when the application starts. -/
def start (a : App ω σ) : List Event :=
  [.serviceStarting a.version a.settings.env
    a.settings.clusterSource.name a.settings.requireAuth]

/- Stop the application. -/
def stop (l : Ledger ω) : Ledger ω × List Event :=
  (l.measure (·.shutDown), [.serviceStopping])

end App

end EventTopology
