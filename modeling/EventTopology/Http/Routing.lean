import EventTopology.Http.Message

/-
  This file defines which requests lead where.  The routes
  of a service are asked with the method GET, and the pages
  of its framework with HEAD as well; below the mount of the
  measurements every method and path is answered.

  Key definitions include:
    * `Http.Page`
    * `Http.Route`
    * `Http.routes`
    * `Http.Routing`
    * `Http.route`
-/

------------------------------------------------------------
-- Routes
------------------------------------------------------------

namespace EventTopology

namespace Http

/- What a framework tells of a service. -/
inductive Page where
/- What can be asked, as a schema. -/
| schema
| docs
/- Where those who sign in to ask are sent back to. -/
| signIn
| reference
deriving DecidableEq, Repr

/- What a service answers. -/
inductive Route where
| mesh
| liveness
| readiness
| measurements
| page (p : Page)
deriving DecidableEq, Repr

/- Is a route asked with a method? -/
def Route.allows (method : String) : Route → Bool
| .page _ => method = "GET" || method = "HEAD"
| .measurements => true
| _ => method = "GET"

/- The paths of the routes, in the order they are tried. -/
def routes : Table Route :=
  [("/openapi.json", .page .schema),
   ("/docs", .page .docs),
   ("/docs/oauth2-redirect", .page .signIn),
   ("/redoc", .page .reference),
   ("/", .mesh),
   ("/v1/eventmesh", .mesh),
   ("/health", .liveness),
   ("/health/ready", .readiness)]

end Http

------------------------------------------------------------
-- Paths
------------------------------------------------------------

namespace Http

/- Is a path that of a route?  It may end in a line end. -/
def isAt (pattern path : String) : Bool :=
  path = pattern || path = pattern ++ "\n"

/- The route at a path, but for the mount. -/
def routeAt? (path : String) : Option Route :=
  (routes.find? fun entry => isAt entry.1 path).map (·.2)

/- Does a path start with the mount of the measurements? -/
def isMeasurements (path : String) : Bool :=
  "/metrics".toList.isPrefixOf path.toList

/- Is a path below that mount?  It is on a single line. -/
def isMounted (path : String) : Bool :=
  let mount := "/metrics/".toList
  let rest := path.toList.drop mount.length
  mount.isPrefixOf path.toList && '\n' ∉ rest.dropLast

/- Does anything answer at a path? -/
def isKnown (path : String) : Bool :=
  isMounted path || (routeAt? path).isSome

/- The path with a slash more, or with none at its end. -/
def otherPath (path : String) : String :=
  let cs := path.toList
  if cs.getLast? = some '/' then
    String.ofList (Text.trimEnd (· = '/') cs)
  else path ++ "/"

end Http

------------------------------------------------------------
-- Routing
------------------------------------------------------------

namespace Http

/- What becomes of a request. -/
inductive Routing where
| found (route : Route)
/- The path is that of a route, but not with this method. -/
| wrongMethod (route : Route)
/- The same path with or without slashes at its end. -/
| elsewhere (path : String)
| unknown
deriving DecidableEq, Repr

/- What becomes of a request. -/
def route (method path : String) : Routing :=
  if isMounted path then .found .measurements
  else
    match routeAt? path with
    | some r =>
        if r.allows method then .found r else .wrongMethod r
    | none =>
        if path ≠ "/" && isKnown (otherPath path) then
          .elsewhere (otherPath path)
        else .unknown

end Http

end EventTopology
