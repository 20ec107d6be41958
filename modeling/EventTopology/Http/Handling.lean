import EventTopology.Http.Message
import EventTopology.Log.Event

/-
  This file defines how failures are answered.  An error of
  HTTP goes to the handler that is registered for its class,
  or for the nearest one that it descends from.  Whatever no
  handler answers is answered with the status 500: failures
  of builds as they are, and of all others nothing is given
  away.

  Key definitions include:
    * `App.Subject`
    * `App.errorReport`
    * `App.Handler`
    * `App.handlerFor?`
    * `App.handled`
    * `App.concealed`
    * `App.escaped`
    * `App.failure`
-/

------------------------------------------------------------
-- Reports
------------------------------------------------------------

namespace EventTopology

open Http (ErrorClass Response)
open Log (Event)

namespace App

/- What all reports on one request share. -/
structure Subject where
  correlationId : String
  path : String

/- The report of an error. -/
def errorReport
    (s : Subject)
    (status : Nat)
    (error : String)
    (message : Json) : Json :=
  .obj
    [("error", .str error),
     ("message", message),
     ("status_code", .int status),
     ("correlation_id", .str s.correlationId),
     ("path", .str s.path)]

end App

------------------------------------------------------------
-- Handlers
------------------------------------------------------------

namespace App

/- What answers an error of HTTP. -/
inductive Handler where
/- The framework, which gives the detail and no more. -/
| detail
/- The framework, for requests that are not valid. -/
| invalid
/- The application, which reports the error. -/
| report
deriving DecidableEq, Repr

/-
  The handlers by class.  The framework comes with some of
  its own, and the application adds one for the errors that
  applications raise.
-/
def handlers : List (ErrorClass × Handler) :=
  [(.http, .detail),
   (.invalidRequest, .invalid),
   (.application, .report)]

/- The handler of an error, by its nearest class with one. -/
def handlerFor? (e : Http.Error) : Option Handler :=
  e.cls.lineage.findSome? fun cls => handlers.lookup cls

/- May a response with a status have a body? -/
def mayHaveBody (status : Nat) : Bool :=
  200 ≤ status && status ≠ 204 && status ≠ 205 &&
    status ≠ 304

/- The detail of an error, as an answer. -/
def detailJson (e : Http.Error) : Json :=
  .obj [("detail", e.detail)]

/- What a handler makes of an error. -/
def handled
    (s : Subject)
    (e : Http.Error) :
    Handler → Except Failure Response × List Event
| .detail =>
    if mayHaveBody e.status then
      (Http.sendJson e.status (detailJson e) e.headers, [])
    else
      ((Http.sentHeaders e.headers).map
          (⟨e.status, ·, .empty⟩),
        [])
| .invalid => (Http.sendJson 422 (detailJson e) [], [])
| .report =>
    (Http.sendJson e.status
        (errorReport s e.status e.typeName e.detail)
        e.headers,
      [.httpError e.status e.detail s.path])

end App

------------------------------------------------------------
-- Failures
------------------------------------------------------------

namespace App

/- The answer that gives nothing away. -/
def concealed (s : Subject) : Response :=
  .json 500
    (errorReport s 500 "InternalServerError"
      (.str "An unexpected error occurred"))
    []

/-
  The answer to a failure that no handler answers.  Failures
  of builds are reported as they are; all others are kept
  from the client.
-/
def escaped
    (helpPages : String)
    (s : Subject)
    (f : Failure) : Response × List Event :=
  let words := f.words helpPages
  if f.isMeshError then
    (.json 500 (errorReport s 500 f.typeName (.str words)) [],
      [.buildFailed words f.typeName s.path])
  else
    (concealed s, [.unhandled words f.typeName s.path])

/-
  The answer to a failure.  A handler can fail as well, if
  what it has to tell cannot be sent.
-/
def failure
    (helpPages : String)
    (s : Subject)
    (f : Failure) : Response × List Event :=
  let answered := f.http?.bind fun e =>
    (handlerFor? e).map (handled s e)
  match answered with
  | none => escaped helpPages s f
  | some (.ok response, events) => (response, events)
  | some (.error f, events) =>
      let (response, more) := escaped helpPages s f
      (response, events ++ more)

end App

end EventTopology
