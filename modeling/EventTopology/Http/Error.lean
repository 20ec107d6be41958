import EventTopology.Json.Basic

/-
  This file defines the errors that a framework for serving
  requests has handlers for.  Each carries the status that
  it is answered with and a detail about it.

  Key definitions include:
    * `Http.ErrorClass`
    * `Http.ErrorClass.lineage`
    * `Http.Error`
-/

------------------------------------------------------------
-- Classes of Errors
------------------------------------------------------------

namespace EventTopology

namespace Http

/- The classes that errors descend from. -/
inductive ErrorClass where
/- Errors with a status; the router raises these itself. -/
| http
/- The errors with a status that applications raise. -/
| application
/- Requests that have not the form that is asked of them. -/
| invalidRequest
deriving DecidableEq, Repr

/- A class and those that it descends from, in that order. -/
def ErrorClass.lineage : ErrorClass → List ErrorClass
| .http => [.http]
| .application => [.application, .http]
| .invalidRequest => [.invalidRequest]

end Http

------------------------------------------------------------
-- Errors
------------------------------------------------------------

namespace Http

/- An error with a status of its own. -/
structure Error where
  cls : ErrorClass
  /- The name of its class, which may be a descendant. -/
  typeName : String := "HTTPException"
  words : String
  status : Nat
  detail : Json
  headers : List (String × String) := []

namespace Error

/- An error with a text as its detail. -/
def ofText
    (cls : ErrorClass)
    (status : Nat)
    (detail : String)
    (headers : List (String × String)) : Error where
  cls := cls
  words := toString status ++ ": " ++ detail
  status := status
  detail := .str detail
  headers := headers

end Error

end Http

end EventTopology
