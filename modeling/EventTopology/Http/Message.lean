import EventTopology.Failure
import EventTopology.Http.Path
import EventTopology.Text.Blank
import EventTopology.Text.Latin

/-
  This file defines requests and responses.

  Key definitions include:
    * `Http.Request`
    * `Http.Response`
    * `Http.bearerToken`
-/

------------------------------------------------------------
-- Requests
------------------------------------------------------------

namespace EventTopology

namespace Http

/- A request; headers may repeat. -/
structure Request where
  method : String
  target : Path.Target
  headers : List (String × String) := []
deriving DecidableEq, Repr

namespace Request

/- A request as a client writes it. -/
def make
    (method target : String)
    (headers : List (String × String)) : Request where
  method := method.toUpper
  target := Path.ofTarget target
  headers := headers

/- The first header of a name, which is given in lower case. -/
def header (r : Request) (name : String) : Option String :=
  (r.headers.find? fun h => Text.lowerAscii h.1 = name).map
    (·.2)

end Request

end Http

------------------------------------------------------------
-- Bearer Tokens
------------------------------------------------------------

namespace Http

/-
  The token of an `Authorization` header, without blanks
  around it.  The scheme before the first blank must be that
  of bearer tokens, in any case.
-/
def tokenOf (header : String) : Option String :=
  match Text.splitOnce ' ' header with
  | none => none
  | some (scheme, token) =>
      let token := Text.strip token
      if Text.lowerAscii scheme = "bearer" && token ≠ "" then
        some token
      else none

/- The token that a request brings. -/
def bearerToken (r : Request) : Option String :=
  (r.header "authorization").bind tokenOf

end Http

------------------------------------------------------------
-- Responses
------------------------------------------------------------

namespace Http

/- What a response carries. -/
inductive Body where
| json (v : Json)
/- The families of all measurements. -/
| measurements (families : List (String × String))
| text (s : String)
| empty

/- A response. -/
structure Response where
  status : Nat
  headers : Table String := []
  body : Body

namespace Response

/-
  A response that is a JSON value, and says so unless its
  headers say what it is.
-/
def json
    (status : Nat)
    (v : Json)
    (headers : Table String) : Response where
  status := status
  headers :=
    if Table.has "content-type" headers then headers
    else headers ++ [("content-type", "application/json")]
  body := .json v

/- Give a response one more header. -/
def withHeader
    (r : Response)
    (name value : String) : Response :=
  { r with headers := Table.insert name value r.headers }

/- A response without what it carries. -/
def bodiless (r : Response) : Response :=
  { r with body := .empty }

end Response

end Http

------------------------------------------------------------
-- Sending Responses
------------------------------------------------------------

namespace Http

/- Why headers cannot be sent, in words. -/
def headerFault?
    (headers : List (String × String)) : Option String :=
  headers.findSome? fun (name, value) =>
    (Text.latinFault? name).or (Text.latinFault? value)

/- Headers as they are sent, with names in lower case. -/
def sentHeaders
    (headers : List (String × String)) :
    Except Failure (Table String) :=
  match headerFault? headers with
  | some words => .error (.notLatin words)
  | none =>
      .ok (headers.map fun (name, value) =>
        (Text.lowerAscii name, value))

/- A response that is a JSON value, if it can be sent. -/
def sendJson
    (status : Nat)
    (v : Json)
    (headers : List (String × String)) :
    Except Failure Response :=
  match v.firstFault Json.sendFault with
  | some e => .error (.shape e)
  | none => (sentHeaders headers).map (.json status v)

end Http

end EventTopology
