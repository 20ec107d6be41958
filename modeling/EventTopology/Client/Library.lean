import EventTopology.Client.Configuration
import EventTopology.Cluster.Cluster

/-
  This file defines the client library that a session talks
  to: the calls that can be made, the faults that they can
  end in, and how faults become errors of a cluster.

  Key definitions include:
    * `Client.Call`
    * `Client.Fault`
    * `Client.Library`
    * `Client.listFailure`
    * `Client.lookupFailure`
-/

------------------------------------------------------------
-- Calls
------------------------------------------------------------

namespace EventTopology

namespace Client

/- What can be asked of a library. -/
inductive Call where
/- Open a connection. -/
| connect
/- Prepare lookups of resources of any kind. -/
| prepareLookups
/- List the resources of a kind in all namespaces. -/
| list
    (group version plural : String)
    (selector : Option String)
/- Is there a kind under this name? -/
| kind (apiVersion kind : String)
/- Get one resource of a kind. -/
| get (apiVersion kind name ns : String)
/- Ask for the version of the cluster. -/
| version
/- Close the connection. -/
| disconnect
deriving DecidableEq, Repr

/- A call, the connection it used and as whom. -/
structure Sent where
  connection : Nat
  configuration : Configuration
  call : Call
deriving DecidableEq, Repr

end Client

------------------------------------------------------------
-- Faults
------------------------------------------------------------

namespace Client

/- How a call can end badly. -/
inductive Fault where
/- The cluster answered with a status. -/
| api (status : Option Int) (reason : Option String)
/-
  It did so while a resource of any kind was sought, and the
  library may have found that the resource is missing.
-/
| lookup
    (missing : Bool)
    (status : Option Int)
    (reason : Option String)
/- The cluster does not serve a kind. -/
| noSuchKind
/- The cluster cannot be reached. -/
| http (words : String)
| other (words : String)
deriving DecidableEq, Repr

/- A reason in words; one that is not given is `None`. -/
def reasonWords : Option String → String
| none => "None"
| some r => r

/- A status in words; one that is not given is `None`. -/
def statusText : Option Int → String
| none => "None"
| some n => toString n

/- The status and the reason of an answer, in words. -/
def statusWords
    (status : Option Int)
    (reason : Option String) : String :=
  statusText status ++ " " ++ reasonWords reason

/- What went wrong, in words. -/
def Fault.words : Fault → String
| .api status reason =>
    "(" ++ statusText status ++ ")\nReason: " ++
      reasonWords reason ++ "\n"
| .lookup _ status reason =>
    statusText status ++ "\nReason: " ++ reasonWords reason
| .noSuchKind => "no such kind"
| .http w => w
| .other w => w

/-
  A library as its answers: what a call yields after the
  calls that were sent before it.
-/
abbrev Library := List Sent → Sent → Except Fault Json

end Client

------------------------------------------------------------
-- Faults as Errors of a Cluster
------------------------------------------------------------

namespace Client

/- A status that the cluster answered about something. -/
def statusError
    (what : String)
    (status : Option Int)
    (reason : Option String) : ClusterError :=
  if status = some 404 then .notFound (what ++ " not found")
  else
    .failed (what ++ ": " ++ statusWords status reason)
      status

/- Why a listing fails, and what is told about it. -/
def listFailure
    (what : String) : Fault → Failure × List Log.Event
| .api status reason | .lookup _ status reason =>
    (.cluster (statusError what status reason),
      [.listFailed what status reason])
| .http w =>
    (.cluster (.failed (what ++ ": " ++ w) none),
      [.unreachable what w])
| f => (.collaborator f.words, [])

/-
  How a lookup ends that the library could not answer, and
  what is told about it.  A resource or a kind that is not
  there has no identity.  That a resource is missing is for
  the library to say; its other answers are failures,
  whatever their status.
-/
def lookupFailure
    (what : String) :
    Fault → Except Failure Json × List Log.Event
| .noSuchKind | .lookup true _ _ =>
    (.ok .null, [.clusterLacksSubscriber what])
| .lookup false status reason =>
    (.error (.cluster (.failed
      (what ++ ": " ++ statusWords status reason) status)),
      [])
| .api status reason =>
    (.error (.cluster (statusError what status reason)), [])
| .http w =>
    (.error (.cluster (.failed (what ++ ": " ++ w) none)),
      [])
| .other w => (.error (.collaborator w), [])

end Client

end EventTopology
