import EventTopology.Client.Library
import EventTopology.Resource.Conversion

/-
  This file defines sessions: clusters that are read through
  a client library.  A connection is opened when it is first
  needed and kept until the session is closed.

  Key definitions include:
    * `Session`
    * `Session.start`
    * `Session.send`
    * `Session.list`
    * `Session.resolveIdentity`
    * `Session.cluster`
-/

------------------------------------------------------------
-- Sessions
------------------------------------------------------------

namespace EventTopology

/- A use of a client library. -/
structure Session where
  configuration : Configuration
  /- The version under which event types are served. -/
  eventTypesVersion : String := "v1beta2"
  /- The number of the open connection. -/
  connection : Option Nat := none
  /- The connection that lookups were prepared over. -/
  lookups : Option Nat := none
  /- How many connections were opened and closed. -/
  opened : Nat := 0
  closed : Nat := 0
  /- All calls, in order. -/
  sent : List Client.Sent := []
deriving DecidableEq, Repr

namespace Session

/- A session for a caller over a shared configuration. -/
def start
    (shared : Configuration)
    (token : Option String)
    (eventTypesVersion : String) : Session where
  configuration := shared.forCaller token
  eventTypesVersion := eventTypesVersion

end Session

------------------------------------------------------------
-- Sending Calls
------------------------------------------------------------

namespace Session

open Client

/- A step that changes the session, even if it fails. -/
abbrev Talk := ExceptT Fault (StateM Session)

/- Make a call over a connection. -/
def sendOver
    (lib : Library)
    (connection : Nat)
    (call : Call) : Talk Json :=
  ExceptT.mk do
    let s ← get
    let sent := ⟨connection, s.configuration, call⟩
    set { s with sent := s.sent ++ [sent] }
    return lib s.sent sent

/- The connection; the first call that needs one opens it. -/
def connect (lib : Library) : Talk Nat := do
  let s ← get
  match s.connection with
  | some n => return n
  | none =>
      discard (sendOver lib s.opened .connect)
      modify fun t =>
        { t with
          connection := some s.opened
          opened := s.opened + 1 }
      return s.opened

/- Make a call. -/
def send (lib : Library) (call : Call) : Talk Json := do
  let n ← connect lib
  sendOver lib n call

/-
  The connection for lookups; the first lookup over it has
  to prepare it.
-/
def prepareLookups (lib : Library) : Talk Nat := do
  let s ← get
  match s.lookups with
  | some n => return n
  | none =>
      let n ← connect lib
      discard (sendOver lib n .prepareLookups)
      modify fun t => { t with lookups := some n }
      return n

/- Close what is open. -/
def close (s : Session) : Session :=
  match s.connection with
  | none => s
  | some n =>
      { s with
        connection := none
        lookups := none
        closed := s.closed + 1
        sent := s.sent ++ [⟨n, s.configuration, .disconnect⟩] }

end Session

------------------------------------------------------------
-- Listings
------------------------------------------------------------

namespace Session

open Client

/- The items of a listing; none where there is no list. -/
def items (body : Json) : Except Json.ShapeFault Json :=
  (body.get? "items").map (·.getD (.arr []))

/- List a kind.  The empty tag selects everything. -/
def list
    (lib : Library)
    (group version plural tag : String)
    (s : Session) : Answer Session Json :=
  let selector := if tag = "" then none else some tag
  let what := plural ++ "." ++ group ++ "/" ++ version
  match (send lib (.list group version plural selector)) s
    with
  | (.ok body, s') => .still s' (Failure.ofShape (items body))
  | (.error f, s') =>
      let (failure, events) := listFailure what f
      ⟨.error failure, s', events⟩

end Session

------------------------------------------------------------
-- Lookups
------------------------------------------------------------

namespace Session

open Client

/- The resource that a reference names. -/
def find
    (lib : Library)
    (ref : ObjectReference) : Talk Json := do
  let n ← prepareLookups lib
  discard (sendOver lib n (.kind ref.apiVersion ref.kind))
  sendOver lib n
    (.get ref.apiVersion ref.kind ref.name ref.ns)

/- The value of a label of a resource, or null. -/
def labelOf
    (label : String)
    (body : Json) : Except Json.ShapeFault Json := do
  (← Resource.labelsOf body).get label

/- The label of the resource that a reference names. -/
def resolveIdentity
    (lib : Library)
    (ref : ObjectReference)
    (label : String)
    (s : Session) : Answer Session Json :=
  match (find lib ref) s with
  | (.ok body, s') =>
      .still s' (Failure.ofShape (labelOf label body))
  | (.error f, s') =>
      let (outcome, events) := lookupFailure ref.key f
      ⟨outcome, s', events⟩

end Session

------------------------------------------------------------
-- Sessions as Clusters
------------------------------------------------------------

namespace Session

open Client

/- What a session answers to a request. -/
def answer
    (lib : Library)
    (r : Request)
    (s : Session) : Answer Session Json :=
  match r with
  | .brokers =>
      list lib "eventing.knative.dev" "v1" "brokers" "" s
  | .eventTypes =>
      list lib "eventing.knative.dev" s.eventTypesVersion
        "eventtypes" "" s
  | .triggers =>
      list lib "eventing.knative.dev" "v1" "triggers" "" s
  | .subscriptions =>
      list lib "messaging.knative.dev" "v1"
        "subscriptions" "" s
  | .definitions tag =>
      list lib "apiextensions.k8s.io" "v1"
        "customresourcedefinitions" tag s
  | .instances coords =>
      list lib coords.group coords.version coords.resource
        "" s
  | .identity ref label => resolveIdentity lib ref label s

/- Does the cluster tell its version? -/
def health
    (lib : Library)
    (s : Session) : Answer Session Json :=
  match (send lib .version) s with
  | (.ok _, s') => .still s' (.ok (.bool true))
  | (.error f, s') =>
      ⟨.ok (.bool false), s', [.healthCheckFailed f.words]⟩

/- The cluster that is read through a library. -/
def cluster (lib : Library) : Cluster Session where
  answer := answer lib
  health := health lib
  close s := (.ok (), s.close)

end Session

end EventTopology
