import EventTopology.Decimal.Shortest
import EventTopology.Failure
import EventTopology.Log.Event

/-
  This file defines how a service reports on its health: that
  it is alive, and whether it is ready, which asks for a
  cluster that can be reached and for enough memory.

  Key definitions include:
    * `Health.Check`
    * `Health.cluster`
    * `Health.memory`
    * `Health.liveness`
    * `Health.readiness`
-/

------------------------------------------------------------
-- Checks
------------------------------------------------------------

namespace EventTopology

namespace Health

/- How a check went. -/
inductive Status where
| ok
| warning
| error
deriving DecidableEq, Repr

/- The name of a status. -/
def Status.name : Status → String
| .ok => "ok"
| .warning => "warning"
| .error => "error"

/- A finished check and what else is reported of it. -/
structure Check where
  status : Status
  fields : Json.Members := []

/- The JSON object of a check. -/
def Check.toJson (c : Check) : Json :=
  .obj (("status", .str c.status.name) :: c.fields)

/- A check that failed for a reason. -/
def failed (words : String) : Check :=
  ⟨.error, [("error", .str words)]⟩

/-
  The check of the cluster by what a probe found.  A true
  value means that the cluster can be reached.
-/
def cluster
    (helpPages : String) :
    Except Failure Json → Check × List Log.Event
| .ok found =>
    (if found.truthy then ⟨.ok, []⟩
     else failed "cluster unreachable", [])
| .error f =>
    (failed (f.words helpPages),
      [.clusterProbeFailed (f.words helpPages)])

end Health

------------------------------------------------------------
-- Memory
------------------------------------------------------------

namespace Health

/- What is known of the memory of a machine, in bytes. -/
structure Memory where
  available : Json
  total : Json
  /- The used share, which is passed on as it is. -/
  percent : Json

/- How many bytes a megabyte has. -/
def megabyte : Nat := 1024 * 1024

/- A number of bytes in megabytes. -/
def megabytes : Json → Except Failure Float
| .bool b =>
    .ok (Decimal.nearest false (if b then 1 else 0) megabyte)
| .int n =>
    let x := Decimal.nearest (n < 0) n.natAbs megabyte
    match Decimal.decode x with
    | .finite _ _ => .ok x
    | _ =>
        .error (.tooLarge
          "integer division result too large for a float")
| .float x => .ok (x / Decimal.ofInt megabyte)
| v =>
    .error (.arguments
      ("unsupported operand type(s) for /: '" ++
        v.kind.typeName ++ "' and 'int'"))

/- Below this many megabytes, memory is too short. -/
def shortMegabytes : Float := 50.0

/- The status of memory by available megabytes. -/
def memoryStatus (available : Float) : Status :=
  if available < shortMegabytes then .error
  else if available < shortMegabytes * 2.0 then .warning
  else .ok

/- The report on memory, amounts rounded to two places. -/
def memoryReport (m : Memory) : Except Failure Check := do
  let available ← megabytes m.available
  let total ← megabytes m.total
  return ⟨memoryStatus available,
    [("available_mb", .float (Decimal.roundPlaces available)),
     ("total_mb", .float (Decimal.roundPlaces total)),
     ("used_percent", m.percent)]⟩

/-
  The check of memory by what is known of it, or by the
  words in which asking for it failed.
-/
def memory
    (found : Except String Memory) :
    Check × List Log.Event :=
  let report : Except String Check :=
    match found with
    | .error words => .error words
    | .ok m =>
        match memoryReport m with
        | .ok c => .ok c
        | .error f => .error f.message
  match report with
  | .ok c => (c, [])
  | .error words => (failed words, [.memoryProbeFailed words])

end Health

------------------------------------------------------------
-- Reports
------------------------------------------------------------

namespace Health

/- The service that reports, and when it does. -/
structure Reporter where
  service : String := "eventmesh"
  version : String := "0.1.0"
  now : String

/- The members that all reports of a service have. -/
def Reporter.members
    (r : Reporter)
    (status : String) : Json.Members :=
  [("status", .str status), ("service", .str r.service),
   ("version", .str r.version), ("timestamp", .str r.now)]

/- The report that a service is alive. -/
def liveness (r : Reporter) : Json :=
  .obj (r.members "ok")

/- Does no check stand in the way of serving? -/
def isReady (cluster memory : Check) : Bool :=
  cluster.status ≠ .error && memory.status ≠ .error

/- The report whether a service is ready. -/
def readiness
    (r : Reporter)
    (cluster memory : Check) : Json :=
  let status :=
    if isReady cluster memory then "ready" else "not_ready"
  .obj
    (r.members status ++
      [("checks", .obj
        [("cluster", cluster.toJson),
         ("memory", memory.toJson)])])

end Health

end EventTopology
