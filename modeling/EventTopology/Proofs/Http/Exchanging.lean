import EventTopology.Http.App

/-
  This file describes exchanges: requests with the responses
  to them.  Under whatever name and path, a request whose
  address can be read is answered at its route; any other
  gets a plain error and changes nothing.

  Key definitions include:
    * `Http.Request.LeadsToMesh`
    * `Http.Request.AsksForMesh`
    * `App.Exchange`
    * `App.exchanges`
    * `App.subject`
    * `App.respond`

  The main results are:
    * `Http.route_cases`
    * `App.exchange_of_unreadable`
    * `App.exchange_eq_answer`
    * `App.exchange_eq_mesh`
-/

------------------------------------------------------------
-- Requests for a Mesh
------------------------------------------------------------

namespace EventTopology

namespace Http

/- No path but those of the mount leads to measurements. -/
theorem routeAt?_ne_measurements
    {path : String}
    {found : Route}
    (hRoute : routeAt? path = some found) :
    found ≠ .measurements := by
  unfold routeAt? at hRoute
  rw [Option.map_eq_some_iff] at hRoute
  rcases hRoute with ⟨entry, hFind, rfl⟩
  have hAll : ∀ e ∈ routes, e.2 ≠ .measurements := by
    decide
  exact hAll entry (List.mem_of_find?_eq_some hFind)

/- What becomes of a request outside the mount. -/
theorem route_cases
    (method : String)
    {path : String}
    (hMounted : isMounted path = false) :
    (∃ found, routeAt? path = some found ∧
      (found.allows method = true ∧
          route method path = .found found ∨
        found.allows method = false ∧
          route method path = .wrongMethod found)) ∨
    routeAt? path = none ∧
      (route method path = .unknown ∨
        ∃ other, route method path = .elsewhere other) := by
  unfold route
  rw [hMounted, if_neg Bool.false_ne_true]
  cases hRoute : routeAt? path with
  | some found =>
      refine Or.inl ⟨found, rfl, ?_⟩
      dsimp only
      cases found.allows method with
      | true => exact Or.inl ⟨rfl, rfl⟩
      | false => exact Or.inr ⟨rfl, rfl⟩
  | none =>
      refine Or.inr ⟨rfl, ?_⟩
      dsimp only
      split
      · exact Or.inr ⟨_, rfl⟩
      · exact Or.inl rfl

/- A request leads to the route of the mesh. -/
def Request.LeadsToMesh (r : Request) : Prop :=
  route r.method r.target.path = .found .mesh

instance (r : Request) : Decidable r.LeadsToMesh :=
  inferInstanceAs (Decidable (_ = _))

/- Only the method GET leads there. -/
theorem Request.LeadsToMesh.method
    {r : Request}
    (hLeads : r.LeadsToMesh) :
    r.method = "GET" := by
  unfold LeadsToMesh at hLeads
  cases hMounted : isMounted r.target.path with
  | true =>
      unfold route at hLeads
      rw [hMounted] at hLeads
      cases hLeads
  | false =>
      rcases route_cases r.method hMounted with
        ⟨found, _, ⟨hAllows, hFound⟩ | ⟨_, hWrong⟩⟩ |
          ⟨_, hUnknown | ⟨other, hElsewhere⟩⟩
      · rw [hFound] at hLeads
        cases hLeads
        exact of_decide_eq_true hAllows
      · rw [hWrong] at hLeads
        cases hLeads
      · rw [hUnknown] at hLeads
        cases hLeads
      · rw [hElsewhere] at hLeads
        cases hLeads

/- A request asks for a mesh. -/
structure Request.AsksForMesh (r : Request) : Prop where
  method : r.method = "GET"
  path : r.target.path = "/" ∨
    r.target.path = "/v1/eventmesh"

theorem Request.AsksForMesh.leads
    {r : Request}
    (hAsks : r.AsksForMesh) :
    r.LeadsToMesh := by
  unfold LeadsToMesh
  rw [hAsks.method]
  rcases hAsks.path with hPath | hPath
  · rw [hPath]
    rfl
  · rw [hPath]
    rfl

end Http

------------------------------------------------------------
-- Exchanges
------------------------------------------------------------

namespace App

variable {ω σ : Type}

/- A request, the response to it, and the ledgers around. -/
structure Exchange (ω : Type) where
  request : Http.Request
  response : Http.Response
  before : Ledger ω
  after : Ledger ω

/- Answer one request. -/
def exchange
    (a : App ω σ)
    (l : Ledger ω)
    (x : Moment × Http.Request) : Exchange ω where
  request := x.2
  response := (a.handle x.1 x.2 l).1
  before := l
  after := (a.handle x.1 x.2 l).2.1

/- Answer requests in order, each with the ledger left. -/
def exchanges
    (a : App ω σ)
    (l : Ledger ω) :
    List (Moment × Http.Request) → List (Exchange ω)
| [] => []
| x :: xs =>
    a.exchange l x :: a.exchanges (a.exchange l x).after xs

/- The ledger that is left after requests. -/
def ledgerAfter
    (a : App ω σ)
    (l : Ledger ω) :
    List (Moment × Http.Request) → Ledger ω
| [] => l
| x :: xs => a.ledgerAfter (a.exchange l x).after xs

/- Each exchange is that of some request with some ledger. -/
theorem mem_exchanges
    {a : App ω σ}
    {l : Ledger ω}
    {e : Exchange ω}
    {xs : List (Moment × Http.Request)}
    (hMem : e ∈ a.exchanges l xs) :
    ∃ l' x, x ∈ xs ∧ e = a.exchange l' x := by
  induction xs generalizing l with
  | nil => cases hMem
  | cons x xs ih =>
      rw [exchanges, List.mem_cons] at hMem
      rcases hMem with rfl | hLater
      · exact ⟨l, x, List.mem_cons_self, rfl⟩
      · rcases ih hLater with ⟨l', y, hMem, hSame⟩
        exact ⟨l', y, List.mem_cons_of_mem x hMem, hSame⟩

end App

------------------------------------------------------------
-- Responses under a Name
------------------------------------------------------------

namespace App

open Http (Response)

theorem status_sentFor
    (r : Http.Request)
    (response : Response) :
    (sentFor r response).status = response.status := by
  unfold sentFor
  split <;> rfl

theorem headers_sentFor
    (r : Http.Request)
    (response : Response) :
    (sentFor r response).headers = response.headers := by
  unfold sentFor
  split <;> rfl

theorem body_sentFor
    (r : Http.Request)
    (response : Response) :
    (sentFor r response).body =
      if r.method = "HEAD" then .empty else response.body := by
  unfold sentFor
  split <;> rfl

/- Send an answer under the name of its request. -/
def respond
    (m : Moment)
    (r : Http.Request)
    (response : Response) : Response :=
  sentFor r (response.withHeader "x-correlation-id"
    (correlationId m r))

variable (m : Moment)
variable (r : Http.Request)
variable (response : Response)

theorem status_respond :
    (respond m r response).status = response.status :=
  status_sentFor r _

theorem body_respond :
    (respond m r response).body =
      if r.method = "HEAD" then .empty else response.body :=
  body_sentFor r _

/- A response carries the name of its request. -/
theorem lookup_respond :
    Table.lookup "x-correlation-id"
        (respond m r response).headers =
      some (correlationId m r) := by
  rw [respond, headers_sentFor]
  exact Table.lookup_insert_self _ _ _

/- The name that a request brings is its own. -/
theorem correlationId_of_header
    {r : Http.Request}
    (m : Moment)
    {id : String}
    (hName : r.header "x-correlation-id" = some id)
    (hNe : id ≠ "") :
    correlationId m r = id := by
  unfold correlationId
  rw [hName]
  split
  · rename_i hSame
    cases hSame
  · rename_i hSame
    cases hSame
    exact (hNe rfl).elim
  · rename_i hSame
    cases hSame
    rfl

/- What leads to the mesh is answered with a body. -/
theorem body_respond_of_leadsToMesh
    {r : Http.Request}
    (m : Moment)
    (hLeads : r.LeadsToMesh)
    (response : Response) :
    (respond m r response).body = response.body := by
  rw [body_respond, if_neg]
  rw [hLeads.method]
  decide

end App

------------------------------------------------------------
-- Answers at the Route
------------------------------------------------------------

namespace Ledger

variable {ω : Type}

/- Nothing is measured by leaving measurements alone. -/
theorem measure_id (l : Ledger ω) :
    l.measure id = l := by
  rcases l with ⟨world, _ | registry, tokens, opened, closed⟩
  · rfl
  · rfl

end Ledger

namespace App

variable {ω σ : Type}

/- What all reports on one request share. -/
def subject
    (m : Moment)
    (r : Http.Request)
    (path : String) : Subject :=
  ⟨correlationId m r, path⟩

variable {a : App ω σ}
variable {m : Moment}
variable {r : Http.Request}
variable {path : String}

/-
  A request whose address cannot be read gets a plain error
  and leaves everything as it is.
-/
theorem exchange_of_unreadable
    (l : Ledger ω)
    (hUrl : a.framework.urlPath r = none) :
    a.exchange l (m, r) =
      ⟨r, sentFor r unreadable, l, l⟩ := by
  unfold exchange handle
  rw [hUrl]

/- Any other request is measured, if at all, and answered. -/
theorem exchange_of_readable
    (l : Ledger ω)
    (hUrl : a.framework.urlPath r = some path) :
    let o := a.measured m (subject m r path) r l
    a.exchange l (m, r) =
      ⟨r, respond m r o.response, l, o.ledger⟩ := by
  unfold exchange handle
  rw [hUrl]
  rfl

/- The response to it carries its name. -/
theorem lookup_exchange
    (l : Ledger ω)
    (hUrl : a.framework.urlPath r = some path) :
    Table.lookup "x-correlation-id"
        (a.exchange l (m, r)).response.headers =
      some (correlationId m r) := by
  rw [exchange_of_readable l hUrl]
  exact lookup_respond m r _

/-
  But for what is measured before and after, it is answered
  at its route.
-/
theorem exchange_eq_answer
    (l : Ledger ω)
    (hUrl : a.framework.urlPath r = some path) :
    ∃ begins ends : Registry → Registry,
      let o := a.answer m (subject m r path) r
        (l.measure begins)
      a.exchange l (m, r) =
        ⟨r, respond m r o.response, l,
          o.ledger.measure ends⟩ := by
  rw [exchange_of_readable l hUrl]
  unfold measured
  split
  · refine ⟨id, id, ?_⟩
    rw [Ledger.measure_id]
    dsimp only
    rw [Ledger.measure_id]
  · exact ⟨_, _, rfl⟩

/- What leads to the mesh is answered by its route. -/
theorem answer_of_leadsToMesh
    {s : Subject}
    {l : Ledger ω}
    (hLeads : r.LeadsToMesh) :
    a.answer m s r l = a.mesh m s r l := by
  have hRoute : Http.route r.method r.target.path =
      .found .mesh := hLeads
  unfold answer
  rw [hRoute]
  rfl

/-
  So a request for a mesh is answered by that route, whatever
  is measured before and after.
-/
theorem exchange_eq_mesh
    (m : Moment)
    (l : Ledger ω)
    (hLeads : r.LeadsToMesh)
    (hUrl : a.framework.urlPath r = some path) :
    ∃ begins ends : Registry → Registry,
      let o := a.mesh m (subject m r path) r
        (l.measure begins)
      a.exchange l (m, r) =
        ⟨r, respond m r o.response, l,
          o.ledger.measure ends⟩ := by
  rcases exchange_eq_answer (m := m) l hUrl with
    ⟨begins, ends, hExchange⟩
  rw [answer_of_leadsToMesh hLeads] at hExchange
  exact ⟨begins, ends, hExchange⟩

end App

end EventTopology
