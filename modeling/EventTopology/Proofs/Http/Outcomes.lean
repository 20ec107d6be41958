import EventTopology.Proofs.Http.Credentials
import EventTopology.Proofs.Mesh.Errors
import EventTopology.Proofs.Service.Accounting

/-
  This file shows how a request for a mesh is answered.  It
  is denied before a cluster is asked for, or a cluster is
  asked for once and the answer is made of what the build
  comes to.  A failure that is neither one of builds nor one
  of HTTP gives nothing away, and both paths to the mesh
  lead to the same.

  Key definitions include:
    * `App.Denies`
    * `App.Admits`
    * `App.shown`
    * `App.Exchange.Denied`
    * `App.Exchange.Granted`
    * `App.Exchange.SameButPath`

  The main results are:
    * `App.denied_of_denies`
    * `App.granted_of_admits`
    * `App.sameButPath`
    * `App.answered_of_leadsToMesh`
    * `App.outcome_of_asksForMesh`
-/

------------------------------------------------------------
-- Denying and Admitting
------------------------------------------------------------

namespace EventTopology

namespace App

variable {ω σ : Type}

open Http (Response)

/- Tokens are required, and a request brings none. -/
def Denies (a : App ω σ) (r : Http.Request) : Prop :=
  a.settings.requireAuth = true ∧ ∀ token, ¬ r.Bears token

/-
  The token that a cluster is asked for with: the one that a
  request brings, or none where none is required.
-/
def Admits
    (a : App ω σ)
    (r : Http.Request) : Option String → Prop
| some token => r.Bears token
| none =>
    a.settings.requireAuth = false ∧
      ∀ token, ¬ r.Bears token

/- A request is denied, or admitted with some token. -/
theorem denies_or_admits (a : App ω σ) (r : Http.Request) :
    a.Denies r ∨ ∃ token, a.Admits r token := by
  cases hToken : Http.bearerToken r with
  | some token =>
      exact Or.inr ⟨some token,
        Http.bearerToken_eq_some_iff.mp hToken⟩
  | none =>
      have hNone := Http.bearerToken_eq_none_iff.mp hToken
      cases hAuth : a.settings.requireAuth with
      | true => exact Or.inl ⟨hAuth, hNone⟩
      | false => exact Or.inr ⟨none, hAuth, hNone⟩

end App

------------------------------------------------------------
-- Answers at the Route
------------------------------------------------------------

namespace App

variable {ω σ : Type}

open Http (Response)

/- What is made of the outcome of a build. -/
def shown
    (helpPages : String)
    (s : Subject)
    (o : Except Failure Mesh) : Response :=
  match o.bind fun mesh => Http.sendJson 200 mesh.toJson []
  with
  | .ok response => response
  | .error f => (failure helpPages s f).1

/- A mesh that can be sent is the answer. -/
theorem shown_of_isSendable
    (helpPages : String)
    (s : Subject)
    {mesh : Mesh}
    (hSend : mesh.toJson.IsSendable) :
    shown helpPages s (.ok mesh) =
      .json 200 mesh.toJson [] := by
  have hEnds := Http.sendJson_ends 200 mesh.toJson []
  unfold shown Except.bind
  dsimp only
  cases hSent : Http.sendJson 200 mesh.toJson [] with
  | ok response =>
      rw [hSent] at hEnds
      exact hEnds.2
  | error f =>
      rw [hSent] at hEnds
      exact (hEnds.1 ⟨hSend, rfl⟩).elim

/- Of any other mesh nothing is told. -/
theorem shown_of_not_isSendable
    (helpPages : String)
    (s : Subject)
    {mesh : Mesh}
    (hNot : ¬ mesh.toJson.IsSendable) :
    shown helpPages s (.ok mesh) = concealed s := by
  have hEnds := Http.sendJson_ends 200 mesh.toJson []
  unfold shown Except.bind
  dsimp only
  cases hSent : Http.sendJson 200 mesh.toJson [] with
  | ok response =>
      rw [hSent] at hEnds
      exact (hNot hEnds.1.1).elim
  | error f =>
      rw [hSent] at hEnds
      exact failure_of_isConcealed helpPages s hEnds.2

variable {a : App ω σ}
variable {m : Moment} {s : Subject}
variable {r : Http.Request} {l : Ledger ω}

theorem mesh_of_denies (hDenies : a.Denies r) :
    (a.mesh m s r l).response =
        .json 401
          (errorReport s 401 "HTTPException"
            missingToken.detail)
          [("www-authenticate", "Bearer")] ∧
      (a.mesh m s r l).ledger = l :=
  a.mesh_of_missing m s l hDenies.1
    (Http.bearerToken_eq_none_iff.mpr hDenies.2)

theorem response_meshFor
    (token : Option String) :
    (a.meshFor m s token l).response =
      shown a.helpPages s
        (a.service.build token m.duration l).outcome := by
  unfold meshFor shown
  dsimp only
  rcases (a.service.build token m.duration l).outcome.bind
    fun mesh => Http.sendJson 200 mesh.toJson [] <;> rfl

theorem mesh_of_admits
    {token : Option String}
    (hAdmits : a.Admits r token) :
    (a.mesh m s r l).response = shown a.helpPages s
        (a.service.build token m.duration l).outcome ∧
      (a.mesh m s r l).ledger =
        (a.service.build token m.duration l).ledger := by
  have hCaller : (a.callerToken r).1 = .ok token := by
    cases token with
    | some token =>
        exact a.callerToken_of_token
          (Http.bearerToken_eq_some_iff.mpr hAdmits)
    | none =>
        rw [callerToken,
          Http.bearerToken_eq_none_iff.mpr hAdmits.2,
          hAdmits.1]
        rfl
  rcases a.mesh_of_callerToken m s l hCaller with
    ⟨hResponse, hLedger⟩
  exact ⟨hResponse.trans (response_meshFor token), hLedger⟩

end App

------------------------------------------------------------
-- Errors about a Mesh
------------------------------------------------------------

namespace App

variable {r : Http.Request}

/- An error is told as the route has it. -/
theorem TellsError.respond
    {response : Http.Response}
    {s : Subject}
    {status : Nat}
    {error : String}
    {message : Json}
    (hTells : TellsError response s status error message)
    (m : Moment)
    (hLeads : r.LeadsToMesh) :
    TellsError (App.respond m r response) s status error
      message where
  hasStatus := (status_respond m r _).trans hTells.hasStatus
  hasBody :=
    (body_respond_of_leadsToMesh m hLeads _).trans
      hTells.hasBody

/- So is an error of HTTP answered. -/
theorem Answers.respond
    {response : Http.Response}
    {s : Subject}
    {e : Http.Error}
    (hAnswers : Answers response s e)
    (m : Moment)
    (hLeads : r.LeadsToMesh) :
    Answers (App.respond m r response) s e := by
  unfold Answers at hAnswers ⊢
  cases hClass : e.cls <;> rw [hClass] at hAnswers
  case application => exact hAnswers.respond m hLeads
  case http | invalidRequest =>
    dsimp only at hAnswers ⊢
    rw [status_respond, body_respond_of_leadsToMesh m hLeads]
    exact hAnswers

end App

------------------------------------------------------------
-- Denied Requests
------------------------------------------------------------

namespace App

variable {ω σ : Type}

/-
  A request is denied: it is told to bring a token, and no
  cluster is asked for.
-/
structure Exchange.Denied
    (e : Exchange ω)
    (s : Subject) : Prop where
  tells : TellsError e.response s 401 "HTTPException"
    missingToken.detail
  challenge :
    Table.lookup "www-authenticate" e.response.headers =
      some "Bearer"
  tokens : e.after.tokens = e.before.tokens
  world : e.after.world = e.before.world
  opened : e.after.opened = e.before.opened

variable {a : App ω σ}
variable {m : Moment}
variable {r : Http.Request}
variable {path : String}

theorem denied_of_denies
    (l : Ledger ω)
    (hLeads : r.LeadsToMesh)
    (hUrl : a.framework.urlPath r = some path)
    (hDenies : a.Denies r) :
    (a.exchange l (m, r)).Denied (subject m r path) := by
  rcases exchange_eq_mesh m l hLeads hUrl with
    ⟨begins, ends, hExchange⟩
  rcases mesh_of_denies (m := m) (s := subject m r path)
    (l := l.measure begins) hDenies with ⟨hRefusal, hLedger⟩
  dsimp only at hExchange
  rw [hRefusal, hLedger] at hExchange
  rw [hExchange]
  refine ⟨(tellsError_json _ _ _ _ _).respond m hLeads, ?_,
    rfl, rfl, rfl⟩
  rw [respond, headers_sentFor]
  exact (Table.lookup_insert_of_ne _ _ (by decide)).trans rfl

end App

------------------------------------------------------------
-- Granted Requests
------------------------------------------------------------

namespace App

variable {ω σ : Type}

/-
  A request is granted: a cluster is asked for once, with a
  token, and the answer is the mesh that is built for it, or
  why there is none.  Failures of builds are told, errors of
  HTTP are answered as such, and nothing else is told.
-/
structure Exchange.Granted
    (a : App ω σ)
    (duration : Amount)
    (e : Exchange ω)
    (s : Subject)
    (token : Option String) : Prop where
  tokens : e.after.tokens = e.before.tokens ++ [token]
  world : e.after.world =
    (a.service.build token duration e.before).ledger.world
  built : ∀ mesh,
    (a.service.build token duration e.before).outcome =
        .ok mesh →
      mesh.toJson.IsSendable →
        e.response.status = 200 ∧
          e.response.body = .json mesh.toJson
  /- A mesh with too long a number has no written form. -/
  unwritten : ∀ mesh,
    (a.service.build token duration e.before).outcome =
        .ok mesh →
      ¬ mesh.toJson.HasText → Conceals e.response s
  failed : ∀ f,
    (a.service.build token duration e.before).outcome =
        .error f →
      f.isMeshError = true →
        TellsError e.response s 500 f.typeName
          (.str f.message)
  answered : ∀ error,
    (a.service.build token duration e.before).outcome =
        .error (.http error) →
      Answers e.response s error ∨
        ¬ error.IsSendable ∧ Conceals e.response s
  concealed : ∀ f,
    (a.service.build token duration e.before).outcome =
        .error f →
      f.IsConcealed → Conceals e.response s

variable {a : App ω σ}
variable {m : Moment}
variable {r : Http.Request}
variable {path : String}
variable {token : Option String}

/- A granted request is answered by the build for it. -/
theorem response_of_admits
    (m : Moment)
    (l : Ledger ω)
    (hLeads : r.LeadsToMesh)
    (hUrl : a.framework.urlPath r = some path)
    (hAdmits : a.Admits r token) :
    (a.exchange l (m, r)).response = respond m r
      (shown a.helpPages (subject m r path)
        (a.service.build token m.duration l).outcome) := by
  rcases exchange_eq_mesh m l hLeads hUrl with
    ⟨begins, ends, hExchange⟩
  rcases mesh_of_admits (m := m) (s := subject m r path)
    (l := l.measure begins) hAdmits with ⟨hMesh, -⟩
  rcases a.service.build_measure token m.duration l begins
    with ⟨hOutcome, -⟩
  rw [hExchange, hMesh, hOutcome]

/- If the build failed, by its failure. -/
theorem response_of_error
    {f : Failure}
    (m : Moment)
    (l : Ledger ω)
    (hLeads : r.LeadsToMesh)
    (hUrl : a.framework.urlPath r = some path)
    (hAdmits : a.Admits r token)
    (hBuilt : (a.service.build token m.duration l).outcome =
      .error f) :
    (a.exchange l (m, r)).response = respond m r
      (failure a.helpPages (subject m r path) f).1 := by
  rw [response_of_admits m l hLeads hUrl hAdmits, hBuilt]
  rfl

/- It leaves what the build leaves. -/
theorem after_of_admits
    (m : Moment)
    (l : Ledger ω)
    (hLeads : r.LeadsToMesh)
    (hUrl : a.framework.urlPath r = some path)
    (hAdmits : a.Admits r token) :
    let e := a.exchange l (m, r)
    e.after.tokens = l.tokens ++ [token] ∧
      e.after.world =
        (a.service.build token m.duration l).ledger.world := by
  intro e
  rcases exchange_eq_mesh m l hLeads hUrl with
    ⟨begins, ends, hExchange⟩
  rcases mesh_of_admits (m := m) (s := subject m r path)
    (l := l.measure begins) hAdmits with ⟨-, hLedger⟩
  rcases a.service.build_measure token m.duration l begins
    with ⟨-, hWorld, -, -⟩
  dsimp only at hExchange
  rw [hLedger] at hExchange
  have hAfter : e.after =
      (a.service.build token m.duration
        (l.measure begins)).ledger.measure ends := by
    dsimp only [e]
    rw [hExchange]
  rw [hAfter]
  exact ⟨a.service.tokens_build token m.duration
    (l.measure begins), hWorld⟩

theorem granted_of_admits
    (l : Ledger ω)
    (hLeads : r.LeadsToMesh)
    (hUrl : a.framework.urlPath r = some path)
    (hAdmits : a.Admits r token) :
    (a.exchange l (m, r)).Granted a m.duration
      (subject m r path) token := by
  have hResponse :=
    response_of_admits m l hLeads hUrl hAdmits
  have hFailed {f : Failure} :=
    response_of_error (f := f) m l hLeads hUrl hAdmits
  rcases after_of_admits m l hLeads hUrl hAdmits with
    ⟨hTokens, hWorld⟩
  refine ⟨hTokens, hWorld, ?_, ?_, ?_, ?_, ?_⟩
  · intro mesh hBuilt hSend
    change (a.service.build token m.duration l).outcome = _
      at hBuilt
    rw [hResponse, hBuilt, shown_of_isSendable _ _ hSend]
    exact ⟨status_respond m r _,
      body_respond_of_leadsToMesh m hLeads _⟩
  · intro mesh hBuilt hNoText
    change (a.service.build token m.duration l).outcome = _
      at hBuilt
    rw [hResponse, hBuilt, shown_of_not_isSendable _ _
      fun hSend => hNoText (.of_isSendable hSend)]
    exact (conceals_concealed _).respond m hLeads
  · intro f hBuilt hMesh
    rw [hFailed hBuilt, failure_of_isMeshError _ _ hMesh]
    exact (tellsError_json _ _ _ _ _).respond m hLeads
  · intro error hBuilt
    rw [hFailed hBuilt]
    rcases failure_http_cases a.helpPages (subject m r path)
      error with hAnswers | ⟨hNot, hConcealed⟩
    · exact Or.inl (hAnswers.respond m hLeads)
    · rw [hConcealed]
      exact Or.inr
        ⟨hNot, (conceals_concealed _).respond m hLeads⟩
  · intro f hBuilt hConcealed
    rw [hFailed hBuilt,
      failure_of_isConcealed _ _ hConcealed]
    exact (conceals_concealed _).respond m hLeads

end App

------------------------------------------------------------
-- Two Paths to the Mesh
------------------------------------------------------------

namespace App

variable {ω σ : Type}

/-
  Two responses are the same, but for the subject of an
  error that both tell.
-/
structure Rerouted
    (s s' : Subject)
    (x x' : Http.Response) : Prop where
  status : x'.status = x.status
  headers : x'.headers = x.headers
  body : x'.body = x.body ∨
    ∃ status error message,
      TellsError x s status error message ∧
      TellsError x' s' status error message

/-
  Two requests come to the same, but for the path that is
  told with an error.
-/
structure Exchange.SameButPath
    (id path path' : String)
    (e e' : Exchange ω) : Prop where
  response :
    Rerouted ⟨id, path⟩ ⟨id, path'⟩ e.response e'.response
  tokens : e'.after.tokens = e.after.tokens
  world : e'.after.world = e.after.world
  opened : e'.after.opened = e.after.opened
  closed : e'.after.closed = e.after.closed

theorem rerouted_json
    (s s' : Subject)
    (status : Nat)
    (error : String)
    (message : Json)
    (headers : Table String) :
    Rerouted s s'
      (.json status (errorReport s status error message)
        headers)
      (.json status (errorReport s' status error message)
        headers) where
  status := rfl
  headers := rfl
  body := Or.inr
    ⟨status, error, message, tellsError_json _ _ _ _ _,
      tellsError_json _ _ _ _ _⟩

theorem rerouted_concealed (s s' : Subject) :
    Rerouted s s' (concealed s) (concealed s') :=
  rerouted_json s s' _ _ _ _

/- An error of HTTP is the same on both paths. -/
theorem rerouted_http
    (helpPages : String)
    (s s' : Subject)
    (e : Http.Error) :
    Rerouted s s' (failure helpPages s (.http e)).1
      (failure helpPages s' (.http e)).1 := by
  by_cases hClass : e.cls = .application
  · rcases failure_application_cases helpPages s hClass,
        failure_application_cases helpPages s' hClass with
      ⟨⟨hSend, hTold⟩ | ⟨hNot, hTold⟩,
        ⟨hSend', hTold'⟩ | ⟨hNot', hTold'⟩⟩
    · rw [hTold, hTold']
      exact rerouted_json s s' _ _ _ _
    · exact (hNot' hSend).elim
    · exact (hNot hSend').elim
    · rw [hTold, hTold']
      exact rerouted_concealed s s'
  · have hFailure := failure_http helpPages s e
    have hFailure' := failure_http helpPages s' e
    have hHandled := handled_framework s s hClass
    rw [handled_framework_eq s' s hClass] at hFailure'
    cases hSent : (handled s e (handlerOf e.cls)).1 with
    | ok response =>
        rw [hSent] at hFailure hFailure'
        have hTold : _ = response := hFailure
        have hTold' : _ = response := hFailure'
        rw [hTold, hTold']
        exact ⟨rfl, rfl, Or.inl rfl⟩
    | error f =>
        rw [hSent] at hFailure hFailure' hHandled
        rw [hFailure hHandled.2, hFailure' hHandled.2]
        exact rerouted_concealed s s'

theorem rerouted_shown
    (helpPages : String)
    (s s' : Subject)
    (o : Except Failure Mesh) :
    Rerouted s s' (shown helpPages s o)
      (shown helpPages s' o) := by
  cases o with
  | ok mesh =>
      by_cases hSend : mesh.toJson.IsSendable
      · rw [shown_of_isSendable _ _ hSend,
          shown_of_isSendable _ _ hSend]
        exact ⟨rfl, rfl, Or.inl rfl⟩
      · rw [shown_of_not_isSendable _ _ hSend,
          shown_of_not_isSendable _ _ hSend]
        exact rerouted_concealed s s'
  | error f =>
      change Rerouted s s' (failure helpPages s f).1
        (failure helpPages s' f).1
      rcases failure_cases f with
        hMesh | hConcealed | ⟨e, rfl⟩
      · rw [failure_of_isMeshError _ _ hMesh,
          failure_of_isMeshError _ _ hMesh]
        exact rerouted_json s s' _ _ _ _
      · rw [failure_of_isConcealed _ _ hConcealed,
          failure_of_isConcealed _ _ hConcealed]
        exact rerouted_concealed s s'
      · exact rerouted_http helpPages s s' e

variable {a : App ω σ}
variable {m : Moment}
variable {s s' : Subject}
variable {r r' : Http.Request}
variable {l : Ledger ω}
variable {path path' : String}

/- Requests with the same headers bring the same tokens. -/
theorem bears_congr
    (hHeaders : r'.headers = r.headers)
    (token : String) :
    r'.Bears token ↔ r.Bears token := by
  unfold Http.Request.Bears Http.Request.header
  rw [hHeaders]

theorem Admits.congr
    {token : Option String}
    (hHeaders : r'.headers = r.headers)
    (hAdmits : a.Admits r token) :
    a.Admits r' token := by
  cases token with
  | some token =>
      exact (bears_congr hHeaders token).mpr hAdmits
  | none =>
      exact ⟨hAdmits.1, fun token hBears =>
        hAdmits.2 token
          ((bears_congr hHeaders token).mp hBears)⟩

/-
  The route makes the same of requests with one header,
  whatever was measured before.
-/
theorem rerouted_mesh
    (s s' : Subject)
    (hHeaders : r'.headers = r.headers)
    (begins begins' : Registry → Registry) :
    let o := a.mesh m s r (l.measure begins)
    let o' := a.mesh m s' r' (l.measure begins')
    Rerouted s s' o.response o'.response ∧
      o'.ledger.tokens = o.ledger.tokens ∧
      o'.ledger.world = o.ledger.world ∧
      o'.ledger.opened = o.ledger.opened ∧
      o'.ledger.closed = o.ledger.closed := by
  intro o o'
  rcases a.denies_or_admits r with
    hDenies | ⟨token, hAdmits⟩
  · have hDenies' : a.Denies r' :=
      ⟨hDenies.1, fun token hBears =>
        hDenies.2 token
          ((bears_congr hHeaders token).mp hBears)⟩
    rcases mesh_of_denies (m := m) (s := s)
      (l := l.measure begins) hDenies with
      ⟨hRefusal, hLedger⟩
    rcases mesh_of_denies (m := m) (s := s')
      (l := l.measure begins') hDenies' with
      ⟨hRefusal', hLedger'⟩
    dsimp only [o, o']
    rw [hRefusal, hRefusal', hLedger, hLedger']
    exact ⟨rerouted_json s s' _ _ _ _, rfl, rfl, rfl, rfl⟩
  · rcases mesh_of_admits (m := m) (s := s)
      (l := l.measure begins) hAdmits with ⟨hMesh, hLedger⟩
    rcases mesh_of_admits (m := m) (s := s')
      (l := l.measure begins') (hAdmits.congr hHeaders) with
      ⟨hMesh', hLedger'⟩
    rcases a.service.build_measure token m.duration l begins
      with ⟨hOutcome, hWorld, hOpened, hClosed⟩
    rcases a.service.build_measure token m.duration l begins'
      with ⟨hOutcome', hWorld', hOpened', hClosed'⟩
    dsimp only [o, o']
    rw [hMesh, hMesh', hLedger, hLedger', hOutcome, hOutcome']
    refine ⟨rerouted_shown _ s s' _, ?_,
      hWorld'.trans hWorld.symm, hOpened'.trans hOpened.symm,
      hClosed'.trans hClosed.symm⟩
    rw [a.service.tokens_build, a.service.tokens_build]
    rfl

/- Sending a response under one name makes no difference. -/
theorem Rerouted.respond
    {x x' : Http.Response}
    (hLeads : r.LeadsToMesh)
    (hLeads' : r'.LeadsToMesh)
    (hName : correlationId m r' = correlationId m r)
    (hRerouted : Rerouted s s' x x') :
    Rerouted s s' (App.respond m r x)
      (App.respond m r' x') where
  status := by
    rw [status_respond, status_respond]
    exact hRerouted.status
  headers := by
    unfold App.respond
    rw [headers_sentFor, headers_sentFor, hName]
    unfold Http.Response.withHeader
    rw [hRerouted.headers]
  body := by
    rw [body_respond_of_leadsToMesh m hLeads,
      body_respond_of_leadsToMesh m hLeads']
    rcases hRerouted.body with
      hSame | ⟨status, error, message, hTells, hTells'⟩
    · exact Or.inl hSame
    · exact Or.inr ⟨status, error, message,
        hTells.respond m hLeads, hTells'.respond m hLeads'⟩

theorem sameButPath
    (l : Ledger ω)
    (hLeads : r.LeadsToMesh)
    (hLeads' : r'.LeadsToMesh)
    (hUrl : a.framework.urlPath r = some path)
    (hUrl' : a.framework.urlPath r' = some path')
    (hHeaders : r'.headers = r.headers) :
    (a.exchange l (m, r)).SameButPath (correlationId m r)
      path path' (a.exchange l (m, r')) := by
  have hName : correlationId m r' = correlationId m r := by
    unfold correlationId Http.Request.header
    rw [hHeaders]
  rcases exchange_eq_mesh m l hLeads hUrl with
    ⟨begins, ends, hExchange⟩
  rcases exchange_eq_mesh m l hLeads' hUrl' with
    ⟨begins', ends', hExchange'⟩
  rcases rerouted_mesh (a := a) (m := m) (l := l)
      (subject m r path) (subject m r' path') hHeaders
      begins begins' with
    ⟨hRerouted, hTokens, hWorld, hOpened, hClosed⟩
  have hSent := hRerouted.respond hLeads hLeads' hName
  unfold subject at hSent
  rw [hExchange, hExchange']
  refine ⟨?_, hTokens, hWorld, hOpened, hClosed⟩
  rw [hName] at hSent
  unfold subject
  rw [hName]
  exact hSent

end App

------------------------------------------------------------
-- Answered Requests
------------------------------------------------------------

namespace App

variable {ω σ : Type}

/-
  A request for a mesh is answered under a name: with a
  status that only denied requests have without asking for a
  cluster, or for the token that one is asked for with.
-/
structure Exchange.Answered
    (a : App ω σ)
    (m : Moment)
    (e : Exchange ω)
    (s : Subject) : Prop where
  named : Table.lookup "x-correlation-id" e.response.headers =
    some s.correlationId
  decided : a.Denies e.request ∨
    ∃ token, a.Admits e.request token
  unauthorized :
    e.response.status = 401 ∧
        e.after.tokens = e.before.tokens ↔
      a.Denies e.request
  denied : a.Denies e.request → e.Denied s
  granted : ∀ token, a.Admits e.request token →
    e.Granted a m.duration s token

variable {a : App ω σ}
variable {m : Moment}
variable {r : Http.Request}
variable {id path : String}

theorem answered_of_leadsToMesh
    (m : Moment)
    (l : Ledger ω)
    (hLeads : r.LeadsToMesh)
    (hUrl : a.framework.urlPath r = some path)
    (hId : correlationId m r = id) :
    (a.exchange l (m, r)).Answered a m ⟨id, path⟩ := by
  have hGranted (token : Option String)
      (hAdmits : a.Admits r token) :=
    granted_of_admits (m := m) l hLeads hUrl hAdmits
  have hDenied (hDenies : a.Denies r) :=
    denied_of_denies (m := m) l hLeads hUrl hDenies
  rw [subject, hId] at hGranted hDenied
  refine ⟨?_, a.denies_or_admits r,
    ⟨fun hStatus => ?_, fun hDenies => ?_⟩, hDenied, hGranted⟩
  · exact (lookup_exchange l hUrl).trans (congrArg some hId)
  · rcases a.denies_or_admits r with
      hDenies | ⟨token, hAdmits⟩
    · exact hDenies
    · have hTokens := (hGranted token hAdmits).tokens
      rw [hStatus.2, List.self_eq_append_right] at hTokens
      cases hTokens
  · exact ⟨(hDenied hDenies).tells.hasStatus,
      (hDenied hDenies).tokens⟩

end App

------------------------------------------------------------
-- Answers of a Tired Shop
------------------------------------------------------------

namespace Shop

/- A shop whose clusters tire of answering. -/
def tiredApp : App (List Nat) Nat where
  service := { backend := tiringBackend }
  framework := framework
  host := "shop.example"
  helpPages := "help.example"

/- A shop that lends no cluster to anybody. -/
def closedApp : App Store Store where
  service := { backend := .failing "closed" }
  framework := framework
  host := "shop.example"
  helpPages := "help.example"

/- What a caller with a token and a name asks for. -/
def namedRequest (path token : String) : Http.Request where
  method := "GET"
  target := ⟨path, none⟩
  headers :=
    [("Authorization", "Bearer " ++ token ++ " "),
     ("X-Correlation-Id", "c1")]

/- An error of HTTP, as an application raises it. -/
def teapot : Http.Error :=
  .ofText .application 418 "short and stout" []

/- A shop that has a teapot in place of a cluster. -/
def teapotApp : App Unit Unit where
  service :=
    { backend :=
        { cluster := Cluster.ofTable fun _ => .ok .null
          lend := fun _ w => (.error (.http teapot), w)
          giveBack := fun _ w => w } }
  framework := framework
  host := "shop.example"
  helpPages := "help.example"

/- A shop that requires no tokens, and shows one store. -/
def openApp : App Store Store where
  service := { backend := .ofStore }
  settings := { requireAuth := false }
  framework := framework
  host := "shop.example"
  helpPages := "help.example"

/- A request with two headers for authorization. -/
def twiceRequest : Http.Request where
  method := "GET"
  target := ⟨"/", none⟩
  headers :=
    [("Authorization", "Basic eA=="),
     ("authorization", "Bearer bob")]

/- A request whose host makes no address. -/
def hostedRequest : Http.Request where
  method := "GET"
  target := ⟨"/", none⟩
  headers := [("host", "["), ("x-correlation-id", "c1")]

end Shop

end EventTopology
