import EventTopology.Proofs.Http.Outcomes

/-
  This file shows which error answers are reports.  Outside
  the mount of the measurements and the probe of readiness,
  these are answers at the route of the mesh, unless a build
  ends with an error of HTTP that is left to the framework.
  All others are plain refusals of the router, and who sends
  an address that cannot be read is told nothing at all.

  Key definitions include:
    * `Http.Response.Reports`
    * `Http.Response.Refuses`
    * `App.Exchange.Deferred`

  The main results are:
    * `App.reports_or_deferred`
    * `App.refuses_of_not_leadsToMesh`
    * `App.reports_iff_leadsToMesh`
-/

------------------------------------------------------------
-- Reports and Refusals
------------------------------------------------------------

namespace EventTopology

namespace Http

/-
  A response is the report of an error on a path, with its
  own status and the name of the request that it carries.
-/
def Response.Reports
    (response : Response)
    (path : String) : Prop :=
  ∃ error message id,
    Table.lookup "x-correlation-id" response.headers =
      some id ∧
    response.body = .json (.obj
      [("error", .str error),
       ("message", message),
       ("status_code", .int response.status),
       ("correlation_id", .str id),
       ("path", .str path)])

/-
  A response is a plain refusal: of the method where there
  is a route, and of the path where there is none.  Without
  a body it may only answer the method HEAD.
-/
structure Response.Refuses
    (response : Response)
    (r : Request) : Prop where
  status : response.status =
    if (routeAt? r.target.path).isSome then 405 else 404
  body : response.body =
    if r.method = "HEAD" then .empty
    else
      .json (.obj
        [("detail",
          .str
            (if (routeAt? r.target.path).isSome then
              "Method Not Allowed"
            else "Not Found"))])

/- A detail is no report. -/
theorem Response.not_reports_of_detail
    {response : Response}
    {detail : Json}
    (hBody : response.body = .json (.obj [("detail", detail)]))
    (path : String) :
    ¬ response.Reports path := by
  rintro ⟨error, message, id, _, hReport⟩
  rw [hBody] at hReport
  simp at hReport

/- A refusal is none either. -/
theorem Response.Refuses.not_reports
    {response : Response}
    {r : Request}
    (hRefuses : response.Refuses r)
    (path : String) :
    ¬ response.Reports path := by
  have hBody := hRefuses.body
  split at hBody
  · rintro ⟨error, message, id, _, hReport⟩
    rw [hBody] at hReport
    cases hReport
  · exact not_reports_of_detail hBody path

end Http

------------------------------------------------------------
-- Errors on the Way to a Mesh
------------------------------------------------------------

namespace App

variable {ω σ : Type}

/-
  The build for a request ended with an error of HTTP that
  is not an application's own, and the framework gave its
  detail.
-/
def Exchange.Deferred
    (a : App ω σ)
    (m : Moment)
    (e : Exchange ω) : Prop :=
  ∃ token error,
    a.Admits e.request token ∧
    (a.service.build token m.duration e.before).outcome =
      .error (.http error) ∧
    error.cls ≠ .application ∧
    e.response.body = .json (detailJson error)

variable {a : App ω σ}
variable {m : Moment}
variable {r : Http.Request}
variable {path : String}
variable {l : Ledger ω}

theorem mayHaveBody_of_le
    {status : Nat}
    (hError : 400 ≤ status) :
    mayHaveBody status = true := by
  simp only [mayHaveBody, Bool.and_eq_true,
    decide_eq_true_eq]
  omega

/- An error that is told on a request is reported. -/
theorem TellsError.reports
    {e : Exchange ω}
    {s : Subject}
    {status : Nat}
    {error : String}
    {message : Json}
    (hTells : TellsError e.response s status error message)
    (hNamed :
      Table.lookup "x-correlation-id" e.response.headers =
        some s.correlationId) :
    e.response.Reports s.path := by
  refine ⟨error, message, s.correlationId, hNamed, ?_⟩
  rw [hTells.hasBody, hTells.hasStatus]
  rfl

/-
  What the framework answers to an error with a status that
  tells of one is its detail.
-/
theorem Answers.body_eq
    {response : Http.Response}
    {s : Subject}
    {e : Http.Error}
    (hAnswers : Answers response s e)
    (hClass : e.cls ≠ .application)
    (hError : 400 ≤ response.status) :
    response.body = .json (detailJson e) := by
  unfold Answers at hAnswers
  cases hCase : e.cls <;> rw [hCase] at hAnswers
  case application => exact (hClass hCase).elim
  case invalidRequest => exact hAnswers.2
  case http =>
    rw [hAnswers.1] at hError
    rw [hAnswers.2, mayHaveBody_of_le hError]
    rfl

/-
  Whatever keeps a mesh from being answered is reported, or
  it is an error of HTTP that is left to the framework.
-/
theorem reports_or_deferred
    (m : Moment)
    (l : Ledger ω)
    (hLeads : r.LeadsToMesh)
    (hUrl : a.framework.urlPath r = some path)
    (hError : 400 ≤ (a.exchange l (m, r)).response.status) :
    (a.exchange l (m, r)).response.Reports path ∨
      (a.exchange l (m, r)).Deferred a m := by
  have hAnswered :=
    answered_of_leadsToMesh m l hLeads hUrl rfl
  rcases hAnswered.decided with hDenies | ⟨token, hAdmits⟩
  · exact Or.inl
      ((hAnswered.denied hDenies).tells.reports
        hAnswered.named)
  have hGranted := hAnswered.granted token hAdmits
  have hResponse := response_of_admits m l hLeads hUrl hAdmits
  cases hBuilt :
      (a.service.build token m.duration l).outcome with
  | ok mesh =>
      left
      rw [hBuilt] at hResponse
      by_cases hSend : mesh.toJson.IsSendable
      · have hStatus := (hGranted.built mesh hBuilt hSend).1
        rw [hStatus] at hError
        exact absurd hError (by decide)
      · rw [shown_of_not_isSendable _ _ hSend] at hResponse
        have hConceals :=
          (conceals_concealed (subject m r path)).respond m
            hLeads
        rw [← hResponse] at hConceals
        exact TellsError.reports hConceals hAnswered.named
  | error f =>
      rcases failure_cases f with
        hMesh | hConcealed | ⟨error, rfl⟩
      · exact Or.inl
          ((hGranted.failed f hBuilt hMesh).reports
            hAnswered.named)
      · exact Or.inl
          (TellsError.reports
            (hGranted.concealed f hBuilt hConcealed)
            hAnswered.named)
      · rcases hGranted.answered error hBuilt with
          hAnswers | ⟨_, hConceals⟩
        · by_cases hClass : error.cls = .application
          · left
            unfold Answers at hAnswers
            rw [hClass] at hAnswers
            exact TellsError.reports hAnswers hAnswered.named
          · exact Or.inr ⟨token, error, hAdmits, hBuilt,
              hClass, hAnswers.body_eq hClass hError⟩
        · exact Or.inl
            (TellsError.reports hConceals hAnswered.named)

end App

------------------------------------------------------------
-- Errors on the Way to Nothing
------------------------------------------------------------

namespace App

variable {ω σ : Type}
variable {a : App ω σ}
variable {m : Moment}
variable {r : Http.Request}
variable {path : String}
variable {l : Ledger ω}

/- The methods of a route can be sent. -/
theorem headerFault?_methodsOf
    (a : App ω σ)
    (route : Http.Route) :
    Http.headerFault? [("Allow", a.methodsOf route)] =
      none := by
  unfold methodsOf
  cases route with
  | page p =>
      dsimp only
      split <;> decide
  | mesh | liveness | readiness | measurements =>
      dsimp only
      decide

/- A refusal of the router comes with its status and detail. -/
theorem refuses_of_fail
    (m : Moment)
    {s : Subject}
    {status : Nat}
    {detail : String}
    {headers : List (String × String)}
    (hStatus : status =
      if (Http.routeAt? r.target.path).isSome then 405
      else 404)
    (hDetail : detail =
      if (Http.routeAt? r.target.path).isSome then
        "Method Not Allowed"
      else "Not Found")
    (hHeaders : Http.headerFault? headers = none) :
    (respond m r
      (a.fail s l
        (.http (.ofText .http status detail headers))
        ).response).Refuses r := by
  have hError : 400 ≤ status := by
    rw [hStatus]
    split <;> decide
  have hShort : Json.isShort status = true := by
    rw [hStatus]
    split <;> decide
  let e := Http.Error.ofText .http status detail headers
  have hAnswers :
      Answers (failure a.helpPages s (.http e)).1 s e :=
    answers_refusal a.helpPages s hShort hHeaders
  have hBody := mayHaveBody_of_le hError
  constructor
  · rw [status_respond, ← hStatus]
    exact hAnswers.1
  · rw [body_respond, ← hDetail]
    refine if_congr Iff.rfl rfl ?_
    refine hAnswers.2.trans ?_
    exact if_pos hBody

/-
  Any other error outside the mount and the probe is one of
  the router, who refuses the path or the method.
-/
theorem refuses_of_not_leadsToMesh
    (m : Moment)
    (l : Ledger ω)
    (hUrl : a.framework.urlPath r = some path)
    (hMounted : Http.isMounted r.target.path = false)
    (hProbe :
      Http.route r.method r.target.path ≠ .found .readiness)
    (hPages : ∀ p, (a.framework.page p r).status < 400)
    (hOther : ¬ r.LeadsToMesh)
    (hError : 400 ≤ (a.exchange l (m, r)).response.status) :
    (a.exchange l (m, r)).response.Refuses r := by
  rcases exchange_eq_answer (m := m) l hUrl with
    ⟨begins, ends, hExchange⟩
  rw [hExchange] at hError ⊢
  dsimp only at hError ⊢
  rw [status_respond] at hError
  unfold answer at hError ⊢
  rcases Http.route_cases r.method hMounted with
    ⟨found, hRoute, ⟨_, hFound⟩ | ⟨_, hWrong⟩⟩ |
      ⟨hNone, hUnknown | ⟨other, hElsewhere⟩⟩
  · -- What is found is the probe of life or a page.
    rw [hFound] at hError
    cases found with
    | mesh => exact (hOther hFound).elim
    | readiness => exact (hProbe hFound).elim
    | measurements =>
        exact (Http.routeAt?_ne_measurements hRoute rfl).elim
    | liveness =>
        change 400 ≤ 200 at hError
        omega
    | page p =>
        have hPage := hPages p
        change 400 ≤ (a.framework.page p r).status at hError
        omega
  · rw [hWrong]
    refine refuses_of_fail m ?_ ?_ ?_
    · rw [hRoute]
      rfl
    · rw [hRoute]
      rfl
    · exact a.headerFault?_methodsOf found
  · rw [hUnknown]
    refine refuses_of_fail m ?_ ?_ ?_
    · rw [hNone]
      rfl
    · rw [hNone]
      rfl
    · decide
  · rw [hElsewhere] at hError
    change 400 ≤ 307 at hError
    omega

end App

------------------------------------------------------------
-- Error Answers
------------------------------------------------------------

namespace App

variable {ω σ : Type}

/-
  Outside the mount of the measurements and the probe of
  readiness, the pages of the framework being no errors, an
  error is reported to those who are led to the mesh, unless
  the framework gives the detail of an error of HTTP.  To
  all others it is a refusal of the router, which is no
  report.  An address that cannot be read is answered with a
  plain text, which is none either.
-/
theorem reports_iff_leadsToMesh
    {a : App ω σ}
    {m : Moment}
    {r : Http.Request}
    {l : Ledger ω}
    (hMounted : Http.isMounted r.target.path = false)
    (hProbe :
      Http.route r.method r.target.path ≠ .found .readiness)
    (hPages : ∀ p, (a.framework.page p r).status < 400)
    (hError : 400 ≤ (a.exchange l (m, r)).response.status) :
    let e := a.exchange l (m, r)
    (∀ path, a.framework.urlPath r = some path →
      (e.response.Reports path ↔
        r.LeadsToMesh ∧ ¬ e.Deferred a m) ∧
      (¬ r.LeadsToMesh → e.response.Refuses r)) ∧
    (a.framework.urlPath r = none →
      e.response = sentFor r unreadable ∧
      ∀ path, ¬ e.response.Reports path) := by
  intro e
  refine ⟨fun path hUrl => ?_, fun hUrl => ?_⟩
  · have hRefuses (hOther : ¬ r.LeadsToMesh) :
        e.response.Refuses r :=
      refuses_of_not_leadsToMesh m l hUrl hMounted hProbe
        hPages hOther hError
    refine ⟨⟨fun hReports => ?_, fun hLeads => ?_⟩, hRefuses⟩
    · refine ⟨?_, ?_⟩
      · by_contra hOther
        exact (hRefuses hOther).not_reports _ hReports
      · rintro ⟨token, error, _, _, _, hBody⟩
        exact Http.Response.not_reports_of_detail hBody _
          hReports
    · exact (reports_or_deferred m l hLeads.1 hUrl
        hError).resolve_right hLeads.2
  · have hResponse : e.response = sentFor r unreadable := by
      have hExchange : e = ⟨r, sentFor r unreadable, l, l⟩ :=
        exchange_of_unreadable l hUrl
      rw [hExchange]
    refine ⟨hResponse, ?_⟩
    rintro path ⟨error, message, id, _, hBody⟩
    rw [hResponse, body_sentFor] at hBody
    split at hBody
    · cases hBody
    · cases hBody

end App

------------------------------------------------------------
-- Error Answers of a Shop
------------------------------------------------------------

namespace Shop

/- The first exchange of the shop. -/
def firstExchange (r : Http.Request) : App.Exchange Pool :=
  app.exchange { world := {} } ((asking "/" []).1, r)

theorem framework_page_status_lt
    (r : Http.Request)
    (p : Http.Page) :
    (framework.page p r).status < 400 := by
  change 200 < 400
  decide

/-
  The shop reports to a caller without a token, and it
  refuses one who does not ask for a mesh but posts one.
-/
theorem app_reports :
    let asked : Http.Request := ⟨"GET", ⟨"/", none⟩, []⟩
    let posted : Http.Request := ⟨"POST", ⟨"/", none⟩, []⟩
    Http.isMounted "/" = false ∧
    Http.route "GET" "/" ≠ .found .readiness ∧
    Http.route "POST" "/" ≠ .found .readiness ∧
    (∀ r p, (framework.page p r).status < 400) ∧
    (firstExchange asked).response.status = 401 ∧
    (firstExchange asked).response.Reports "/" ∧
    (firstExchange posted).response.status = 405 ∧
    (firstExchange posted).response.Refuses posted := by
  intro asked posted
  have hMounted : Http.isMounted "/" = false := by decide
  have hProbe : Http.route "GET" "/" ≠ .found .readiness := by
    decide
  have hProbe' :
      Http.route "POST" "/" ≠ .found .readiness := by
    decide
  have hAsked :
      (firstExchange asked).response.status = 401 := by
    decide +kernel
  have hPosted :
      (firstExchange posted).response.status = 405 := by
    decide +kernel
  have hReports := App.reports_iff_leadsToMesh (r := asked)
    (a := app) hMounted hProbe
    (framework_page_status_lt asked)
    (le_of_le_of_eq (by decide) hAsked.symm)
  have hRefuses := App.reports_iff_leadsToMesh (r := posted)
    (a := app) hMounted hProbe'
    (framework_page_status_lt posted)
    (le_of_le_of_eq (by decide) hPosted.symm)
  have hUrl : framework.urlPath asked = some "/" := by decide
  have hUrl' : framework.urlPath posted = some "/" := by
    decide
  have hLeads : asked.LeadsToMesh := by decide +kernel
  have hOther : ¬ posted.LeadsToMesh := by decide +kernel
  refine ⟨hMounted, hProbe, hProbe',
    framework_page_status_lt, hAsked,
    (hReports.1 "/" hUrl).1.mpr ⟨hLeads, ?_⟩, hPosted,
    (hRefuses.1 "/" hUrl').2 hOther⟩
  -- Nothing is built for who is told to bring a token.
  rintro ⟨token, error, hAdmits, _, _, _⟩
  cases token with
  | none => exact absurd hAdmits.1 (by decide)
  | some token =>
      have hNone : Http.bearerToken asked = none := by decide
      exact Http.bearerToken_eq_none_iff.mp hNone token
        hAdmits

/-
  The error of an unknown path is not reported: the answer
  holds a detail, and nothing else.
-/
theorem app_unreported :
    let lost : Http.Request := ⟨"GET", ⟨"/nope", none⟩, []⟩
    Http.isMounted "/nope" = false ∧
    Http.route "GET" "/nope" = .unknown ∧
    (firstExchange lost).response.status = 404 ∧
    (firstExchange lost).response.body =
      .json (.obj [("detail", .str "Not Found")]) ∧
    ¬ (firstExchange lost).response.Reports "/nope" := by
  intro lost
  have hMounted : Http.isMounted "/nope" = false := by
    decide
  have hRoute : Http.route "GET" "/nope" = .unknown := by
    decide +kernel
  have hProbe : Http.route "GET" "/nope" ≠
      .found .readiness := by
    rw [hRoute]
    decide
  have hStatus :
      (firstExchange lost).response.status = 404 := by
    decide +kernel
  have hUrl : framework.urlPath lost = some "/nope" := by
    decide
  have hOther : ¬ lost.LeadsToMesh := by decide +kernel
  have hRefuses : (firstExchange lost).response.Refuses lost :=
    App.refuses_of_not_leadsToMesh (a := app) _ _ hUrl
      hMounted hProbe (framework_page_status_lt lost) hOther
      (le_of_le_of_eq (by decide) hStatus.symm)
  exact ⟨hMounted, hRoute, hStatus, hRefuses.body,
    hRefuses.not_reports "/nope"⟩

end Shop

end EventTopology
