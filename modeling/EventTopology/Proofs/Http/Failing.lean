import EventTopology.Http.App
import EventTopology.Proofs.Ending
import EventTopology.Proofs.Json.Writing

/-
  This file shows how failures are answered.  Failures of
  builds are told as they are, errors of HTTP as the handler
  of their class has it, and nothing is told of any other
  failure, nor of what cannot be sent.

  Key definitions include:
    * `Http.Error.IsSendable`
    * `Failure.IsConcealed`
    * `App.TellsError`
    * `App.Conceals`
    * `App.Answers`

  The main results are:
    * `App.failure_of_isMeshError`
    * `App.failure_of_isConcealed`
    * `App.failure_http_cases`
    * `App.failure_missingToken`
    * `App.answers_refusal`
-/

------------------------------------------------------------
-- Sending JSON
------------------------------------------------------------

namespace EventTopology

open Http (Response)

/- A failure that is told to no client. -/
structure Failure.IsConcealed (f : Failure) : Prop where
  notMesh : f.isMeshError = false
  notHttp : f.http? = none

namespace Http

variable {status : Nat}
variable {v : Json}
variable {headers : List (String × String)}

/- Headers with their names in lower case. -/
def lowered (headers : List (String × String)) :
    Table String :=
  headers.map fun (name, value) =>
    (Text.lowerAscii name, value)

/- Headers are sent, or the failure is a concealed one. -/
theorem sentHeaders_ends
    (headers : List (String × String)) :
    (sentHeaders headers).Ends
      (fun sent => headerFault? headers = none ∧
        sent = lowered headers)
      (fun f => headerFault? headers ≠ none ∧
        f.IsConcealed) := by
  unfold sentHeaders
  cases hFault : headerFault? headers with
  | none => exact ⟨rfl, rfl⟩
  | some words =>
      exact ⟨Option.some_ne_none words, rfl, rfl⟩

/- JSON can be sent in a response with headers. -/
def Fits
    (v : Json)
    (headers : List (String × String)) : Prop :=
  v.IsSendable ∧ headerFault? headers = none

/- So is JSON. -/
theorem sendJson_ends
    (status : Nat)
    (v : Json)
    (headers : List (String × String)) :
    (sendJson status v headers).Ends
      (fun response => Fits v headers ∧
        response = .json status v (lowered headers))
      (fun f => ¬ Fits v headers ∧ f.IsConcealed) := by
  unfold sendJson
  cases hFault : v.firstFault Json.sendFault with
  | some e =>
      refine ⟨fun hFits => ?_, rfl, rfl⟩
      have hNone : v.firstFault Json.sendFault = none :=
        hFits.1
      rw [hFault] at hNone
      cases hNone
  | none =>
      have hSent := (sentHeaders_ends headers).mono
        (F := fun f => ¬ Fits v headers ∧ f.IsConcealed)
        (fun _ hSent => hSent)
        fun f hFault =>
          ⟨fun hFits => hFault.1 hFits.2, hFault.2⟩
      refine hSent.map fun sent hSent => ?_
      rw [hSent.2]
      exact ⟨⟨hFault, hSent.1⟩, rfl⟩

end Http

------------------------------------------------------------
-- Telling Errors
------------------------------------------------------------

namespace App

/- A response is an error with a status, told in words. -/
structure TellsError
    (response : Response)
    (s : Subject)
    (status : Nat)
    (error : String)
    (message : Json) : Prop where
  hasStatus : response.status = status
  hasBody : response.body =
    .json (errorReport s status error message)

/- A response gives nothing away. -/
def Conceals (response : Response) (s : Subject) : Prop :=
  TellsError response s 500 "InternalServerError"
    (.str "An unexpected error occurred")

/-
  A response answers an error of HTTP.  Those that are an
  application's own are told as errors; of all others the
  framework gives the detail, if the status allows.
-/
def Answers
    (response : Response)
    (s : Subject)
    (e : Http.Error) : Prop :=
  match e.cls with
  | .application =>
      TellsError response s e.status e.typeName e.detail
  | .http =>
      response.status = e.status ∧
      response.body =
        if mayHaveBody e.status then .json (detailJson e)
        else .empty
  | .invalidRequest =>
      response.status = 422 ∧
      response.body = .json (detailJson e)

theorem tellsError_json
    (s : Subject)
    (status : Nat)
    (error : String)
    (message : Json)
    (headers : Table String) :
    TellsError
      (.json status (errorReport s status error message)
        headers)
      s status error message :=
  ⟨rfl, rfl⟩

theorem conceals_concealed (s : Subject) :
    Conceals (concealed s) s :=
  tellsError_json s _ _ _ _

/- A report can be sent if its message can. -/
theorem isSendable_errorReport_iff
    {s : Subject}
    {status : Nat}
    {error : String}
    {message : Json} :
    (errorReport s status error message).IsSendable ↔
      message.IsSendable ∧
        (Json.int status).IsSendable := by
  rw [errorReport, Json.isSendable_obj_iff]
  simp

end App

------------------------------------------------------------
-- Failures That No Handler Answers
------------------------------------------------------------

namespace App

variable {f : Failure}

/- Failures of builds are told alike, whatever the help. -/
theorem words_of_isMeshError
    (hMesh : f.isMeshError = true)
    (helpPages : String) :
    f.words helpPages = f.message := by
  cases f <;> first | rfl | cases hMesh

/- A failure of builds is told as it is. -/
theorem failure_of_isMeshError
    (helpPages : String)
    (s : Subject)
    (hMesh : f.isMeshError = true) :
    (failure helpPages s f).1 =
      .json 500
        (errorReport s 500 f.typeName (.str f.message)) [] := by
  have hHttp : f.http? = none := by
    cases f <;> first | rfl | cases hMesh
  unfold failure escaped
  rw [hHttp, hMesh, words_of_isMeshError hMesh]
  rfl

theorem escaped_of_isConcealed
    (helpPages : String)
    (s : Subject)
    (hConcealed : f.IsConcealed) :
    (escaped helpPages s f).1 = concealed s := by
  unfold escaped
  rw [hConcealed.notMesh]
  rfl

/- A concealed one is not told. -/
theorem failure_of_isConcealed
    (helpPages : String)
    (s : Subject)
    (hConcealed : f.IsConcealed) :
    (failure helpPages s f).1 = concealed s := by
  unfold failure
  rw [hConcealed.notHttp]
  exact escaped_of_isConcealed helpPages s hConcealed

/- A failure is one of builds, of HTTP, or concealed. -/
theorem failure_cases (f : Failure) :
    f.isMeshError = true ∨ f.IsConcealed ∨
      ∃ e, f = .http e := by
  cases f with
  | http e => exact Or.inr (Or.inr ⟨e, rfl⟩)
  | listing | definitions | missingPart | notServed |
      declaration | meshError => exact Or.inl rfl
  | _ => exact Or.inr (Or.inl ⟨rfl, rfl⟩)

end App

------------------------------------------------------------
-- Errors of HTTP
------------------------------------------------------------

/- An error of HTTP can be sent as it is. -/
structure Http.Error.IsSendable (e : Http.Error) : Prop where
  status : (Json.int e.status).IsSendable
  detail : e.detail.IsSendable
  headers : Http.headerFault? e.headers = none

namespace App

/- The handler of a class. -/
def handlerOf : Http.ErrorClass → Handler
| .http => .detail
| .application => .report
| .invalidRequest => .invalid

/-
  An application's own errors have the application's handler
  and not the one that all errors with a status have.
-/
theorem handlerFor?_eq (e : Http.Error) :
    handlerFor? e = some (handlerOf e.cls) := by
  unfold handlerFor?
  cases e.cls <;> rfl

variable {e : Http.Error}

/- What a handler can send is the answer. -/
theorem failure_http
    (helpPages : String)
    (s : Subject)
    (e : Http.Error) :
    (handled s e (handlerOf e.cls)).1.Ends
      (fun response =>
        (failure helpPages s (.http e)).1 = response)
      (fun f => f.IsConcealed →
        (failure helpPages s (.http e)).1 = concealed s) := by
  unfold failure
  simp only [Failure.http?, Option.bind_some, handlerFor?_eq,
    Option.map_some]
  rcases handled s e (handlerOf e.cls) with
    ⟨f | response, events⟩
  · exact escaped_of_isConcealed helpPages s
  · rfl

/- An application's own error is reported, if it fits. -/
theorem handled_application
    (s : Subject)
    (hClass : e.cls = .application) :
    (handled s e (handlerOf e.cls)).1.Ends
      (fun response => e.IsSendable ∧
        response = .json e.status
          (errorReport s e.status e.typeName e.detail)
          (Http.lowered e.headers))
      (fun f => ¬ e.IsSendable ∧ f.IsConcealed) := by
  rw [hClass]
  refine (Http.sendJson_ends e.status
    (errorReport s e.status e.typeName e.detail)
    e.headers).mono ?_ ?_
  · rintro response ⟨⟨hSend, hHeaders⟩, hSame⟩
    rw [isSendable_errorReport_iff] at hSend
    exact ⟨⟨hSend.2, hSend.1, hHeaders⟩, hSame⟩
  · rintro f ⟨hNot, hConcealed⟩
    refine ⟨fun hSend => hNot ⟨?_, hSend.headers⟩,
      hConcealed⟩
    rw [isSendable_errorReport_iff]
    exact ⟨hSend.detail, hSend.status⟩

/- The framework answers other errors, if they fit. -/
theorem handled_framework
    (s s' : Subject)
    (hClass : e.cls ≠ .application) :
    (handled s e (handlerOf e.cls)).1.Ends
      (Answers · s' e)
      (fun f => ¬ e.IsSendable ∧ f.IsConcealed) := by
  have hDetail (hSend : e.IsSendable) :
      (detailJson e).IsSendable := by
    rw [detailJson, Json.isSendable_obj_iff]
    simpa using hSend.detail
  unfold Answers
  cases hCase : e.cls with
  | application => exact (hClass hCase).elim
  | invalidRequest =>
      refine (Http.sendJson_ends 422 (detailJson e)
        []).mono ?_ ?_
      · rintro response ⟨_, rfl⟩
        exact ⟨rfl, rfl⟩
      · rintro f ⟨hNot, hConcealed⟩
        exact ⟨fun hSend => hNot ⟨hDetail hSend, rfl⟩,
          hConcealed⟩
  | http =>
      unfold handlerOf handled
      dsimp only
      split
      · refine (Http.sendJson_ends e.status (detailJson e)
          e.headers).mono ?_ ?_
        · rintro response ⟨_, rfl⟩
          exact ⟨rfl, rfl⟩
        · rintro f ⟨hNot, hConcealed⟩
          exact
            ⟨fun hSend =>
              hNot ⟨hDetail hSend, hSend.headers⟩,
            hConcealed⟩
      · have hSent := (Http.sentHeaders_ends e.headers).mono
          (F := fun f => ¬ e.IsSendable ∧ f.IsConcealed)
          (fun _ hSent => hSent)
          fun f hFault =>
            ⟨fun hSend => hFault.1 hSend.headers, hFault.2⟩
        exact hSent.map fun sent _ => ⟨rfl, rfl⟩

/- What the framework makes of them is the same for all. -/
theorem handled_framework_eq
    (s s' : Subject)
    (hClass : e.cls ≠ .application) :
    handled s e (handlerOf e.cls) =
      handled s' e (handlerOf e.cls) := by
  cases hCase : e.cls with
  | application => exact (hClass hCase).elim
  | http | invalidRequest => rfl

/- An error of HTTP is answered, unless it cannot be sent. -/
theorem failure_http_cases
    (helpPages : String)
    (s : Subject)
    (e : Http.Error) :
    Answers (failure helpPages s (.http e)).1 s e ∨
    ¬ e.IsSendable ∧
      (failure helpPages s (.http e)).1 = concealed s := by
  have hFailure := failure_http helpPages s e
  have hHandled :
      (handled s e (handlerOf e.cls)).1.Ends
        (Answers · s e)
        (fun f => ¬ e.IsSendable ∧ f.IsConcealed) := by
    by_cases hClass : e.cls = .application
    · refine (handled_application s hClass).mono ?_
        fun f hFault => hFault
      rintro response ⟨_, rfl⟩
      unfold Answers
      rw [hClass]
      exact tellsError_json s _ _ _ _
    · exact handled_framework s s hClass
  cases hSent : (handled s e (handlerOf e.cls)).1 with
  | error f =>
      rw [hSent] at hFailure hHandled
      exact Or.inr ⟨hHandled.1, hFailure hHandled.2⟩
  | ok response =>
      rw [hSent] at hFailure hHandled
      have hSame : _ = response := hFailure
      rw [hSame]
      exact Or.inl hHandled

/- An application's own error can be sent or is concealed. -/
theorem failure_application_cases
    (helpPages : String)
    (s : Subject)
    (hClass : e.cls = .application) :
    e.IsSendable ∧
      (failure helpPages s (.http e)).1 =
        .json e.status
          (errorReport s e.status e.typeName e.detail)
          (Http.lowered e.headers) ∨
    ¬ e.IsSendable ∧
      (failure helpPages s (.http e)).1 = concealed s := by
  have hFailure := failure_http helpPages s e
  have hHandled := handled_application s hClass
  cases hSent : (handled s e (handlerOf e.cls)).1 with
  | error f =>
      rw [hSent] at hFailure hHandled
      exact Or.inr ⟨hHandled.1, hFailure hHandled.2⟩
  | ok response =>
      rw [hSent] at hFailure hHandled
      exact Or.inl ⟨hHandled.1, hFailure.trans hHandled.2⟩

end App

------------------------------------------------------------
-- Errors of the Application and the Router
------------------------------------------------------------

namespace App

theorem isSendable_missingToken :
    missingToken.IsSendable where
  status := Json.isSendable_int (by decide)
  detail := Json.isSendable_str _
  headers := by decide

/- The lack of a token is reported. -/
theorem failure_missingToken
    (helpPages : String)
    (s : Subject) :
    (failure helpPages s (.http missingToken)).1 =
      .json 401
        (errorReport s 401 "HTTPException"
          missingToken.detail)
        [("www-authenticate", "Bearer")] := by
  rcases failure_application_cases helpPages s
      (e := missingToken) rfl with ⟨_, hTold⟩ | ⟨hNot, _⟩
  · exact hTold
  · exact (hNot isSendable_missingToken).elim

/- A refusal of the router is answered with its detail. -/
theorem answers_refusal
    {status : Nat}
    {detail : String}
    {headers : List (String × String)}
    (helpPages : String)
    (s : Subject)
    (hShort : Json.isShort status = true)
    (hHeaders : Http.headerFault? headers = none) :
    let e := Http.Error.ofText .http status detail headers
    Answers (failure helpPages s (.http e)).1 s e := by
  intro e
  have hSend : e.IsSendable :=
    ⟨Json.isSendable_int hShort, Json.isSendable_str _,
      hHeaders⟩
  rcases failure_http_cases helpPages s e with
    hAnswers | ⟨hNot, _⟩
  · exact hAnswers
  · exact (hNot hSend).elim

end App

end EventTopology
