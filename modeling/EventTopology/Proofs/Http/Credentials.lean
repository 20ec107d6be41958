import EventTopology.Proofs.Client.Sending
import EventTopology.Proofs.Http.Exchanging
import EventTopology.Proofs.Http.Failing
import EventTopology.Proofs.Service.Calling
import EventTopology.Proofs.Text

/-
  This file shows that callers never borrow credentials.  A
  request without a token is refused before any cluster is
  had, and all that is sent for another request is sent as
  the owner of its own token.  What requests share stays as
  it is.

  Key definitions include:
    * `Http.Request.Bears`
    * `Configuration.IsFor`
    * `App.Exchange.OnOwnBehalf`

  The main results are:
    * `Http.bearerToken_eq_some_iff`
    * `App.onOwnBehalf_exchange`
    * `App.never_borrow`
-/

------------------------------------------------------------
-- Tokens of Requests
------------------------------------------------------------

namespace EventTopology

namespace Http

/-
  A header brings a token.  Up to its first blank it names
  the scheme of bearer tokens in any case, and what follows
  is the token with nothing but blanks around it.
-/
def Bears (header token : String) : Prop :=
  token ≠ "" ∧
    Text.IsBare Text.isBlank token.toList ∧
    ∃ scheme front back,
      header.toList = scheme ++ ' ' ::
        (front ++ token.toList ++ back) ∧
      ' ' ∉ scheme ∧
      scheme.map Char.toLower = "bearer".toList ∧
      (∀ c ∈ front, Text.isBlank c) ∧
      (∀ c ∈ back, Text.isBlank c)

/- The token of a header is brought by it. -/
theorem bears_of_tokenOf
    {header token : String}
    (hToken : tokenOf header = some token) :
    Bears header token := by
  unfold tokenOf at hToken
  split at hToken
  case h_1 => cases hToken
  case h_2 scheme rest hSplit =>
    dsimp only at hToken
    split at hToken
    case isFalse => cases hToken
    case isTrue hBoth =>
      cases hToken
      rw [Bool.and_eq_true, decide_eq_true_iff,
        decide_eq_true_iff] at hBoth
      rcases hBoth with ⟨hScheme, hNe⟩
      rcases Text.splitOnce_eq_some_iff.mp hSplit with
        ⟨hHeader, hNot⟩
      have hTrim : Text.trimBoth Text.isBlank rest.toList =
          (Text.strip rest).toList :=
        String.toList_ofList.symm
      rw [Text.trimBoth_eq_iff (by simpa using hNe)]
        at hTrim
      rcases hTrim with
        ⟨front, back, hRest, hFront, hBack, hBare⟩
      rw [hRest] at hHeader
      rw [Text.lowerAscii, ← String.toList_inj,
        String.toList_ofList] at hScheme
      exact ⟨hNe, hBare, scheme.toList, front, back,
        hHeader, hNot, hScheme, hFront, hBack⟩

/- A token that a header brings is the one it has. -/
theorem tokenOf_of_bears
    {header token : String}
    (hBears : Bears header token) :
    tokenOf header = some token := by
  rcases hBears with
    ⟨hNe, hBare, scheme, front, back, hHeader, hNot,
      hScheme, hFront, hBack⟩
  have hSplit : Text.splitOnce ' ' header =
      some (.ofList scheme,
        .ofList (front ++ token.toList ++ back)) := by
    rw [Text.splitOnce_eq_some_iff, String.toList_ofList,
      String.toList_ofList]
    exact ⟨hHeader, hNot⟩
  have hStrip :
      Text.strip (.ofList (front ++ token.toList ++ back)) =
        token := by
    have hTrim :=
      (Text.trimBoth_eq_iff (by simpa using hNe)).mpr
        ⟨front, back, rfl, hFront, hBack, hBare⟩
    rw [Text.strip, String.toList_ofList, hTrim,
      String.ofList_toList]
  have hLower :
      Text.lowerAscii (.ofList scheme) = "bearer" := by
    rw [Text.lowerAscii, String.toList_ofList, hScheme,
      String.ofList_toList]
  have hGood :
      (decide (Text.lowerAscii (.ofList scheme) = "bearer") &&
        decide (token ≠ "")) = true := by
    simp [hLower, hNe]
  unfold tokenOf
  rw [hSplit]
  dsimp only
  rw [hStrip, if_pos hGood]

theorem tokenOf_eq_some_iff
    {header token : String} :
    tokenOf header = some token ↔ Bears header token :=
  ⟨bears_of_tokenOf, tokenOf_of_bears⟩

/- The first header for authorization brings a token. -/
def Request.Bears (r : Request) (token : String) : Prop :=
  ∃ header, r.header "authorization" = some header ∧
    Http.Bears header token

theorem bearerToken_eq_some_iff
    {r : Request}
    {token : String} :
    bearerToken r = some token ↔ r.Bears token := by
  rw [bearerToken, Option.bind_eq_some_iff]
  simp only [tokenOf_eq_some_iff, Request.Bears]

/- Without a token there is none to be had. -/
theorem bearerToken_eq_none_iff
    {r : Request} :
    bearerToken r = none ↔ ∀ token, ¬ r.Bears token := by
  rw [Option.eq_none_iff_forall_ne_some]
  simp only [ne_eq, bearerToken_eq_some_iff]

end Http

------------------------------------------------------------
-- Configurations of Callers
------------------------------------------------------------

/- A configuration acts for the owner of a token alone. -/
structure Configuration.IsFor
    (c : Configuration)
    (token : String) : Prop where
  apiKey : c.apiKey = [("authorization", token)]
  apiKeyPrefix : c.apiKeyPrefix =
    [("authorization", "Bearer")]
  username : c.username = none
  password : c.password = none
  certFile : c.certFile = none
  keyFile : c.keyFile = none
  refreshHook : c.refreshHook = false

/- Any configuration can be made to act for a caller. -/
theorem Configuration.isFor_forCaller
    (c : Configuration)
    {token : String}
    (hToken : token ≠ "") :
    (c.forCaller (some token)).IsFor token := by
  have hCaller : c.forCaller (some token) =
      c.withBearerToken token := by
    rw [forCaller, callerToken, if_neg hToken]
  rw [hCaller]
  constructor <;> rfl

------------------------------------------------------------
-- Shared Configurations
------------------------------------------------------------

namespace Pool

variable {load : Loading → Except Failure Configuration}
variable {loading : Loading}
variable {p p' p'' : Pool}

/-
  A shared configuration stays as it is.  Where there is
  none yet, there is none later but the loaded one.
-/
structure Retains
    (load : Loading → Except Failure Configuration)
    (loading : Loading)
    (p p' : Pool) : Prop where
  same : ∀ base, p.shared = some base →
    p'.shared = some base
  loaded : p.shared = none →
    ∀ base, p'.shared = some base → load loading = .ok base

theorem Retains.refl : Retains load loading p p where
  same := fun _ hSome => hSome
  loaded := by
    intro hNone base hSome
    rw [hNone] at hSome
    cases hSome

theorem Retains.trans
    (hFirst : Retains load loading p p')
    (hRest : Retains load loading p' p'') :
    Retains load loading p p'' where
  same base hSome := hRest.same base (hFirst.same base hSome)
  loaded := by
    intro hNone base hSome
    cases hShared : p'.shared with
    | none => exact hRest.loaded hShared base hSome
    | some base' =>
        have hSame := hRest.same base' hShared
        rw [hSome] at hSame
        cases hSame
        exact hFirst.loaded hNone base hShared

/- Lending opens a session and touches nothing else. -/
theorem lend_cases
    (load : Loading → Except Failure Configuration)
    (loading : Loading)
    (version : String)
    (token : Option String) :
    let (o, p') := p.lend load loading version token
    p'.past = p.past ∧ Retains load loading p p' ∧
      ∀ s, o = .ok s →
        ∃ base, s = Session.start base token version := by
  unfold lend configuration
  cases hShared : p.shared with
  | some base =>
      refine ⟨rfl, Retains.refl, ?_⟩
      rintro _ ⟨⟩
      exact ⟨base, rfl⟩
  | none =>
      cases hLoad : load loading with
      | error f =>
          refine ⟨rfl, ⟨fun base hSome => ?_, ?_⟩, ?_⟩
          · rw [hShared] at hSome
            cases hSome
          · intro _ base hSome
            cases hSome
          · intro s hOk
            cases hOk
      | ok base =>
          refine ⟨rfl, ⟨fun base hSome => ?_, ?_⟩, ?_⟩
          · rw [hShared] at hSome
            cases hSome
          · rintro _ _ ⟨⟩
            exact hLoad
          · rintro _ ⟨⟩
            exact ⟨base, rfl⟩

end Pool

------------------------------------------------------------
-- Builds for Callers
------------------------------------------------------------

/-
  What is had of a pool for the owner of a token: sessions
  that send everything for the owner.
-/
structure Pool.Spends
    (load : Loading → Except Failure Configuration)
    (loading : Loading)
    (token : String)
    (p p' : Pool)
    (sessions : List Session) : Prop where
  past : p'.past = p.past ++ sessions
  retains : p.Retains load loading p'
  asOwner : ∀ s ∈ sessions, ∃ c : Configuration,
    c.IsFor token ∧ s.SendsWith c

/- A build sends everything for the owner of its token. -/
theorem Service.spends_build
    {s : Service Pool Session}
    {lib : Client.Library}
    {load : Loading → Except Failure Configuration}
    {settings : Settings}
    {token : String}
    (hBackend : s.backend = .ofLibrary lib load settings)
    (hToken : token ≠ "")
    (duration : Amount)
    (l : Ledger Pool) :
    let l' := (s.build (some token) duration l).ledger
    ∃ sessions,
      l.world.Spends load (.ofSettings settings) token
        l'.world sessions ∧
      l'.opened = l.opened + sessions.length := by
  intro l'
  have hPool := l.world.lend_cases load
    (.ofSettings settings) settings.eventTypesVersion
    (some token)
  rcases s.build_cases (some token) duration l with
    ⟨f, _, hRefuses⟩ | ⟨c, _, run, _, hState, hServes, _⟩
  · have hLend := hRefuses.lend
    rw [hBackend] at hLend
    change l.world.lend _ _ _ _ = _ at hLend
    rw [hLend] at hPool
    refine ⟨[], ⟨?_, hPool.2.1, ?_⟩, hRefuses.opened⟩
    · rw [List.append_nil]
      exact hPool.1
    · intro session hMem
      cases hMem
  · rcases hServes.world with ⟨w, hLend, hWorld⟩
    rw [hBackend] at hLend hWorld hState
    change l.world.lend _ _ _ _ = _ at hLend
    rw [hLend] at hPool
    rcases hPool with ⟨hPast, hRetains, hStart⟩
    rcases hStart c rfl with ⟨base, rfl⟩
    -- A run only asks, and closing says goodbye the same way.
    have hSends : run.state.close.SendsWith
        (base.forCaller (some token)) := by
      rw [hState]
      exact Session.sendsWith_close
        (Cluster.after_induction
          (fun r _ => Session.sendsWith_answer lib r)
          (Session.sendsWith_start base (some token) _) _)
    change l'.world =
      { w with past := w.past ++ [run.state.close] } at hWorld
    refine ⟨[run.state.close], ⟨?_, ?_, ?_⟩, hServes.opened⟩
    · rw [hWorld, ← hPast]
    · rw [hWorld]
      exact ⟨hRetains.same, hRetains.loaded⟩
    · intro session hMem
      rw [List.mem_singleton.mp hMem]
      exact ⟨_, base.isFor_forCaller hToken, hSends⟩

------------------------------------------------------------
-- Acting on One's Own Behalf
------------------------------------------------------------

namespace App

variable {ω σ : Type}

namespace Exchange

/- The sessions that were had for a request. -/
def sessions (e : Exchange Pool) : List Session :=
  e.after.world.past.drop e.before.world.past.length

/- All calls that were made for a request. -/
def calls (e : Exchange Pool) : List Client.Sent :=
  e.sessions.flatMap (·.sent)

/-
  A request acts on its own behalf.  Without a token it is
  refused, if its address can be read at all, and nothing is
  sent; with one, all that is sent is sent for the owner of
  that token.
-/
structure OnOwnBehalf
    (f : Framework)
    (e : Exchange Pool) : Prop where
  /- Every session that is had is accounted for. -/
  past : e.after.world.past =
    e.before.world.past ++ e.sessions
  opened : e.after.opened =
    e.before.opened + e.sessions.length
  refused : (∀ token, ¬ e.request.Bears token) →
    (f.urlPath e.request ≠ none →
      e.response.status = 401) ∧
    e.calls = [] ∧ e.after.world = e.before.world
  asOwner : ∀ token, e.request.Bears token →
    ∀ x ∈ e.calls, x.configuration.IsFor token

/- The sessions of a request are those that are added. -/
theorem sessions_eq
    {e : Exchange Pool}
    {ss : List Session}
    (hPast : e.after.world.past =
      e.before.world.past ++ ss) :
    e.sessions = ss := by
  rw [sessions, hPast, List.drop_left]

end Exchange

variable (a : App ω σ)

/-
  A request for a mesh is answered at the route of the mesh,
  or its address cannot be read and nothing happens.
-/
theorem exchange_of_asksForMesh
    {x : Moment × Http.Request}
    (l : Ledger ω)
    (hAsks : x.2.AsksForMesh) :
    a.framework.urlPath x.2 = none ∧
      (a.exchange l x).after = l ∨
    ∃ s l₀, l₀.world = l.world ∧ l₀.opened = l.opened ∧
      let e := a.exchange l x
      let o := a.mesh x.1 s x.2 l₀
      e.response.status = o.response.status ∧
        e.after.world = o.ledger.world ∧
        e.after.opened = o.ledger.opened := by
  rcases x with ⟨m, r⟩
  cases hUrl : a.framework.urlPath r with
  | none =>
      left
      rw [exchange_of_unreadable l hUrl]
      exact ⟨rfl, rfl⟩
  | some path =>
      right
      rcases exchange_eq_mesh m l hAsks.leads hUrl with
        ⟨begins, ends, hExchange⟩
      refine ⟨subject m r path, l.measure begins, rfl, rfl, ?_⟩
      rw [hExchange]
      exact ⟨status_respond m r _, rfl, rfl⟩

/- A caller without a token is told to bring one. -/
theorem mesh_of_missing
    (m : Moment)
    (s : Subject)
    {r : Http.Request}
    (l : Ledger ω)
    (hAuth : a.settings.requireAuth = true)
    (hMissing : Http.bearerToken r = none) :
    (a.mesh m s r l).response =
        .json 401
          (errorReport s 401 "HTTPException"
            missingToken.detail)
          [("www-authenticate", "Bearer")] ∧
      (a.mesh m s r l).ledger = l := by
  rw [← failure_missingToken a.helpPages s]
  unfold mesh callerToken
  rw [hMissing, hAuth]
  exact ⟨rfl, rfl⟩

/- Sending changes nothing, whether it fails or not. -/
theorem ledger_send
    (s : Subject)
    (l : Ledger ω)
    (o : Except Failure Http.Response) :
    (a.send s l o).ledger = l := by
  cases o <;> rfl

/- What a mesh is answered with is had of one build. -/
theorem ledger_meshFor
    (m : Moment)
    (s : Subject)
    (token : Option String)
    (l : Ledger ω) :
    (a.meshFor m s token l).ledger =
      (a.service.build token m.duration l).ledger :=
  a.ledger_send s _ _

/- Any other caller has a mesh built for the token, if any. -/
theorem mesh_of_callerToken
    (m : Moment)
    (s : Subject)
    {r : Http.Request}
    {token : Option String}
    (l : Ledger ω)
    (hCaller : (a.callerToken r).1 = .ok token) :
    (a.mesh m s r l).response =
        (a.meshFor m s token l).response ∧
      (a.mesh m s r l).ledger =
        (a.service.build token m.duration l).ledger := by
  unfold mesh
  rcases hToken : a.callerToken r with ⟨f | token', events⟩ <;>
    rw [hToken] at hCaller <;> cases hCaller
  exact ⟨rfl, a.ledger_meshFor m s token l⟩

theorem callerToken_of_token
    {r : Http.Request}
    {token : String}
    (hToken : Http.bearerToken r = some token) :
    (a.callerToken r).1 = .ok (some token) := by
  rw [callerToken, hToken]

end App

------------------------------------------------------------
-- Sequences of Requests
------------------------------------------------------------

namespace App

variable {a : App Pool Session}
variable {lib : Client.Library}
variable {load : Loading → Except Failure Configuration}
variable {settings : Settings}

/- Nothing is had for a request that changes nothing. -/
theorem onOwnBehalf_of_same
    {e : Exchange Pool}
    (hWorld : e.after.world = e.before.world)
    (hOpened : e.after.opened = e.before.opened)
    (hRefused : (∀ token, ¬ e.request.Bears token) →
      a.framework.urlPath e.request ≠ none →
      e.response.status = 401) :
    e.OnOwnBehalf a.framework := by
  have hPast : e.after.world.past =
      e.before.world.past ++ [] := by
    rw [hWorld, List.append_nil]
  have hNone := Exchange.sessions_eq hPast
  have hCalls : e.calls = [] := by
    rw [Exchange.calls, hNone]
    rfl
  refine ⟨?_, ?_, fun hMissing => ?_, ?_⟩
  · rw [hNone]
    exact hPast
  · rw [hNone]
    exact hOpened
  · exact ⟨hRefused hMissing, hCalls, hWorld⟩
  · intro token _ call hCall
    rw [hCalls] at hCall
    cases hCall

/- A request without a token changes nothing. -/
theorem onOwnBehalf_of_missing
    (hAuth : a.settings.requireAuth = true)
    (l : Ledger Pool)
    {x : Moment × Http.Request}
    (hAsks : x.2.AsksForMesh)
    (hMissing : Http.bearerToken x.2 = none) :
    (a.exchange l x).OnOwnBehalf a.framework ∧
      (a.exchange l x).after.world = l.world := by
  rcases a.exchange_of_asksForMesh l hAsks with
    ⟨hUrl, hAfter⟩ |
    ⟨s, l₀, hWorld₀, hOpened₀, hStatus, hWorld, hOpened⟩
  · refine ⟨onOwnBehalf_of_same ?_ ?_ ?_, ?_⟩
    · rw [hAfter]
      rfl
    · rw [hAfter]
      rfl
    · exact fun _ hSome => (hSome hUrl).elim
    · rw [hAfter]
  · rcases a.mesh_of_missing x.1 s l₀ hAuth hMissing with
      ⟨hRefusal, hLedger⟩
    rw [hLedger] at hWorld hOpened
    have hSame := hWorld.trans hWorld₀
    rw [hRefusal] at hStatus
    exact ⟨onOwnBehalf_of_same hSame (hOpened.trans hOpened₀)
      fun _ _ => hStatus, hSame⟩

/- All is sent for the owner of the token of a request. -/
theorem onOwnBehalf_of_token
    (hBackend :
      a.service.backend = .ofLibrary lib load settings)
    (l : Ledger Pool)
    {x : Moment × Http.Request}
    {token : String}
    (hAsks : x.2.AsksForMesh)
    (hToken : Http.bearerToken x.2 = some token) :
    (a.exchange l x).OnOwnBehalf a.framework ∧
      l.world.Retains load (.ofSettings settings)
        (a.exchange l x).after.world := by
  have hBears := Http.bearerToken_eq_some_iff.mp hToken
  rcases a.exchange_of_asksForMesh l hAsks with
    ⟨hUrl, hAfter⟩ |
    ⟨s, l₀, hWorld₀, hOpened₀, _, hWorld, hOpened⟩
  · have hSame : (a.exchange l x).after.world = l.world := by
      rw [hAfter]
    rw [hSame]
    refine ⟨onOwnBehalf_of_same hSame ?_ ?_,
      Pool.Retains.refl⟩
    · rw [hAfter]
      rfl
    · exact fun hNone => (hNone token hBears).elim
  have hNe : token ≠ "" := by
    rcases hBears with ⟨_, _, hNe, _⟩
    exact hNe
  rcases a.service.spends_build hBackend hNe x.1.duration
    l₀ with ⟨sessions, hSpends, hCount⟩
  rcases a.mesh_of_callerToken x.1 s l₀
    (a.callerToken_of_token hToken) with ⟨-, hBuilt⟩
  rw [← hBuilt, ← hWorld, hWorld₀] at hSpends
  rw [← hBuilt, ← hOpened, hOpened₀] at hCount
  have hSessions := Exchange.sessions_eq
    (e := a.exchange l x) hSpends.past
  refine ⟨⟨?_, ?_, ?_, ?_⟩, hSpends.retains⟩
  · rw [hSessions]
    exact hSpends.past
  · rw [hSessions]
    exact hCount
  · intro hNone
    exact (hNone token hBears).elim
  · intro other hOther call hCall
    have hSame := hToken.symm.trans
      (Http.bearerToken_eq_some_iff.mpr hOther)
    cases hSame
    rw [Exchange.calls, hSessions, List.mem_flatMap]
      at hCall
    rcases hCall with ⟨session, hMem, hSent⟩
    rcases hSpends.asOwner session hMem with
      ⟨c, hIsFor, hSends⟩
    rw [hSends.sent call hSent]
    exact hIsFor

/- One request acts on its own behalf and shares no more. -/
theorem onOwnBehalf_exchange
    (hBackend :
      a.service.backend = .ofLibrary lib load settings)
    (hAuth : a.settings.requireAuth = true)
    (l : Ledger Pool)
    {x : Moment × Http.Request}
    (hAsks : x.2.AsksForMesh) :
    (a.exchange l x).OnOwnBehalf a.framework ∧
      l.world.Retains load (.ofSettings settings)
        (a.exchange l x).after.world := by
  cases hToken : Http.bearerToken x.2 with
  | none =>
      rcases onOwnBehalf_of_missing hAuth l hAsks hToken
        with ⟨hOwn, hWorld⟩
      rw [hWorld]
      exact ⟨hOwn, Pool.Retains.refl⟩
  | some token =>
      exact onOwnBehalf_of_token hBackend l hAsks hToken

/-
  Callers never borrow credentials.  In every sequence of
  requests each acts on its own behalf, and what is shared
  among them is the same afterwards as before.
-/
theorem never_borrow
    (hBackend :
      a.service.backend = .ofLibrary lib load settings)
    (hAuth : a.settings.requireAuth = true)
    (l : Ledger Pool)
    {xs : List (Moment × Http.Request)}
    (hAsk : ∀ x ∈ xs, x.2.AsksForMesh) :
    (∀ e ∈ a.exchanges l xs, e.OnOwnBehalf a.framework) ∧
      l.world.Retains load (.ofSettings settings)
        (a.ledgerAfter l xs).world := by
  induction xs generalizing l with
  | nil =>
      refine ⟨fun e hMem => ?_, Pool.Retains.refl⟩
      cases hMem
  | cons x xs ih =>
      rw [List.forall_mem_cons] at hAsk
      rcases onOwnBehalf_exchange hBackend hAuth l hAsk.1
        with ⟨hOwn, hRetains⟩
      rcases ih (a.exchange l x).after hAsk.2 with
        ⟨hOwnRest, hRetainsRest⟩
      rw [exchanges, List.forall_mem_cons, ledgerAfter]
      exact ⟨⟨hOwn, hOwnRest⟩,
        hRetains.trans hRetainsRest⟩

end App

------------------------------------------------------------
-- A Shop with Callers
------------------------------------------------------------

namespace Shop

/- The configuration of the service itself. -/
def ownConfiguration : Configuration where
  host := "https://cluster.example"
  apiKey := [("authorization", "service")]
  apiKeyPrefix := [("authorization", "Bearer")]
  username := some "admin"
  password := some "secret"
  certFile := some "/etc/own.crt"
  keyFile := some "/etc/own.key"
  refreshHook := true

/- A cluster with nothing in it, whoever asks. -/
def emptyLibrary : Client.Library :=
  fun _ _ => .ok (.obj [])

/-
  A framework that reads the address of a request as it is
  made of the host and the path, and has a page or two.
-/
def framework : Framework where
  urlPath r :=
    Path.ofAddress? ((r.header "host").getD "shop.example")
      r.target.path
  page _ _ := ⟨200, [], .text "a page"⟩

/- The application over the empty cluster. -/
def app : App Pool Session where
  service :=
    { backend :=
        .ofLibrary emptyLibrary (fun _ => .ok ownConfiguration)
          {} }
  framework := framework
  host := "shop.example"
  helpPages := "help.example"

/- A request for a mesh with a header for authorization. -/
def asking
    (path : String)
    (headers : List (String × String)) :
    App.Moment × Http.Request :=
  ({ freshId := "1", now := "now", memory := .error "none" },
    { method := "GET", target := ⟨path, none⟩
      headers := headers })

/- Nobody, then somebody, then a header without a token. -/
def callers : List (App.Moment × Http.Request) :=
  [asking "/" [],
   asking "/v1/eventmesh"
     [("Authorization", "bEARER  alice ")],
   asking "/" [("Authorization", "Bearer  ")]]

/- The service's own credentials are lent to no caller. -/
theorem never_borrow_callers :
    let l : Ledger Pool := { world := {} }
    app.service.backend =
      .ofLibrary emptyLibrary (fun _ => .ok ownConfiguration)
        {} ∧
    app.settings.requireAuth = true ∧
    (∀ x ∈ callers, x.2.AsksForMesh) ∧
    (app.exchanges l callers).map
        (fun e => (e.response.status, e.calls.length)) =
      [(401, 0), (200, 8), (401, 0)] ∧
    (∀ e ∈ app.exchanges l callers,
      e.OnOwnBehalf app.framework) ∧
    l.world.Retains (fun _ => .ok ownConfiguration)
      (.ofSettings {}) (app.ledgerAfter l callers).world := by
  intro l
  have hAsk : ∀ x ∈ callers, x.2.AsksForMesh := by
    intro x hMem
    simp only [callers, List.mem_cons, List.not_mem_nil,
      or_false] at hMem
    rcases hMem with rfl | rfl | rfl
    · exact ⟨rfl, Or.inl rfl⟩
    · exact ⟨rfl, Or.inr rfl⟩
    · exact ⟨rfl, Or.inl rfl⟩
  have hCounts : (app.exchanges l callers).map
      (fun e => (e.response.status, e.calls.length)) =
      [(401, 0), (200, 8), (401, 0)] := by
    decide +kernel
  rcases App.never_borrow (a := app) rfl rfl l hAsk with
    ⟨hOwn, hRetains⟩
  exact ⟨rfl, rfl, hAsk, hCounts, hOwn, hRetains⟩

end Shop

end EventTopology
