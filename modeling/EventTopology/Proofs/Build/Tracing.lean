import EventTopology.Proofs.Build.Phases

/-
  This file follows a build request by request.  A step that
  starts after given requests makes the planned ones, in
  order and one by one.  It stops before the last of them at
  a reply that a build cannot take, and it fails nowhere
  else, unless identities are looked up.

  Key definitions include:
    * `Cluster.reply`
    * `Request.fatal?`
    * `Plan.takes`
    * `Build.Traced`
    * `Build.Follows`
    * `Build.inTurn`

  What composed steps ask is described by:
    * `Build.follows_bind`
    * `Build.follows_mapM`
    * `Build.follows_foldlM`
-/

------------------------------------------------------------
-- Replies
------------------------------------------------------------

namespace EventTopology

/- What a cluster says to a request made after others. -/
def Cluster.reply
    {σ : Type}
    (c : Cluster σ)
    (s : σ)
    (before : List Request)
    (r : Request) : Except Failure Json :=
  (c.answer r (c.after s before)).outcome

namespace Request

/-
  The failure of a build that gets no answer to a request,
  which names the listing.  Without an identity a build goes
  on.
-/
def failure? (cause : ClusterError) : Request → Option Failure
| .brokers => some (.listing "brokers" cause)
| .eventTypes => some (.listing "eventtypes" cause)
| .triggers => some (.listing "triggers" cause)
| .subscriptions => some (.listing "subscriptions" cause)
| .definitions tag => some (.definitions tag cause)
| .instances coords =>
    some (.listing
      (coords.resource ++ "." ++ coords.group ++ "/" ++
        coords.version) cause)
| .identity _ _ => none

/-
  The failure in which a reply ends a build, if it does.
  What does not exist ends none, and what is no failure of a
  cluster ends any.
-/
def fatal?
    (r : Request) :
    Except Failure Json → Option Failure
| .ok _ => none
| .error (.cluster (.notFound _)) => none
| .error (.cluster e) => r.failure? e
| .error f => some f

end Request

/-
  The resources that the reply to a listing gives, or the
  failure of a build that does not get them.
-/
def Request.gives
    (r : Request)
    (o : Except Failure Json) : Except Failure (List Json) :=
  match r.fatal? o, o with
  | some f, _ => .error f
  | none, .error _ => .ok []
  | none, .ok v => Failure.ofShape v.iterate

/- A listing gives what its reply lists. -/
theorem Request.gives_eq_ok_iff
    {r : Request}
    {o : Except Failure Json}
    {raws : List Json}
    (hListing : r.isListing = true) :
    r.gives o = .ok raws ↔ listed? o = some raws := by
  rcases o with e | v
  · rcases e with (m | ⟨m, status⟩) | _
    case cluster.notFound =>
      exact ⟨fun hOk => congrArg some (Except.ok.inj hOk),
        fun hSome => congrArg Except.ok (Option.some.inj hSome)⟩
    case cluster.failed =>
      cases r with
      | identity ref label => cases hListing
      | _ => exact ⟨nofun, nofun⟩
    all_goals exact ⟨nofun, nofun⟩
  · change Failure.ofShape v.iterate = .ok raws ↔
      v.elements? = some raws
    unfold Json.iterate
    cases v.elements? with
    | none => exact ⟨nofun, nofun⟩
    | some es =>
        exact ⟨fun hOk => congrArg some (Except.ok.inj hOk),
          fun hSome => congrArg Except.ok (Option.some.inj hSome)⟩

/-
  The records that a reply is read as.  There are none in a
  reply that cannot be read.
-/
def recordsOf
    {α : Type}
    (convert : Json → Except Failure α)
    (o : Except Failure Json) : List α :=
  ((listed? o).bind fun raws =>
    (raws.mapM convert).toOption).getD []

/- A reply that can be read is read as what it converts to. -/
theorem recordsOf_eq
    {α : Type}
    {convert : Json → Except Failure α}
    {o : Except Failure Json}
    {raws : List Json}
    {as : List α}
    (hListed : listed? o = some raws)
    (hOk : raws.mapM convert = .ok as) :
    recordsOf convert o = as := by
  unfold recordsOf
  rw [hListed, Option.bind_some, hOk]
  rfl

------------------------------------------------------------
-- Taking Replies
------------------------------------------------------------

namespace Plan

/- Convert resources, whatever they are converted to. -/
def converts
    {α : Type}
    (convert : Json → Except Failure α)
    (raws : List Json) : Except Failure Unit :=
  (raws.mapM convert).map fun _ => ()

/-
  Convert the resources that a request lists.  Instances of
  a kind are listed as subscribables before event types are,
  and as sources after.
-/
def reads
    (p : Plan)
    (before : List Request)
    (raws : List Json) : Request → Except Failure Unit
| .brokers => converts p.conversion.broker raws
| .eventTypes => converts p.conversion.eventType raws
| .triggers => converts Conversion.trigger raws
| .subscriptions =>
    converts Conversion.channelSubscription raws
| .definitions _ => converts Definition.coordinates raws
| .instances coords =>
    if .eventTypes ∈ before then do
      let declared ← p.conversion.declaredTypes coords
      converts
        (p.conversion.source coords (.ofTexts declared)) raws
    else converts (p.conversion.subscribable coords) raws
| .identity _ _ => .ok ()

/-
  Take the reply to a request that is made after others.  A
  build fails that gets a fatal reply, or that cannot read
  what a listing gives.
-/
def takes
    (p : Plan)
    (before : List Request)
    (r : Request)
    (o : Except Failure Json) : Except Failure Unit :=
  if r.isListing then do
    let raws ← r.gives o
    p.reads before raws r
  else
    match r.fatal? o with
    | some f => .error f
    | none => .ok ()

variable {p : Plan}
variable {before : List Request}
variable {r : Request}
variable {o : Except Failure Json}
variable {f : Failure}

/- A fatal reply is not taken. -/
theorem takes_of_fatal
    (hFatal : r.fatal? o = some f) :
    p.takes before r o = .error f := by
  have hGives : r.gives o = .error f := by
    unfold Request.gives
    rw [hFatal]
  unfold takes
  rw [hGives, hFatal]
  split <;> rfl

/- Of the replies to a lookup, all others are. -/
theorem fatal_of_takes
    (hLookup : r.isListing = false)
    (hTakes : p.takes before r o = .error f) :
    r.fatal? o = some f := by
  unfold takes at hTakes
  rw [hLookup, if_neg Bool.false_ne_true] at hTakes
  cases hFatal : r.fatal? o with
  | none =>
      rw [hFatal] at hTakes
      cases hTakes
  | some f' =>
      rw [hFatal] at hTakes
      rw [Except.error.inj hTakes]

end Plan

------------------------------------------------------------
-- Following a Plan of Requests
------------------------------------------------------------

namespace Build

variable {σ α β : Type}

/-
  What a step has asked that started after given requests
  and ended with an outcome and a run.
-/
structure Traced
    (p : Plan)
    (c : Cluster σ)
    (s : σ)
    (before planned : List Request)
    (P : α → Prop)
    (o : Except Failure α)
    (run : Run σ) : Prop where
  keeps : c.Keeps s run
  onward : before <+: run.requests
  inOrder : run.requests <+: before ++ planned
  complete : ∀ a, o = .ok a →
    run.requests = before ++ planned ∧ P a
  /- Nothing is asked after a reply that is not taken. -/
  stopped : ∀ early r f, before <+: early →
    early ++ [r] <+: run.requests →
    p.takes early r (c.reply s early r) = .error f →
    run.requests = early ++ [r] ∧ o = .error f
  /- The reply to a listing is what a step fails at. -/
  stops : ∀ f, o = .error f →
    ∃ early r, before <+: early ∧
      run.requests = early ++ [r] ∧
      (r.isListing = true →
        p.takes early r (c.reply s early r) = .error f)

/-
  After given requests, a step makes the planned ones in
  order.  Where it gets to its end it has made all of them,
  and its value meets a condition.
-/
def Follows
    (p : Plan)
    (c : Cluster σ)
    (s : σ)
    (before : List Request)
    (b : Build σ α)
    (planned : List Request)
    (P : α → Prop) : Prop :=
  ∀ run, c.Keeps s run → run.requests = before →
    Traced p c s before planned P (exec b run).1
      (exec b run).2

/- A step that leaves a cluster alone. -/
def AsksNothing (b : Build σ α) : Prop :=
  ∀ run, (exec b run).2.state = run.state ∧
    (exec b run).2.requests = run.requests

/- Composed steps leave it alone if both parts do. -/
theorem AsksNothing.bind
    {b : Build σ α}
    {f : α → Build σ β}
    (hFirst : AsksNothing b)
    (hRest : ∀ a, AsksNothing (f a)) :
    AsksNothing (b >>= f) := by
  intro run
  have hBefore := hFirst run
  rw [exec_bind]
  rcases hExec : exec b run with ⟨e | a, next⟩ <;>
    rw [hExec] at hBefore
  · exact hBefore
  · rcases hRest a next with ⟨hState, hRequests⟩
    exact ⟨hState.trans hBefore.1,
      hRequests.trans hBefore.2⟩

variable {p : Plan}
variable {c : Cluster σ} {s : σ}
variable {before planned planned' : List Request}
variable {b : Build σ α}
variable {P Q : α → Prop}

theorem Follows.mono
    (hFollows : Follows p c s before b planned P)
    (hValue : ∀ a, P a → Q a) :
    Follows p c s before b planned Q := by
  intro run hKeeps hBefore
  have hTraced := hFollows run hKeeps hBefore
  exact { hTraced with
    complete := fun a hOk =>
      ⟨(hTraced.complete a hOk).1,
        hValue a (hTraced.complete a hOk).2⟩ }

/- Where nothing is asked, nothing is planned. -/
theorem follows_of_asksNothing
    (hNothing : AsksNothing b)
    (hNever : ∀ run f, (exec b run).1 ≠ .error f)
    (hValue : ∀ run a, (exec b run).1 = .ok a → P a) :
    Follows p c s before b [] P := by
  intro run hKeeps hBefore
  rcases hNothing run with ⟨hState, hRequests⟩
  rw [hBefore] at hRequests
  refine ⟨?_, ?_, ?_, ?_, ?_, ?_⟩
  · unfold Cluster.Keeps at hKeeps ⊢
    rw [hState, hRequests, hKeeps, hBefore]
  · exact hRequests ▸ List.prefix_rfl
  · rw [List.append_nil]
    exact hRequests ▸ List.prefix_rfl
  · intro a hOk
    rw [List.append_nil]
    exact ⟨hRequests, hValue run a hOk⟩
  · intro early r f hEarly hPrefix _
    rw [hRequests] at hPrefix
    have hLength := hPrefix.length_le
    have hLength' := hEarly.length_le
    simp only [List.length_append, List.length_singleton]
      at hLength
    omega
  · intro f hError
    exact (hNever run f hError).elim

theorem follows_pure (a : α) :
    Follows p c s before (pure a) [] (· = a) := by
  apply follows_of_asksNothing
  · exact fun _ => ⟨rfl, rfl⟩
  · exact fun _ _ => nofun
  · intro run a' hOk
    exact (Except.ok.inj hOk).symm

theorem follows_tell (e : Log.Event) :
    Follows p c s before (tell e) [] (fun _ => True) :=
  follows_of_asksNothing (fun _ => ⟨rfl, rfl⟩)
    (fun _ _ => nofun) fun _ _ _ => trivial

theorem follows_tellAll (es : List Log.Event) :
    Follows p c s before (tellAll es) [] (fun _ => True) :=
  follows_of_asksNothing (fun _ => ⟨rfl, rfl⟩)
    (fun _ _ => nofun) fun _ _ _ => trivial

theorem follows_skip (r : SkipReason) :
    Follows p c s before (skip r) [] (fun _ => True) :=
  follows_of_asksNothing (fun _ => ⟨rfl, rfl⟩)
    (fun _ _ => nofun) fun _ _ _ => trivial

/-
  One request is asked, and what is made of the reply asks
  nothing more.  It has to fail where the reply is not taken,
  and, for a listing, nowhere else.
-/
theorem follows_attempt
    {r : Request}
    {f : Except Failure Json → Build σ α}
    (hNothing : AsksNothing (f (c.reply s before r)))
    (hStopped : ∀ run e,
      p.takes before r (c.reply s before r) = .error e →
      (exec (f (c.reply s before r)) run).1 = .error e)
    (hStops : r.isListing = true → ∀ run e,
      (exec (f (c.reply s before r)) run).1 = .error e →
      p.takes before r (c.reply s before r) = .error e)
    (hValue : ∀ run a,
      (exec (f (c.reply s before r)) run).1 = .ok a →
      P a) :
    Follows p c s before (attempt c r >>= f) [r] P := by
  intro run hKeeps hBefore
  have hKept := hKeeps.attempt r
  have hState : run.state = c.after s before :=
    hBefore ▸ hKeeps
  rcases hAttempt : exec (attempt c r) run with ⟨o, next⟩
  rw [hAttempt] at hKept
  have hReply : o = .ok (c.reply s before r) := by
    rw [exec_attempt, hState] at hAttempt
    exact (Prod.mk.inj hAttempt).1.symm
  have hAsked : next.requests = before ++ [r] := by
    rw [exec_attempt, hBefore] at hAttempt
    exact congrArg Run.requests (Prod.mk.inj hAttempt).2.symm
  subst hReply
  rw [exec_bind, hAttempt]
  rcases hNothing next with ⟨hState', hRequests⟩
  have hEnd := hRequests.trans hAsked
  refine ⟨?_, ?_, ?_, ?_, ?_, ?_⟩
  · unfold Cluster.Keeps at hKept ⊢
    rw [hState', hRequests, hKept]
  · rw [hEnd]
    exact List.prefix_append _ _
  · exact hEnd ▸ List.prefix_rfl
  · exact fun a hOk => ⟨hEnd, hValue _ a hOk⟩
  · intro early r' e hEarly hPrefix hTakes
    rw [hEnd] at hPrefix
    -- Only the one request lies after those before.
    have hSame : early ++ [r'] = before ++ [r] := by
      apply hPrefix.eq_of_length
      have hLength := hPrefix.length_le
      have hLength' := hEarly.length_le
      simp only [List.length_append, List.length_singleton]
        at hLength ⊢
      omega
    rcases List.append_inj' hSame rfl with ⟨rfl, hLast⟩
    cases hLast
    exact ⟨hEnd, hStopped _ e hTakes⟩
  · intro e hError
    exact ⟨before, r, List.prefix_rfl, hEnd,
      fun hListing => hStops hListing _ e hError⟩

/-
  A listing is one request.  It gives what is made of the
  reply, and it fails just when that is not taken.
-/
theorem follows_listing
    {r : Request}
    {f : Except Failure Json → Build σ α}
    {e : Except Failure α}
    (hNothing : AsksNothing (f (c.reply s before r)))
    (hMade : ∀ run,
      (exec (f (c.reply s before r)) run).1 = e)
    (hTakes : p.takes before r (c.reply s before r) =
      e.map fun _ => ()) :
    Follows p c s before (attempt c r >>= f) [r]
      (fun a => e = .ok a) := by
  have hFails (e' : Failure) :
      p.takes before r (c.reply s before r) = .error e' ↔
        e = .error e' := by
    rw [hTakes]
    cases e with
    | error e =>
        exact ⟨fun hSame => congrArg _ (Except.error.inj hSame),
          fun hSame => congrArg _ (Except.error.inj hSame)⟩
    | ok a => exact ⟨nofun, nofun⟩
  refine follows_attempt hNothing ?_ ?_ ?_
  · intro run e' hStopped
    exact (hMade run).trans ((hFails e').mp hStopped)
  · intro _ run e' hError
    exact (hFails e').mpr ((hMade run).symm.trans hError)
  · intro run a hOk
    exact (hMade run).symm.trans hOk

/- What follows a step goes on where the step ended. -/
theorem follows_bind
    {f : α → Build σ β}
    {R : β → Prop}
    (hFirst : Follows p c s before b planned P)
    (hRest : ∀ a, P a →
      Follows p c s (before ++ planned) (f a) planned' R) :
    Follows p c s before (b >>= f) (planned ++ planned')
      R := by
  intro run hKeeps hBefore
  have hTraced := hFirst run hKeeps hBefore
  rw [exec_bind]
  rcases hExec : exec b run with ⟨e | a, next⟩ <;>
    rw [hExec] at hTraced
  case error =>
    refine ⟨hTraced.keeps, hTraced.onward, ?_, ?_, ?_, ?_⟩
    · rw [← List.append_assoc]
      exact hTraced.inOrder.trans (List.prefix_append _ _)
    · intro z hOk
      cases hOk
    · intro early r f' hEarly hPrefix hTakes
      rcases hTraced.stopped early r f' hEarly hPrefix hTakes
        with ⟨hLast, hError⟩
      cases hError
      exact ⟨hLast, rfl⟩
    · rintro _ ⟨⟩
      exact hTraced.stops e rfl
  case ok =>
    rcases hTraced.complete a rfl with ⟨hRequests, hP⟩
    have hNext := hRest a hP next hTraced.keeps hRequests
    have hOnward : before <+: before ++ planned :=
      List.prefix_append _ _
    refine ⟨hNext.keeps, ?_, ?_, ?_, ?_, ?_⟩
    · exact hOnward.trans hNext.onward
    · rw [← List.append_assoc]
      exact hNext.inOrder
    · rw [← List.append_assoc]
      exact hNext.complete
    · intro early r f' hEarly hPrefix hTakes
      -- What the first step did not take had ended it.
      by_cases hShort :
          (early ++ [r]).length ≤ (before ++ planned).length
      · have hWithin := List.prefix_of_prefix_length_le
          hPrefix hNext.onward hShort
        rw [← hRequests] at hWithin
        have hEnd := hTraced.stopped early r f' hEarly
          hWithin hTakes
        cases hEnd.2
      · refine hNext.stopped early r f' ?_ hPrefix hTakes
        refine List.prefix_of_prefix_length_le hNext.onward
          ((List.prefix_append _ _).trans hPrefix) ?_
        simp only [List.length_append,
          List.length_singleton] at hShort ⊢
        omega
    · intro f' hError
      rcases hNext.stops f' hError with
        ⟨early, r, hEarly, hLast⟩
      exact ⟨early, r, hOnward.trans hEarly, hLast⟩

/- One request is planned, and then the rest. -/
theorem follows_cons
    {r : Request}
    {f : α → Build σ β}
    {R : β → Prop}
    (hFirst : Follows p c s before b [r] P)
    (hRest : ∀ a, P a →
      Follows p c s (before ++ [r]) (f a) planned R) :
    Follows p c s before (b >>= f) (r :: planned) R :=
  follows_bind hFirst hRest

/- A step that asks nothing leaves all to the rest. -/
theorem follows_silent
    {f : α → Build σ β}
    {R : β → Prop}
    (hFirst : Follows p c s before b [] P)
    (hRest : ∀ a, P a →
      Follows p c s before (f a) planned R) :
    Follows p c s before (b >>= f) planned R := by
  rw [← List.nil_append planned]
  refine follows_bind hFirst fun a hP => ?_
  rw [List.append_nil]
  exact hRest a hP

/- A rest that asks nothing leaves all to the first step. -/
theorem Follows.bind_silent
    {f : α → Build σ β}
    {R : β → Prop}
    (hFirst : Follows p c s before b planned P)
    (hRest : ∀ a, P a →
      Follows p c s (before ++ planned) (f a) [] R) :
    Follows p c s before (b >>= f) planned R := by
  rw [← List.append_nil planned]
  exact follows_bind hFirst hRest

/- A value may be changed at the end. -/
theorem Follows.map
    {g : α → β}
    {R : β → Prop}
    (hFollows : Follows p c s before b planned P)
    (hValue : ∀ a, P a → R (g a)) :
    Follows p c s before (do return g (← b)) planned R := by
  refine hFollows.bind_silent fun a hP => ?_
  refine (follows_pure (g a)).mono ?_
  rintro _ rfl
  exact hValue a hP

end Build

------------------------------------------------------------
-- Steps over Lists
------------------------------------------------------------

namespace Build

variable {σ α β : Type}

/-
  What every element of a list gives, when each is told what
  has been asked before its turn.
-/
def inTurn
    (calls : α → List Request)
    (value : List Request → α → β) :
    List Request → List α → List β
| _, [] => []
| before, a :: as =>
    value before a ::
      inTurn calls value (before ++ calls a) as

variable {p : Plan}
variable {c : Cluster σ} {s : σ}

/-
  Steps done for a list make their requests in turn.  What
  holds of the requests before each is kept by its own.
-/
theorem follows_mapM
    {f : α → Build σ β}
    {calls : α → List Request}
    {value : List Request → α → β}
    {Q : List Request → Prop}
    {before : List Request}
    (hEach : ∀ before a, Q before →
      Follows p c s before (f a) (calls a)
        (· = value before a))
    (hKept : ∀ before a, Q before → Q (before ++ calls a))
    (hBefore : Q before)
    (as : List α) :
    Follows p c s before (as.mapM f) (as.flatMap calls)
      (· = inTurn calls value before as) := by
  induction as generalizing before with
  | nil =>
      rw [List.mapM_nil, List.flatMap_nil]
      exact follows_pure []
  | cons a as ih =>
      rw [List.mapM_cons, List.flatMap_cons]
      refine follows_bind (hEach before a hBefore) ?_
      rintro _ rfl
      refine (ih (hKept before a hBefore)).map ?_
      rintro _ rfl
      rfl

/- The requests of a loop are those of its rounds. -/
theorem follows_foldlM
    {f : β → α → Build σ β}
    {calls : α → List Request}
    (hEach : ∀ before z a,
      Follows p c s before (f z a) (calls a) (fun _ => True))
    (before : List Request)
    (as : List α)
    (z : β) :
    Follows p c s before (as.foldlM f z) (as.flatMap calls)
      (fun _ => True) := by
  induction as generalizing before z with
  | nil =>
      rw [List.foldlM_nil, List.flatMap_nil]
      exact (follows_pure z).mono fun _ _ => trivial
  | cons a as ih =>
      rw [List.foldlM_cons, List.flatMap_cons]
      exact follows_bind (hEach before z a) fun z' _ =>
        ih (before ++ calls a) z'

end Build

------------------------------------------------------------
-- Listings
------------------------------------------------------------

namespace Build

variable {σ α : Type}
variable {p : Plan}
variable {c : Cluster σ} {s : σ}
variable {before : List Request}

/-
  A listing of records is one request.  They are converted
  from what it gives, and they are what the reply is read
  as.
-/
theorem follows_records
    {r : Request}
    {convert : Json → Except Failure α}
    {f : Except Failure Json → Build σ (List α)}
    (hListing : r.isListing = true)
    (hReads : ∀ raws,
      p.reads before raws r = Plan.converts convert raws)
    (hNothing : ∀ o, AsksNothing (f o))
    (hMade : ∀ o run, (exec (f o) run).1 =
      (do (← r.gives o).mapM convert)) :
    Follows p c s before (attempt c r >>= f) [r]
      (· = recordsOf convert (c.reply s before r)) := by
  refine (follows_listing (hNothing _) (hMade _)
    ?_).mono fun as hOk => ?_
  · unfold Plan.takes
    rw [if_pos hListing]
    rcases r.gives _ with e | raws
    · rfl
    · exact hReads raws
  · rw [Except.bind_eq_ok_iff] at hOk
    rcases hOk with ⟨raws, hGives, hEach⟩
    rw [Request.gives_eq_ok_iff hListing] at hGives
    exact (recordsOf_eq hGives hEach).symm

/- What is heard of a listing is what it gives. -/
theorem exec_hear_fst
    {name : String}
    {r : Request}
    (hName : ∀ e, r.failure? e = some (.listing name e))
    (o : Except Failure Json)
    (run : Run σ) :
    (exec (hear name o) run).1 = r.gives o := by
  rcases o with e | v
  · rcases e with (m | ⟨m, status⟩) | _
    case cluster.failed =>
      have hFatal : r.fatal?
          (.error (.cluster (.failed m status))) = _ :=
        hName _
      unfold Request.gives
      rw [hFatal]
      rfl
    all_goals rfl
  · rfl

/- Hearing asks nothing more. -/
theorem asksNothing_hear
    (name : String)
    (o : Except Failure Json) :
    AsksNothing (hear name o : Build σ (List Json)) := by
  rcases o with e | v
  · rcases e with (m | ⟨m, status⟩) | _
    all_goals exact fun _ => ⟨rfl, rfl⟩
  · exact fun _ => ⟨rfl, rfl⟩

/- A listing that is converted yields what it is read as. -/
theorem follows_converted
    {name : String}
    {r : Request}
    {convert : Json → Except Failure α}
    (hName : ∀ e, r.failure? e = some (.listing name e))
    (hReads : ∀ raws,
      p.reads before raws r = Plan.converts convert raws) :
    Follows p c s before
      (do Plan.convertAll convert (← Build.list c name r))
      [r]
      (· = recordsOf convert (c.reply s before r)) := by
  have hListing : r.isListing = true := by
    cases r with
    | identity ref label => cases hName (.notFound "")
    | _ => rfl
  rw [list_eq, bind_assoc]
  refine follows_records hListing hReads ?_ ?_
  · intro o
    exact (asksNothing_hear name o).bind
      fun _ _ => ⟨rfl, rfl⟩
  · intro o run
    rw [exec_bind, ← exec_hear_fst hName o run]
    rcases exec (hear name o) run with ⟨e | raws, next⟩
    · rfl
    · rfl

end Build

/- Discovery is one request for definitions. -/
theorem Discovery.follows_discover
    {σ : Type}
    {p : Plan}
    {c : Cluster σ}
    {s : σ}
    {before : List Request}
    (tag : String) :
    Build.Follows p c s before (discover c tag)
      [.definitions tag]
      (· = recordsOf Definition.coordinates
        (c.reply s before (.definitions tag))) := by
  rw [discover_eq]
  refine Build.follows_records rfl (fun _ => rfl) ?_ ?_
  · intro o
    rcases o with e | v
    · rcases e with (m | ⟨m, status⟩) | _
      all_goals exact fun _ => ⟨rfl, rfl⟩
    · refine Build.AsksNothing.bind (fun _ => ⟨rfl, rfl⟩) ?_
      exact fun _ _ => ⟨rfl, rfl⟩
  · intro o run
    rcases o with e | v
    · rcases e with (m | ⟨m, status⟩) | _
      all_goals rfl
    · change (Build.exec (Build.ofExcept (coordinates v) >>= _)
        run).1 = coordinates v
      rw [Build.exec_bind, Build.exec_ofExcept]
      rcases coordinates v with e | kinds
      · rfl
      · rfl

end EventTopology
