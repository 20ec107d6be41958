import EventTopology.Proofs.Build.Scheduling
import EventTopology.Proofs.Build.Steady

/-
  This file shows where a build stops.  It makes all of its
  requests, or it fails at the last one that it makes: the
  reply to a listing is fatal or cannot be read, or the reply
  to a lookup ends the build.  So nothing is looked up by a
  build that fails at a listing.

  Key definitions include:
    * `Plan.EndsLookup`
    * `Plan.Phased`

  The main results are:
    * `Plan.endsLookup_of_complete`
    * `Plan.endsLookup_of_run`
    * `Plan.phased_run`
-/

------------------------------------------------------------
-- Failing Lookups
------------------------------------------------------------

namespace EventTopology

/-
  A reply to a lookup ends a build in a failure.  Either it
  is a failure, but not that of a cluster, or it is a value
  that is no identity and yet not nothing.
-/
def Plan.EndsLookup
    (o : Except Failure Json)
    (f : Failure) : Prop :=
  (o = .error f ∧ ∀ cause, f ≠ .cluster cause) ∨
  ∃ v, o = .ok v ∧ v.truthy = true ∧ v.isKey = false ∧
    f = .shape (.notKey v.kind)

namespace Consumption

open Build
open Plan (EndsLookup)

variable {σ : Type}
variable {c : Cluster σ} {s : σ}
variable {label : String} {x : Index}

/- Only an identity that was found may not be filed. -/
theorem resolved_of_apply
    {known : Consumption}
    {o : Log.SubscriptionOutcome}
    {f : Failure}
    {run run' : Run σ}
    (hExec : exec (known.apply o) run = (.error f, run')) :
    ∃ v ids, o = .resolved v ids ∧ v.isKey = false ∧
      f = .shape (.notKey v.kind) ∧ run' = run := by
  cases o with
  | resolved v ids =>
      change (Failure.ofShape (known.fileAll v ids), run) =
        _ at hExec
      unfold fileAll at hExec
      split at hExec
      · cases hExec
      · rename_i hFails
        cases hExec
        rw [Bool.or_eq_true, not_or] at hFails
        exact ⟨v, ids, rfl, Bool.not_eq_true _ ▸ hFails.1,
          rfl, rfl⟩
  | _ => cases hExec

/- A lookup is made for an identity, and for a failure. -/
theorem lookup_of_outcome
    {u : Subscription}
    {o : Except Failure Log.SubscriptionOutcome}
    {run run' : Run σ}
    (hKeeps : c.Keeps s run)
    (hExec : exec (outcome c label x u) run = (o, run')) :
    (∃ told, o = .ok told ∧
      ∀ v ids, told ≠ .resolved v ids) ∨
    ∃ ref, run'.requests =
        run.requests ++ [.identity ref label] ∧
      let reply :=
        c.reply s run.requests (.identity ref label)
      (∀ f, o = .error f → EndsLookup reply f) ∧
      ∀ v ids, o = .ok (.resolved v ids) →
        reply = .ok v ∧ v.truthy = true := by
  rw [outcome_eq] at hExec
  cases hSettle : settle x u with
  | inl told =>
      rw [hSettle] at hExec
      cases hExec
      refine Or.inl ⟨told, rfl, ?_⟩
      rintro v ids rfl
      exact settle_ne_resolved hSettle
  | inr found =>
      rcases found with ⟨target, ref⟩
      rw [hSettle] at hExec
      dsimp only at hExec
      have hState : run.state = c.after s run.requests :=
        hKeeps
      rw [exec_bind, exec_attempt, hState] at hExec
      change exec (hear x u target ref
        (c.reply s run.requests (.identity ref label))) _ =
          _ at hExec
      refine Or.inr ⟨ref, ?_⟩
      rcases hear_cases (σ := σ) x u target ref
          (c.reply s run.requests (.identity ref label)) with
        ⟨told, hHear, _, hFound⟩ | ⟨f, hReply, hOther, hHear⟩
      · rw [hHear] at hExec
        cases hExec
        refine ⟨rfl, fun _ => nofun, fun v ids hTold => ?_⟩
        exact hFound v ids (Except.ok.inj hTold)
      · rw [hHear] at hExec
        cases hExec
        refine ⟨rfl, ?_, fun _ _ => nofun⟩
        rintro _ ⟨⟩
        exact Or.inl ⟨hReply, hOther⟩

/- A turn that fails does so at its lookup. -/
theorem endsLookup_of_process
    {known : Consumption}
    {u : Subscription}
    {f : Failure}
    {run run' : Run σ}
    (hKeeps : c.Keeps s run)
    (hExec : exec (process c label x known u) run =
      (.error f, run')) :
    ∃ ref, run'.requests =
        run.requests ++ [.identity ref label] ∧
      EndsLookup
        (c.reply s run.requests (.identity ref label))
        f := by
  unfold process at hExec
  rw [exec_bind] at hExec
  rcases hOutcome : exec (outcome c label x u) run
    with ⟨e | told, next⟩ <;> rw [hOutcome] at hExec
  case error =>
    cases hExec
    rcases lookup_of_outcome hKeeps hOutcome with
      ⟨told, hOk, _⟩ | ⟨ref, hRequests, hEnds, _⟩
    · cases hOk
    · exact ⟨ref, hRequests, hEnds f rfl⟩
  case ok =>
    dsimp only at hExec
    rw [exec_bind, exec_tell] at hExec
    rcases resolved_of_apply hExec with
      ⟨v, ids, rfl, hKey, hFault, hSame⟩
    rcases lookup_of_outcome hKeeps hOutcome with
      ⟨told, hOk, hNever⟩ | ⟨ref, hRequests, _, hFound⟩
    · cases hOk
      exact (hNever v ids rfl).elim
    · rcases hFound v ids rfl with ⟨hReply, hTruthy⟩
      refine ⟨ref, ?_, Or.inr
        ⟨v, hReply, hTruthy, hKey, hFault⟩⟩
      rw [hSame]
      exact hRequests

end Consumption

namespace Plan

open Build
open Consumption (process)

variable {σ : Type}
variable {c : Cluster σ} {s : σ}

/- A mesh that is not completed fails at its last lookup. -/
theorem endsLookup_of_complete
    {p : Plan}
    {found : Index × List Source}
    {ss : List Subscription}
    {f : Failure}
    {run run' : Run σ}
    (hKeeps : c.Keeps s run)
    (hExec : exec (p.complete c found ss) run =
      (.error f, run')) :
    ∃ before ref,
      run'.requests =
        before ++ [.identity ref p.identityLabel] ∧
      EndsLookup
        (c.reply s before (.identity ref p.identityLabel))
        f := by
  unfold complete at hExec
  rw [exec_bind] at hExec
  rcases hTurns : exec (p.consumption c found.1 ss) run
    with ⟨e | consumed, next⟩ <;> rw [hTurns] at hExec
  case ok => cases hExec
  case error =>
    cases hExec
    unfold consumption at hTurns
    -- The turn that fails is the last one that is taken.
    generalize ([] : Consumption) = known at hTurns
    induction ss generalizing known run with
    | nil => cases hTurns
    | cons u ss ih =>
        rw [List.foldlM_cons, exec_bind] at hTurns
        have hNext := (p.follows_process found.1 known u)
          run hKeeps rfl
        rcases hTurn :
            exec (process c p.identityLabel found.1 known u)
              run
          with ⟨e | known', next⟩ <;>
          rw [hTurn] at hTurns hNext
        case error =>
          cases hTurns
          rcases Consumption.endsLookup_of_process hKeeps
              hTurn with
            ⟨ref, hRequests, hEnds⟩
          exact ⟨run.requests, ref, hRequests, hEnds⟩
        case ok => exact ih hNext.keeps known' hTurns

end Plan

------------------------------------------------------------
-- Runs
------------------------------------------------------------

namespace Plan

open Build

variable {σ : Type}

/-
  How a run asks, whatever it is told.  It keeps to the
  schedule, and when it gives a mesh it has asked all of it.
  A listing that fails otherwise than by not being there is
  the last request, and the failure of the run names it.
  Likewise it stops at any reply that it cannot take, and it
  stops nowhere else, but for lookups.
-/
structure Phased
    (p : Plan)
    (c : Cluster σ)
    (s : σ)
    (o : Except Failure Mesh)
    (asked : List Request) : Prop where
  inOrder : asked <+: p.schedule c s
  complete : ∀ m, o = .ok m → asked = p.schedule c s
  listings : ∀ before r message status f,
    before ++ [r] <+: asked →
    c.reply s before r =
      .error (.cluster (.failed message status)) →
    r.failure? (.failed message status) = some f →
    asked = before ++ [r] ∧ o = .error f
  /-
    A run that fails has looked up nothing, or it fails at
    the lookup that it makes last.
  -/
  lookups : ∀ f, o = .error f →
    (∀ ref label, .identity ref label ∉ asked) ∨
    ∃ before ref,
      asked = before ++ [.identity ref p.identityLabel] ∧
      EndsLookup
        (c.reply s before (.identity ref p.identityLabel)) f
  stopped : ∀ before r f,
    before ++ [r] <+: asked →
    p.takes before r (c.reply s before r) = .error f →
    asked = before ++ [r] ∧ o = .error f
  /-
    A run that fails has not taken the last reply: it is
    fatal, or what it lists cannot be read.
  -/
  stops : ∀ f, o = .error f →
    ∃ before r, asked = before ++ [r] ∧
      (p.takes before r (c.reply s before r) = .error f ∨
        (∃ ref, r = .identity ref p.identityLabel) ∧
          EndsLookup (c.reply s before r) f)

/- No identity is asked for among the listings. -/
theorem identity_not_mem_listingCalls
    (p : Plan)
    (c : Cluster σ)
    (s : σ)
    (ref : ObjectReference)
    (label : String) :
    .identity ref label ∉ p.listingCalls c s := by
  simp [listingCalls, collectCalls, providerCalls]

/-
  A run that fails fails before it looks anything up, or at
  a lookup.
-/
theorem endsLookup_of_run
    {p : Plan}
    {c : Cluster σ}
    {s : σ}
    {f : Failure}
    {run : Run σ}
    (hRun : p.run c s = (.error f, run)) :
    (∀ ref label, .identity ref label ∉ run.requests) ∨
    ∃ before ref,
      run.requests =
        before ++ [.identity ref p.identityLabel] ∧
      EndsLookup
        (c.reply s before (.identity ref p.identityLabel))
        f := by
  have hGathered := p.follows_gather _ (c.keeps_start s) rfl
  change exec (p.build c) _ = _ at hRun
  rw [build_eq_gather, exec_bind] at hRun
  rcases hGather : exec (p.gather c) ⟨s, [], [], []⟩
    with ⟨e | z, next⟩ <;> rw [hGather] at hRun hGathered
  case error =>
    left
    cases hRun
    intro ref label hMem
    exact p.identity_not_mem_listingCalls c s ref label
      (hGathered.inOrder.subset hMem)
  case ok =>
    right
    exact endsLookup_of_complete hGathered.keeps hRun

/- A run that fails fails at the last request. -/
theorem stops_of_run
    {p : Plan}
    {c : Cluster σ}
    {s : σ}
    {f : Failure}
    {run : Run σ}
    (hRun : p.run c s = (.error f, run)) :
    ∃ before r, run.requests = before ++ [r] ∧
      (p.takes before r (c.reply s before r) = .error f ∨
        (∃ ref, r = .identity ref p.identityLabel) ∧
          EndsLookup (c.reply s before r) f) := by
  have hTraced := p.traced_run c s
  rw [hRun] at hTraced
  rcases hTraced.stops f rfl with
    ⟨before, r, -, hLast, hTakes⟩
  refine ⟨before, r, hLast, ?_⟩
  by_cases hListing : r.isListing = true
  · exact Or.inl (hTakes hListing)
  right
  cases r with
  | identity ref label =>
      have hMem : .identity ref label ∈ run.requests := by
        rw [hLast]
        exact List.mem_concat_self
      rcases endsLookup_of_run hRun with
        hNone | ⟨before', ref', hLast', hEnds⟩
      · exact (hNone ref label hMem).elim
      · rcases List.append_inj' (hLast.symm.trans hLast') rfl
          with ⟨rfl, hSame⟩
        cases hSame
        exact ⟨⟨ref, rfl⟩, hEnds⟩
  | _ => exact (hListing rfl).elim

/- Every run asks in phases, and for identities last. -/
theorem phased_run
    (p : Plan)
    (c : Cluster σ)
    (s : σ) :
    p.Phased c s (p.run c s).1 (p.run c s).2.requests := by
  have hTraced := p.traced_run c s
  have hStopped (before : List Request) (r : Request)
      (f : Failure)
      (hPrefix : before ++ [r] <+: (p.run c s).2.requests)
      (hTakes : p.takes before r (c.reply s before r) =
        .error f) :=
    hTraced.stopped before r f List.nil_prefix hPrefix hTakes
  refine ⟨hTraced.inOrder, ?_, ?_, ?_, hStopped, ?_⟩
  · exact fun m hOk => (hTraced.complete m hOk).1
  · intro before r message status f hPrefix hReply hName
    refine hStopped before r f hPrefix ?_
    rw [hReply]
    exact takes_of_fatal hName
  · intro f hError
    exact endsLookup_of_run (Prod.ext hError rfl)
  · intro f hError
    exact stops_of_run (Prod.ext hError rfl)

/-
  In a shop the subscribers of three triggers are looked up
  after all is listed, and none if subscriptions cannot be.
-/
example :
    let c := Cluster.ofTable (Shop.replies Shop.known [] [])
    let d := Cluster.ofTable fun r =>
      if r = .subscriptions then
        .error (.cluster (.failed "timeout" none))
      else Shop.replies Shop.known [] [] r
    (Plan.run {} c ()).2.requests = Plan.schedule {} c () ∧
    (Plan.schedule {} c ()).map Request.isListing =
      List.replicate 6 true ++ List.replicate 3 false ∧
    (Plan.run {} d ()).2.requests =
      (Plan.schedule {} c ()).take 6 := by
  decide +kernel

end Plan

end EventTopology
