import EventTopology.Proofs.Build.Contents
import EventTopology.Proofs.Build.Steady

/-
  This file shows that a failing lookup hurts none but its
  own subscriptions: the mesh is the one that is built when
  these are not there at all, and each lookup that failed is
  counted as skipped.

  Key definitions include:
    * `Replies.failing`
    * `Replies.without`
    * `Mesh.reaches`

  The main result is:
    * `Plan.failing_lookups`
-/

------------------------------------------------------------
-- Replies with Failures
------------------------------------------------------------

namespace EventTopology

/- The subscriber is one of the given references. -/
def Subscription.concerns
    (failed : ObjectReference → Bool)
    (s : Subscription) : Bool :=
  s.subscriber.any failed

/- The subscription is looked up among the providers. -/
def Mesh.reaches
    (m : Mesh)
    (failed : ObjectReference → Bool)
    (s : Subscription) : Bool :=
  s.target.any (· ∈ m.providerKeys) && s.concerns failed

/- Does a resource convert to a concerned subscription? -/
def Resource.concerns
    (convert : Json → Except Failure Subscription)
    (failed : ObjectReference → Bool)
    (raw : Json) : Bool :=
  match convert raw with
  | .ok s => s.concerns failed
  | .error _ => false

/- A listing without the concerned resources. -/
def Resource.remaining
    (convert : Json → Except Failure Subscription)
    (failed : ObjectReference → Bool) :
    Except Failure Json → Except Failure Json
| .ok v =>
    match v.elements? with
    | some raws =>
        .ok (.arr (raws.filter fun raw =>
          !concerns convert failed raw))
    | none => .ok v
| .error e => .error e

namespace Replies

/- The same replies, but for lookups that fail. -/
def failing
    (replies : Replies)
    (failed : ObjectReference → Bool)
    (message : ObjectReference → String)
    (status : ObjectReference → Option Int) : Replies
| .identity ref label =>
    if failed ref then
      .error (.cluster (.failed (message ref) (status ref)))
    else replies (.identity ref label)
| r => replies r

/- The same replies, but for subscriptions not listed. -/
def without
    (replies : Replies)
    (failed : ObjectReference → Bool) : Replies
| .triggers =>
    Resource.remaining Conversion.trigger failed
      (replies .triggers)
| .subscriptions =>
    Resource.remaining Conversion.channelSubscription failed
      (replies .subscriptions)
| r => replies r

end Replies

------------------------------------------------------------
-- Findings in Other Replies
------------------------------------------------------------

/-
  Where only requests about subscriptions are answered in
  another way, only the turns need be found anew.
-/
theorem Plan.Finds.withTurns
    {p : Plan}
    {answers answers' : Answers}
    {f : Findings}
    {turns : List Turn}
    (hFinds : p.Finds answers f)
    (hSub : ∀ r o, r.forSubscriptions = false →
      answers r o → answers' r o)
    (hSubscriptions : FindsSubscriptions answers'
      (turns.map (·.subscription)))
    (hHeard : ∀ t ∈ turns,
      t.Heard answers' p.identityLabel f.index)
    (hGoesOn : ∀ t ∈ turns, t.GoesOn f.index) :
    p.Finds answers' { f with turns := turns } where
  brokers := hFinds.brokers.mono fun o => hSub _ o rfl
  subscribables := hFinds.subscribables.mono hSub
  eventTypes := hFinds.eventTypes.mono fun o => hSub _ o rfl
  sources := hFinds.sources.mono hSub
  subscriptions := hSubscriptions
  heard := hHeard
  goesOn := hGoesOn

namespace Replies

variable {replies : Replies}
variable {failed : ObjectReference → Bool}

/- A shortened listing yields what is not concerned. -/
theorem yields_remaining
    {replies' : Replies}
    {r : Request}
    {convert : Json → Except Failure Subscription}
    {ss : List Subscription}
    (hYields : replies.answers.Yields r convert ss)
    (hReply : replies' r =
      Resource.remaining convert failed (replies r)) :
    replies'.answers.Yields r convert
      (ss.filter fun s => !s.concerns failed) := by
  rcases hYields with ⟨raws, ⟨o, rfl, hListed⟩, hEach⟩
  refine ⟨raws.filter fun raw =>
    !Resource.concerns convert failed raw, ?_, ?_⟩
  · refine ⟨_, rfl, ?_⟩
    rw [hReply]
    rcases hOutcome : replies r with e | v
    · rw [hOutcome] at hListed
      rcases e with (m | ⟨m, status⟩) | _
      case cluster.notFound =>
        cases hListed
        rfl
      all_goals cases hListed
    · rw [hOutcome] at hListed
      have hElements : v.elements? = some raws := hListed
      simp only [Resource.remaining, hElements]
      rfl
  · refine List.rel_filter ?_ hEach
    intro raw s hConverted
    simp [Resource.concerns, hConverted]

theorem finds_without
    (failed : ObjectReference → Bool)
    {ss : List Subscription}
    (hFinds :
      Plan.FindsSubscriptions replies.answers ss) :
    Plan.FindsSubscriptions
      (replies.without failed).answers
      (ss.filter fun s => !s.concerns failed) := by
  rcases hFinds with
    ⟨triggers, others, hTriggers, hOthers, rfl⟩
  refine ⟨_, _, yields_remaining hTriggers rfl,
    yields_remaining hOthers rfl, ?_⟩
  exact List.filter_append _ _

end Replies

------------------------------------------------------------
-- Failing Turns
------------------------------------------------------------

namespace Turn

open Consumption (settle settles_of_eq)

variable {failed : ObjectReference → Bool}
variable {message : ObjectReference → String}
variable {status : ObjectReference → Option Int}

/- The same turn, but for a lookup that fails. -/
def failing
    (failed : ObjectReference → Bool)
    (message : ObjectReference → String)
    (status : ObjectReference → Option Int)
    (t : Turn) : Turn :=
  match t.answer, t.subscription.subscriber with
  | some _, some ref =>
      if failed ref then
        { t with
          answer := some (.error
            (.cluster (.failed (message ref)
              (status ref)))) }
      else t
  | _, _ => t

@[simp] theorem failing_subscription (t : Turn) :
    (t.failing failed message status).subscription =
      t.subscription := by
  unfold failing
  split
  · split <;> rfl
  · rfl

/- A turn that is not concerned stays as it is. -/
theorem failing_of_not_concerns
    {t : Turn}
    (hNot : t.subscription.concerns failed = false) :
    t.failing failed message status = t := by
  unfold failing
  split
  · rename_i ref _ hRef
    simp only [Subscription.concerns, hRef,
      Option.any_some] at hNot
    simp [hNot]
  · rfl

/- A concerned turn asks nothing, or in vain. -/
theorem failing_of_concerns
    (message : ObjectReference → String)
    (status : ObjectReference → Option Int)
    {t : Turn}
    (hConcerns : t.subscription.concerns failed = true) :
    (t.answer = none ∧
        t.failing failed message status = t) ∨
      ∃ ref, t.subscription.subscriber = some ref ∧
        t.answer.isSome = true ∧
        (t.failing failed message status).answer =
          some (.error (.cluster (.failed (message ref)
            (status ref)))) := by
  unfold failing
  cases hAnswer : t.answer with
  | none => exact .inl ⟨rfl, rfl⟩
  | some o =>
      right
      cases hRef : t.subscription.subscriber with
      | none =>
          simp [Subscription.concerns, hRef] at hConcerns
      | some ref =>
          simp only [Subscription.concerns, hRef,
            Option.any_some] at hConcerns
          exact ⟨ref, rfl, rfl, by simp [hConcerns]⟩

theorem heard_failing
    {replies : Replies}
    {label : String}
    {x : Index}
    {t : Turn}
    (hHeard : t.Heard replies.answers label x) :
    (t.failing failed message status).Heard
      (replies.failing failed message status).answers
      label x := by
  unfold Heard at hHeard ⊢
  rw [failing_subscription]
  cases hSettle : settle x t.subscription with
  | inl o =>
      simp only [hSettle] at hHeard ⊢
      simp [failing, hHeard]
  | inr found =>
      rcases found with ⟨target, ref⟩
      have hRef := (target_of_settle hSettle).2.2
      simp only [hSettle] at hHeard ⊢
      rcases hHeard with ⟨o, hAnswer, rfl⟩
      refine ⟨_, ?_, rfl⟩
      by_cases hFailed : failed ref = true <;>
        simp [failing, Replies.failing, hAnswer, hRef,
          hFailed]

theorem goesOn_failing
    {x : Index}
    {t : Turn}
    (hGoesOn : t.GoesOn x) :
    (t.failing failed message status).GoesOn x := by
  cases hConcerns : t.subscription.concerns failed with
  | false =>
      rw [failing_of_not_concerns hConcerns]
      exact hGoesOn
  | true =>
      rcases failing_of_concerns message status hConcerns with
        ⟨_, hSame⟩ | ⟨ref, _, _, hFailure⟩
      · rw [hSame]
        exact hGoesOn
      · refine ⟨?_, ?_⟩
        · intro e hError
          rw [hFailure] at hError
          cases hError
          exact ⟨_, rfl⟩
        · intro v hFound
          simp [identity?, hFailure] at hFound

/- A failing turn takes what a missing one would. -/
theorem take_failing
    (x : Index)
    (known : Consumption)
    (t : Turn) :
    (t.failing failed message status).take x known =
      if t.subscription.concerns failed then known
      else t.take x known := by
  cases hConcerns : t.subscription.concerns failed with
  | false =>
      rw [failing_of_not_concerns hConcerns]
      rfl
  | true =>
      rw [if_pos rfl, take]
      rcases failing_of_concerns message status hConcerns with
        ⟨hNone, hSame⟩ | ⟨ref, _, _, hFailure⟩
      · simp [hSame, identity?, hNone]
      · simp [identity?, hFailure]

/- A turn is skipped just when its lookup fails. -/
theorem skipped_failing
    (failed : ObjectReference → Bool)
    (message : ObjectReference → String)
    (status : ObjectReference → Option Int)
    {answers : Answers}
    {label : String}
    {x : Index}
    {t : Turn}
    (hHeard : t.Heard answers label x)
    (hFound : ∀ ref o, answers (.identity ref label) o →
      ∃ v, o = .ok v) :
    t.skipped = [] ∧
      (t.failing failed message status).skipped =
        if t.subscription.target.any x.hasProvider &&
            t.subscription.concerns failed
        then [.lookup] else [] := by
  unfold Heard at hHeard
  cases hSettle : settle x t.subscription with
  | inl o =>
      simp only [hSettle] at hHeard
      have hSame :
          t.failing failed message status = t := by
        simp [failing, hHeard]
      rw [hSame]
      have hQuiet : t.skipped = [] := by
        simp [skipped, hHeard]
      refine ⟨hQuiet, ?_⟩
      rw [hQuiet, if_neg]
      intro hBoth
      cases settles_of_eq hSettle with
      | noTarget hTarget => simp [hTarget] at hBoth
      | providerNotFound hTarget hHas =>
          simp [hTarget, hHas] at hBoth
      | noSubscriber _ _ hRef =>
          simp [Subscription.concerns, hRef] at hBoth
  | inr found =>
      rcases found with ⟨target, ref⟩
      rcases target_of_settle hSettle with
        ⟨hTarget, hHas, hRef⟩
      simp only [hSettle] at hHeard
      rcases hHeard with ⟨o, hAnswer, hGiven⟩
      rcases hFound ref o hGiven with ⟨v, rfl⟩
      refine ⟨by simp [skipped, hAnswer], ?_⟩
      cases hFailed : failed ref <;>
        simp [skipped, failing, hAnswer, hTarget, hHas,
          hRef, hFailed, Subscription.concerns]

end Turn

------------------------------------------------------------
-- Failing and Missing Turns
------------------------------------------------------------

namespace Findings

variable {failed : ObjectReference → Bool}
variable {message : ObjectReference → String}
variable {status : ObjectReference → Option Int}

/- The findings when lookups fail. -/
def failing
    (failed : ObjectReference → Bool)
    (message : ObjectReference → String)
    (status : ObjectReference → Option Int)
    (f : Findings) : Findings :=
  { f with
    turns := f.turns.map
      (Turn.failing failed message status) }

/- The findings without the concerned subscriptions. -/
def without
    (failed : ObjectReference → Bool)
    (f : Findings) : Findings :=
  { f with
    turns := f.turns.filter fun t =>
      !t.subscription.concerns failed }

theorem finds_failing
    {p : Plan}
    {replies : Replies}
    {f : Findings}
    (hFinds : p.Finds replies.answers f) :
    p.Finds (replies.failing failed message status).answers
      (f.failing failed message status) := by
  apply hFinds.withTurns
  · intro r o hOther hAnswer
    cases r <;> first | exact hAnswer | cases hOther
  · have hSame :
        (f.turns.map
          (Turn.failing failed message status)).map
            (·.subscription) = f.subscriptions := by
      simp [subscriptions]
    rw [hSame]
    exact hFinds.subscriptions
  · intro t hMem
    rcases List.mem_map.mp hMem with ⟨t₀, hMem₀, rfl⟩
    exact Turn.heard_failing (hFinds.heard t₀ hMem₀)
  · intro t hMem
    rcases List.mem_map.mp hMem with ⟨t₀, hMem₀, rfl⟩
    exact Turn.goesOn_failing (hFinds.goesOn t₀ hMem₀)

theorem finds_without
    {p : Plan}
    {replies : Replies}
    {f : Findings}
    (hFinds : p.Finds replies.answers f) :
    p.Finds (replies.without failed).answers
      (f.without failed) := by
  apply hFinds.withTurns
  · intro r o hOther hAnswer
    cases r <;> first | exact hAnswer | cases hOther
  · have hFound :=
      Replies.finds_without failed hFinds.subscriptions
    rw [subscriptions, List.filter_map] at hFound
    exact hFound
  · intro t hMem
    have hHeard :=
      hFinds.heard t (List.mem_of_mem_filter hMem)
    unfold Turn.Heard at hHeard ⊢
    split <;> simp_all [Replies.answers, Replies.without]
  · intro t hMem
    exact hFinds.goesOn t (List.mem_of_mem_filter hMem)

/- Failing turns are as good as missing ones. -/
theorem mesh_failing
    (failed : ObjectReference → Bool)
    (message : ObjectReference → String)
    (status : ObjectReference → Option Int)
    (f : Findings) :
    (f.failing failed message status).mesh =
      (f.without failed).mesh := by
  have hTurns :
      ∀ (ts : List Turn) (known : Consumption),
        (ts.map (Turn.failing failed message status)).foldl
            (Turn.take f.index) known =
          (ts.filter fun t =>
            !t.subscription.concerns failed).foldl
              (Turn.take f.index) known := by
    intro ts
    induction ts with
    | nil => exact fun _ => rfl
    | cons t ts ih =>
        intro known
        rw [List.map_cons, List.foldl_cons, ih,
          Turn.take_failing, List.filter_cons]
        cases t.subscription.concerns failed <;> rfl
  have hConsumed :
      (f.failing failed message status).consumed =
        (f.without failed).consumed :=
    hTurns f.turns []
  rw [mesh, hConsumed]
  rfl

/- What fails is counted, and nothing was before. -/
theorem count_failing
    {p : Plan}
    {answers : Answers}
    {f : Findings}
    (hFinds : p.Finds answers f)
    (hFound : ∀ ref o,
      answers (.identity ref p.identityLabel) o →
      ∃ v, o = .ok v) :
    (f.failing failed message status).skipped.count
        .lookup =
      f.skipped.count .lookup +
        f.subscriptions.countP (f.mesh.reaches failed) := by
  have hReaches (s : Subscription) :
      f.mesh.reaches failed s =
        (s.target.any f.index.hasProvider &&
          s.concerns failed) := by
    rw [Mesh.reaches, mesh_providerKeys]
    rfl
  have hTurns :
      ∀ ts : List Turn, (∀ t ∈ ts, t ∈ f.turns) →
        ((ts.map
            (Turn.failing failed message status)).flatMap
              (·.skipped)).count .lookup =
          (ts.flatMap (·.skipped)).count .lookup +
            (ts.map (·.subscription)).countP
              (f.mesh.reaches failed) := by
    intro ts hSub
    induction ts with
    | nil => rfl
    | cons t ts ih =>
        rw [List.forall_mem_cons] at hSub
        rcases Turn.skipped_failing failed message status
            (hFinds.heard t hSub.1) hFound with
          ⟨hQuiet, hSkipped⟩
        rw [← hReaches] at hSkipped
        simp only [List.map_cons, List.flatMap_cons,
          List.count_append, ih hSub.2, hQuiet, hSkipped,
          List.countP_cons]
        cases f.mesh.reaches failed t.subscription <;>
          simp
        omega
  rw [skipped, skipped, List.count_append,
    List.count_append, Nat.add_assoc]
  exact congrArg _ (hTurns f.turns fun _ hMem => hMem)

end Findings

------------------------------------------------------------
-- Built Meshes
------------------------------------------------------------

namespace Plan

variable {σ τ υ : Type}

/-
  A build over `c` gives a mesh, with every lookup answered.
  Over `d`, which fails to look some references up, it does
  so too.  Its mesh is that over `e`, which does not list
  what has such a subscriber, and it skips one lookup more
  for each of these subscriptions that targets a provider.
-/
theorem failing_lookups
    {p : Plan}
    {c : Cluster σ}
    {d : Cluster τ}
    {e : Cluster υ}
    {s : σ}
    {t : τ}
    {u : υ}
    {replies : Replies}
    {failed : ObjectReference → Bool}
    {message : ObjectReference → String}
    {status : ObjectReference → Option Int}
    {m : Mesh}
    {run : Run σ}
    (hSteady : c.Steady s replies)
    (hRun : p.run c s = (.ok m, run))
    (hLookups : ∀ ref,
      replies (.identity ref p.identityLabel) = .ok .null ∨
        ∃ i, replies (.identity ref p.identityLabel) =
          .ok (.str i))
    (hFailing : d.Steady t
      (replies.failing failed message status))
    (hWithout : e.Steady u (replies.without failed)) :
    ∃ m' runD runE triggers others,
      p.run d t = (.ok m', runD) ∧
      p.run e u = (.ok m', runE) ∧
      replies.answers.Yields .triggers
        Conversion.trigger triggers ∧
      replies.answers.Yields .subscriptions
        Conversion.channelSubscription others ∧
      runD.skips.count .lookup =
        run.skips.count .lookup +
          (triggers ++ others).countP
            (m'.reaches failed) := by
  rcases finds_of_steady_run hSteady hRun with
    ⟨f, hFinds, _, hSkips⟩
  have hFound : ∀ ref o,
      replies.answers (.identity ref p.identityLabel) o →
      ∃ v, o = .ok v := by
    rintro ref o rfl
    rcases hLookups ref with hNull | ⟨i, hText⟩
    · exact ⟨.null, hNull⟩
    · exact ⟨.str i, hText⟩
  rcases run_of_finds hFailing
      (Findings.finds_failing hFinds) with
    ⟨runD, hRunD, hSkipsD⟩
  rcases run_of_finds hWithout
      (Findings.finds_without hFinds) with
    ⟨runE, hRunE, _⟩
  rw [← Findings.mesh_failing failed message status]
    at hRunE
  rcases hFinds.subscriptions with
    ⟨triggers, others, hTriggers, hOthers, hAll⟩
  refine ⟨_, runD, runE, triggers, others, hRunD, hRunE,
    hTriggers, hOthers, ?_⟩
  have hProviders :
      (f.failing failed message status).mesh.reaches
          failed =
        f.mesh.reaches failed := rfl
  rw [hSkipsD, hSkips, ← hAll, hProviders]
  exact Findings.count_failing hFinds hFound

/- Where audit fails, the shop is built as if without it. -/
theorem shop_failing_lookups :
    let replies := Shop.replies Shop.known [] []
    let failed (ref : ObjectReference) :=
      decide (ref.name = "audit")
    let failing :=
      replies.failing failed (fun _ => "no answer")
        fun _ => none
    (Cluster.ofTable replies).Steady () replies ∧
    (Cluster.ofTable failing).Steady () failing ∧
    (∀ ref label,
      replies (.identity ref label) = .ok .null ∨
        ∃ i, replies (.identity ref label) =
          .ok (.str i)) ∧
    ∃ m run m' runD runE triggers others,
      Plan.run {} (Cluster.ofTable replies) () =
        (.ok m, run) ∧
      Shop.view m =
        [["shop/order"], ["billing", "audit"]] ∧
      Plan.run {} (Cluster.ofTable failing) () =
        (.ok m', runD) ∧
      Plan.run {}
        (Cluster.ofTable (replies.without failed)) () =
          (.ok m', runE) ∧
      replies.answers.Yields .triggers
        Conversion.trigger triggers ∧
      replies.answers.Yields .subscriptions
        Conversion.channelSubscription others ∧
      runD.skips.count .lookup =
        run.skips.count .lookup +
          (triggers ++ others).countP
            (m'.reaches failed) := by
  intro replies failed failing
  have hSteady := Cluster.steady_ofTable replies
  have hFailing := Cluster.steady_ofTable failing
  have hWithout :=
    Cluster.steady_ofTable (replies.without failed)
  have hKnown (ref : ObjectReference) (label : String) :
      replies (.identity ref label) = .ok .null ∨
        ∃ i, replies (.identity ref label) =
          .ok (.str i) := by
    change Shop.known ref = _ ∨ ∃ i, Shop.known ref = _
    unfold Shop.known
    split
    · exact .inr ⟨_, rfl⟩
    · split
      · exact .inr ⟨_, rfl⟩
      · exact .inl rfl
  rcases Shop.exists_run with ⟨m, run, hRun, hShown⟩
  rcases failing_lookups hSteady hRun
      (fun ref => hKnown ref _) hFailing hWithout with
    ⟨m', runD, runE, triggers, others, hEnd⟩
  exact ⟨hSteady, hFailing, hKnown, m, run, m', runD, runE,
    triggers, others, hRun, hShown, hEnd⟩

end Plan

end EventTopology
