import EventTopology.Proofs.Mesh.Carrying
import EventTopology.Proofs.Build.Steady
import EventTopology.Proofs.Metrics.Samples

/-
  This file accounts for all subscriptions.  A build tells
  of each of them once, and what it tells, what it counts as
  skipped and who consumes what in its mesh are one account.

  Key definitions include:
    * `Mesh.LooksUp`
    * `Mesh.Befalls`
    * `Run.Accounts`

  The main results are:
    * `Turn.befalls`
    * `Findings.mem_consumedBy_iff`
    * `Findings.accounts`
    * `Plan.accounts_of_run`
    * `Plan.accounts_of_store`
    * `Plan.accounts_of_session`
-/

------------------------------------------------------------
-- What Befalls Subscriptions
------------------------------------------------------------

namespace EventTopology

/- The event that tells an outcome of a subscription. -/
def Subscription.event
    (s : Subscription)
    (o : Log.SubscriptionOutcome) : Log.Event :=
  .subscription o s.origin s.ns s.name

namespace Mesh

/- The subscription to a provider has a subscriber. -/
structure LooksUp
    (m : Mesh)
    (s : Subscription)
    (target : String)
    (ref : ObjectReference) : Prop where
  targets : s.target = some target
  provides : target ∈ m.providerKeys
  delivers : s.subscriber = some ref

/-
  What befalls a subscription in a mesh: the one outcome
  that its target, its subscriber and the answer to the
  lookup of the subscriber leave.
-/
inductive Befalls
    (m : Mesh)
    (answers : Answers)
    (label : String)
    (s : Subscription) : Log.SubscriptionOutcome → Prop
| noTarget :
    s.target = none →
    Befalls m answers label s .noTarget
| providerNotFound
    {target : String} :
    s.target = some target →
    target ∉ m.providerKeys →
    Befalls m answers label s (.providerNotFound target)
| noSubscriber
    {target : String} :
    s.target = some target →
    target ∈ m.providerKeys →
    s.subscriber = none →
    Befalls m answers label s .noSubscriber
| lookupFailed
    {target words : String}
    {ref : ObjectReference}
    {status : Option Int} :
    m.LooksUp s target ref →
    answers (.identity ref label)
      (.error (.cluster (.failed words status))) →
    Befalls m answers label s
      (.lookupFailed
        (Failure.lookupWords ref.key (.failed words status)))
| noSuchSubscriber
    {target words : String}
    {ref : ObjectReference} :
    m.LooksUp s target ref →
    answers (.identity ref label)
      (.error (.cluster (.notFound words))) →
    Befalls m answers label s (.noIdentity ref.key)
| noIdentity
    {target : String}
    {ref : ObjectReference}
    {v : Json} :
    m.LooksUp s target ref →
    answers (.identity ref label) (.ok v) →
    v.truthy = false →
    Befalls m answers label s (.noIdentity ref.key)
| resolved
    {target i : String}
    {ref : ObjectReference}
    {ids : List String} :
    m.LooksUp s target ref →
    answers (.identity ref label) (.ok (.str i)) →
    i ≠ "" →
    (∀ e ∈ m.eventTypes,
      e.id ∈ ids ↔
        m.Carries target e.id ∧
          s.receives e.type = true) →
    Befalls m answers label s (.resolved (.str i) ids)

end Mesh

------------------------------------------------------------
-- Turns and Their Outcomes
------------------------------------------------------------

namespace Turn

open Consumption (settle settles_of_eq)

variable {f : Findings}
variable {answers : Answers}
variable {label : String}
variable {x : Index}
variable {t : Turn}

/- A turn has the outcome that befalls its subscription. -/
theorem befalls
    (hHeard : t.Heard answers label f.index)
    (hGoesOn : t.GoesOn f.index)
    (hTexts : ∀ ref v,
      answers (.identity ref label) (.ok v) →
      v.truthy = true → ∃ i, v = .str i) :
    f.mesh.Befalls answers label t.subscription
      (t.outcome f.index) := by
  have hKeys := f.mesh_providerKeys
  unfold Heard at hHeard
  unfold outcome
  cases hSettle : settle f.index t.subscription with
  | inl o =>
      cases settles_of_eq hSettle with
      | noTarget hTarget => exact .noTarget hTarget
      | providerNotFound hTarget hNot =>
          refine .providerNotFound hTarget ?_
          rw [hKeys]
          exact of_decide_eq_false hNot
      | noSubscriber hTarget hHas hNone =>
          refine .noSubscriber hTarget ?_ hNone
          rw [hKeys]
          exact of_decide_eq_true hHas
  | inr found =>
      rcases found with ⟨target, ref⟩
      rcases target_of_settle hSettle with
        ⟨hTarget, hHas, hRef⟩
      have hKey : target ∈ f.index.providerKeys :=
        of_decide_eq_true hHas
      have hLooksUp :
          f.mesh.LooksUp t.subscription target ref :=
        ⟨hTarget, hKeys ▸ hKey, hRef⟩
      rw [hSettle] at hHeard
      rcases hHeard with ⟨o, hAnswer, hGiven⟩
      dsimp only
      rw [hAnswer]
      rcases o with e | v
      · rcases hGoesOn.cluster e hAnswer with
          ⟨m | ⟨m, status⟩, rfl⟩
        · exact .noSuchSubscriber hLooksUp hGiven
        · exact .lookupFailed hLooksUp hGiven
      · dsimp only [Consumption.resolve]
        split
        case isTrue hTruthy =>
          rcases hTexts ref v hGiven hTruthy with ⟨i, rfl⟩
          refine .resolved hLooksUp hGiven ?_ ?_
          · simpa [Json.truthy] using hTruthy
          · intro e hMem
            exact f.mem_received_iff hMem hKey _
        case isFalse hFalse =>
          exact .noIdentity hLooksUp hGiven
            (Bool.eq_false_iff.mpr hFalse)

/- Without a lookup there is no answer. -/
theorem answer_of_settle
    {o : Log.SubscriptionOutcome}
    (hHeard : t.Heard answers label x)
    (hSettle : settle x t.subscription = .inl o) :
    t.answer = none := by
  unfold Heard at hHeard
  rwa [hSettle] at hHeard

/- An identity that is found is told with what it is for. -/
theorem outcome_eq_resolved_iff
    {v : Json}
    {ids : List String}
    (hHeard : t.Heard answers label x) :
    t.outcome x = .resolved v ids ↔
      t.identity? = some v ∧ ids = t.ids x := by
  cases hSettle : settle x t.subscription with
  | inl o =>
      have hNone := answer_of_settle hHeard hSettle
      simp only [outcome, hSettle, identity?, hNone,
        reduceCtorEq, false_and, iff_false]
      rintro rfl
      exact Consumption.settle_ne_resolved hSettle
  | inr found =>
      rcases found with ⟨target, ref⟩
      have hTarget := (target_of_settle hSettle).1
      unfold Heard at hHeard
      rw [hSettle] at hHeard
      rcases hHeard with ⟨o, hAnswer, _⟩
      simp only [outcome, hSettle, identity?, hAnswer,
        Turn.ids, hTarget]
      rcases o with e | w
      · rcases e with (m | ⟨m, status⟩) | _ <;> simp
      · by_cases hTruthy : w.truthy = true
        · simp [Consumption.resolve, hTruthy, eq_comm]
        · simp [Consumption.resolve, hTruthy]

/- An identity that is found is one that was answered. -/
theorem answered_of_identity
    {v : Json}
    (hHeard : t.Heard answers label x)
    (hIdentity : t.identity? = some v) :
    v.truthy = true ∧
      ∃ ref, answers (.identity ref label) (.ok v) := by
  cases hSettle : settle x t.subscription with
  | inl o =>
      simp [identity?, answer_of_settle hHeard hSettle]
        at hIdentity
  | inr found =>
      unfold Heard at hHeard
      rw [hSettle] at hHeard
      rcases hHeard with ⟨o, hAnswer, hGiven⟩
      rcases o with e | w
      · simp [identity?, hAnswer] at hIdentity
      · simp only [identity?, hAnswer,
          Option.ite_none_right_eq_some,
          Option.some.injEq] at hIdentity
        rcases hIdentity with ⟨hTruthy, rfl⟩
        exact ⟨hTruthy, found.2, hGiven⟩

/- A failed lookup is told just when it is skipped. -/
theorem skipped_eq
    (hHeard : t.Heard answers label x) :
    t.skipped =
      if (t.event x).entry.event =
          "mesh.subscription.lookup_failed" then
        [.lookup]
      else [] := by
  cases hSettle : settle x t.subscription with
  | inl o =>
      have hNone := answer_of_settle hHeard hSettle
      cases settles_of_eq hSettle <;>
        simp [skipped, hNone, event, outcome, hSettle,
          Log.Event.entry, Log.SubscriptionOutcome.entry]
  | inr found =>
      rcases found with ⟨target, ref⟩
      unfold Heard at hHeard
      rw [hSettle] at hHeard
      rcases hHeard with ⟨o, hAnswer, _⟩
      simp only [skipped, event, outcome, hSettle, hAnswer]
      rcases o with e | w
      · rcases e with (m | ⟨m, status⟩) | _ <;>
          simp [Log.Event.entry,
            Log.SubscriptionOutcome.entry]
      · by_cases hTruthy : w.truthy = true <;>
          simp [Consumption.resolve, hTruthy,
            Log.Event.entry, Log.SubscriptionOutcome.entry]

/- Failed lookups are told as often as they are skipped. -/
theorem count_lookup
    {ts : List Turn}
    (hHeard : ∀ t ∈ ts, t.Heard answers label x) :
    (ts.flatMap (·.skipped)).count .lookup =
      (ts.map (·.event x)).countP
        (·.entry.event =
          "mesh.subscription.lookup_failed") := by
  induction ts with
  | nil => rfl
  | cons t ts ih =>
      rw [List.forall_mem_cons] at hHeard
      rw [List.flatMap_cons, List.count_append,
        ih hHeard.2, skipped_eq hHeard.1, List.map_cons,
        List.countP_cons, Nat.add_comm]
      by_cases h : (t.event x).entry.event =
          "mesh.subscription.lookup_failed" <;> simp [h]

end Turn

------------------------------------------------------------
-- Findings and What They Tell
------------------------------------------------------------

namespace Findings

variable {f : Findings}
variable {answers : Answers}
variable {label : String}

/- All lookups that are skipped are those of turns. -/
theorem count_lookup_skipped (f : Findings) :
    f.skipped.count .lookup =
      (f.turns.flatMap (·.skipped)).count .lookup := by
  have hNone :
      ((f.sources.filter (·.isNone)).map
        fun _ => SkipReason.declaration).count .lookup =
          0 := by
    rw [List.count_eq_zero]
    simp
  rw [skipped, List.count_append, hNone, Nat.zero_add]

/- Consumers are the identities that turns have resolved. -/
theorem mem_consumedBy_iff
    (hHeard : ∀ t ∈ f.turns,
      t.Heard answers label f.index)
    (hTexts : ∀ ref v,
      answers (.identity ref label) (.ok v) →
      v.truthy = true → ∃ i, v = .str i)
    {e : EventType}
    (hMem : e ∈ f.mesh.eventTypes)
    {v : Json} :
    v ∈ e.consumedBy ↔
      ∃ t ∈ f.turns, ∃ ids,
        t.outcome f.index = .resolved v ids ∧
          e.id ∈ ids := by
  have hFiled :
      ∀ w ∈ f.turns.flatMap (Turn.filed f.index e.id),
        ∃ i, w = .str i := by
    intro w hIn
    rcases List.mem_flatMap.mp hIn with ⟨t, hTurn, hIn⟩
    rcases Turn.answered_of_identity (hHeard t hTurn)
      (Turn.mem_filed_iff.mp hIn).1 with
      ⟨hTruthy, ref, hGiven⟩
    exact hTexts ref w hGiven hTruthy
  rw [f.consumedBy_eq_pushed hMem, pushed_consumed,
    Consumption.mem_addAll_iff hFiled, List.mem_flatMap]
  refine exists_congr fun t => and_congr_right fun hTurn => ?_
  rw [Turn.mem_filed_iff]
  simp only [Turn.outcome_eq_resolved_iff (hHeard t hTurn),
    and_assoc, exists_and_left, exists_eq_left]

end Findings

------------------------------------------------------------
-- Accounts of Runs
------------------------------------------------------------

/-
  A run that gave a mesh accounts for subscriptions: what it
  told, what it skipped and who consumes what agree.
-/
structure Run.Accounts
    {σ : Type}
    (run : Run σ)
    (m : Mesh)
    (answers : Answers)
    (label : String)
    (ss : List Subscription) : Prop where
  /- Each is told once, in order, as what befell it. -/
  told :
    ∃ outcomes,
      List.Forall₂ (m.Befalls answers label) ss outcomes ∧
      run.told = List.zipWith Subscription.event ss outcomes
  /- What is counted are the lookups told to have failed. -/
  counted :
    ∀ r : Registry,
      (r.recordSkips run.skips).skippedFor .lookup =
        r.skippedFor .lookup +
          run.told.countP
            (·.entry.event =
              "mesh.subscription.lookup_failed")
  /- Consumers are the identities told to be resolved. -/
  consumed :
    ∀ e ∈ m.eventTypes, ∀ v,
      v ∈ e.consumedBy ↔
        ∃ ids origin ns name,
          .subscription (.resolved v ids) origin ns name ∈
            run.told ∧
          e.id ∈ ids

namespace Findings

variable {σ : Type}

/- What is found and told of turns is one account. -/
theorem accounts
    {p : Plan}
    {answers : Answers}
    {f : Findings}
    {run : Run σ}
    (hFinds : p.Finds answers f)
    (hSkips : run.skips = f.skipped)
    (hTold : run.told = f.turns.map (·.event f.index))
    (hTexts : ∀ ref v,
      answers (.identity ref p.identityLabel) (.ok v) →
      v.truthy = true → ∃ i, v = .str i) :
    ∃ triggers others,
      answers.Yields .triggers Conversion.trigger triggers ∧
      answers.Yields .subscriptions
        Conversion.channelSubscription others ∧
      run.Accounts f.mesh answers p.identityLabel
        (triggers ++ others) := by
  rcases hFinds.subscriptions with
    ⟨triggers, others, hTriggers, hOthers, hAll⟩
  refine ⟨triggers, others, hTriggers, hOthers, ?_⟩
  rw [← hAll]
  refine ⟨⟨f.turns.map (·.outcome f.index), ?_, ?_⟩, ?_, ?_⟩
  · rw [subscriptions, List.forall₂_map_left_iff,
      List.forall₂_map_right_iff, List.forall₂_same]
    intro t hTurn
    exact Turn.befalls (hFinds.heard t hTurn)
      (hFinds.goesOn t hTurn) hTexts
  · rw [hTold, subscriptions, List.zipWith_map,
      List.zipWith_self]
    rfl
  · intro r
    rw [Registry.skippedFor_recordSkips, hSkips,
      count_lookup_skipped, Turn.count_lookup hFinds.heard,
      hTold]
  · intro e hMem v
    rw [mem_consumedBy_iff hFinds.heard hTexts hMem, hTold]
    simp only [List.mem_map, Turn.event,
      Log.Event.subscription.injEq]
    constructor
    · rintro ⟨t, hTurn, ids, hResolved, hIn⟩
      exact ⟨ids, _, _, _, ⟨t, hTurn, hResolved, rfl, rfl,
        rfl⟩, hIn⟩
    · rintro ⟨ids, _, _, _, ⟨t, hTurn, hResolved, _⟩, hIn⟩
      exact ⟨t, hTurn, ids, hResolved, hIn⟩

end Findings

namespace Plan

variable {σ : Type}

/-
  Over a quiet cluster with texts for identities, every
  build that gives a mesh accounts for the triggers and then
  for the channel subscriptions.
-/
theorem accounts_of_run
    {p : Plan}
    {c : Cluster σ}
    {s : σ}
    {m : Mesh}
    {run : Run σ}
    (hRun : p.run c s = (.ok m, run))
    (hQuiet : c.Quiet)
    (hTexts : ∀ ref v,
      c.Heard s run.requests
        (.identity ref p.identityLabel) (.ok v) →
      v.truthy = true → ∃ i, v = .str i) :
    ∃ triggers others,
      (c.Heard s run.requests).Yields .triggers
        Conversion.trigger triggers ∧
      (c.Heard s run.requests).Yields .subscriptions
        Conversion.channelSubscription others ∧
      run.Accounts m (c.Heard s run.requests)
        p.identityLabel (triggers ++ others) := by
  rcases told_of_run hRun with ⟨f, hFinds, rfl, hSkips, hTold⟩
  exact f.accounts hFinds hSkips (hTold hQuiet) hTexts

/- A store tells of no subscription, so its builds do. -/
theorem accounts_of_store
    {p : Plan}
    {s : Store}
    {m : Mesh}
    {run : Run Store}
    (hRun : p.run Store.cluster s = (.ok m, run))
    (hTexts : ∀ ref v,
      Store.cluster.Heard s run.requests
        (.identity ref p.identityLabel) (.ok v) →
      v.truthy = true → ∃ i, v = .str i) :
    let answers := Store.cluster.Heard s run.requests
    ∃ triggers others,
      answers.Yields .triggers Conversion.trigger triggers ∧
      answers.Yields .subscriptions
        Conversion.channelSubscription others ∧
      run.Accounts m answers p.identityLabel
        (triggers ++ others) := by
  rcases told_of_run hRun with ⟨f, hFinds, rfl, hSkips, hTold⟩
  exact f.accounts hFinds hSkips (hTold Store.quiet_cluster)
    hTexts

/- So do those over a session, whatever library it has. -/
theorem accounts_of_session
    {p : Plan}
    {lib : Client.Library}
    {s : Session}
    {m : Mesh}
    {run : Run Session}
    (hRun : p.run (Session.cluster lib) s = (.ok m, run))
    (hTexts : ∀ ref v,
      (Session.cluster lib).Heard s run.requests
        (.identity ref p.identityLabel) (.ok v) →
      v.truthy = true → ∃ i, v = .str i) :
    let answers := (Session.cluster lib).Heard s run.requests
    ∃ triggers others,
      answers.Yields .triggers Conversion.trigger triggers ∧
      answers.Yields .subscriptions
        Conversion.channelSubscription others ∧
      run.Accounts m answers p.identityLabel
        (triggers ++ others) := by
  rcases told_of_run hRun with ⟨f, hFinds, rfl, hSkips, hTold⟩
  exact f.accounts hFinds hSkips
    (hTold (Session.quiet_cluster lib)) hTexts

end Plan

------------------------------------------------------------
-- A Shop with All Outcomes
------------------------------------------------------------

namespace Shop

/- Billing is known, audit cannot be reached. -/
def partly (ref : ObjectReference) : Except Failure Json :=
  if ref.name = "billing" then .ok (.str "billing")
  else if ref.name = "audit" then
    .error (.cluster (.failed "no answer" none))
  else .ok .null

/-
  Replies with a trigger for each outcome but one, which
  only a subscription to no channel has.
-/
def motley : Replies
| .triggers =>
    .ok (.arr
      [trigger "shop" "bill" "main" "billing",
       trigger "shop" "stray" "side" "billing",
       resource "shop" "deaf" [("broker", .str "main")],
       trigger "shop" "log" "main" "audit",
       trigger "shop" "lose" "main" "nobody"])
| .subscriptions => .ok (.arr [resource "shop" "idle" []])
| r => replies partly [] [] r

/- The events that tell what befalls the subscriptions. -/
def motleyEvents : List String :=
  ["mesh.subscription.resolved",
   "mesh.subscription.provider_not_found",
   "mesh.subscription.no_subscriber",
   "mesh.subscription.lookup_failed",
   "mesh.subscription.no_identity",
   "mesh.subscription.no_target"]

end Shop

namespace Plan

/- All that may befall a subscription is told here once. -/
theorem motley_accounts :
    let c := Cluster.ofTable Shop.motley
    ∃ m run,
      Plan.run {} c () = (.ok m, run) ∧
      c.Quiet ∧
      (∀ ref v,
        c.Heard () run.requests
          (.identity ref ({} : Plan).identityLabel)
          (.ok v) →
        v.truthy = true → ∃ i, v = .str i) ∧
      run.told.map (·.entry.event) = Shop.motleyEvents ∧
      ∃ triggers others,
        (c.Heard () run.requests).Yields .triggers
          Conversion.trigger triggers ∧
        (c.Heard () run.requests).Yields .subscriptions
          Conversion.channelSubscription others ∧
        run.Accounts m (c.Heard () run.requests)
          ({} : Plan).identityLabel
          (triggers ++ others) := by
  intro c
  have hView :
      (Plan.run {} c ()).1.toOption.map Shop.view =
        some [["shop/order"], ["billing"]] := by
    decide +kernel
  rcases exists_run_of_view hView with ⟨m, run, hRun, _⟩
  have hTold :
      (Plan.run {} c ()).2.told.map (·.entry.event) =
        Shop.motleyEvents := by
    decide +kernel
  rw [hRun] at hTold
  have hQuiet := Cluster.quiet_ofTable Shop.motley
  have hTexts (ref : ObjectReference) v
      (hHeard : c.Heard () run.requests
        (.identity ref ({} : Plan).identityLabel) (.ok v))
      (hTruthy : v.truthy = true) :
      ∃ i, v = .str i := by
    have hAnswer :=
      (Cluster.steady_ofTable Shop.motley).answers_of_heard
        hHeard
    change Except.ok v = Shop.partly ref at hAnswer
    unfold Shop.partly at hAnswer
    split at hAnswer
    · cases hAnswer
      exact ⟨_, rfl⟩
    · split at hAnswer
      · cases hAnswer
      · cases hAnswer
        cases hTruthy
  exact ⟨m, run, hRun, hQuiet, hTexts, hTold,
    accounts_of_run hRun hQuiet hTexts⟩

end Plan

end EventTopology
