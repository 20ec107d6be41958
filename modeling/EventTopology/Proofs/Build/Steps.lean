import EventTopology.Proofs.Build.Findings
import EventTopology.Proofs.Build.Narrating

/-
  This file shows what each step of a build hears, one
  statement for each step, and from these that every build
  that gives a mesh gives the mesh of its findings.  Of the
  subscriptions it tells, one by one, what their turns were.

  Key definitions include:
    * `Turn.event`
    * `Plan.collect`
    * `Plan.complete`

  The main results are:
    * `Plan.build_eq`
    * `Plan.hears_collect`
    * `Plan.narrates_build`
    * `Plan.told_of_run`
    * `Plan.finds_of_run`
-/

------------------------------------------------------------
-- Listings
------------------------------------------------------------

namespace EventTopology

namespace Build

variable {σ α : Type}
variable {c : Cluster σ} {s : σ}

/- A listing gives just the resources that are listed. -/
theorem hears_list (name : String) (r : Request) :
    Hears c s (list c name r)
      (fun answers raws skipped =>
        answers.Lists r raws ∧ skipped = []) := by
  refine (hears_bind (hears_attempt r)
    (R := fun o _ raws skipped =>
      listed? o = some raws ∧ skipped = []) ?_).mono ?_
  · intro o
    rcases o with e | v
    · rcases e with (m | ⟨m, status⟩) | _
      case cluster.notFound =>
        apply (hears_bind (hears_tell _) fun _ =>
          hears_pure []).mono
        rintro answers raws skipped
          ⟨_, early, late, rfl, ⟨rfl, rfl⟩, rfl⟩
        exact ⟨rfl, rfl⟩
      case cluster.failed =>
        apply (hears_bind (hears_tell _) fun _ =>
          hears_throw _).mono
        rintro answers raws skipped
          ⟨_, _, _, _, hFalse, _⟩
        exact hFalse.elim
      all_goals
        exact (hears_throw _).mono
          fun _ _ _ hFalse => hFalse.elim
    · apply (hears_ofExcept _).mono
      rintro answers raws skipped ⟨hOk, rfl⟩
      refine ⟨?_, rfl⟩
      unfold Json.iterate at hOk
      cases hElements : v.elements? with
      | none => simp [hElements, Failure.ofShape] at hOk
      | some es =>
          simp only [hElements, Failure.ofShape] at hOk
          cases hOk
          exact hElements
  · rintro answers raws skipped
      ⟨o, early, late, ⟨hHeard, rfl⟩, ⟨hListed, rfl⟩, rfl⟩
    exact ⟨⟨o, hHeard, hListed⟩, rfl⟩

end Build

namespace Plan

open Build

variable {σ α : Type}
variable {c : Cluster σ} {s : σ}

/- A listing that is converted yields its records. -/
theorem hears_converted
    (name : String)
    (r : Request)
    (convert : Json → Except Failure α) :
    Hears c s
      (do convertAll convert (← Build.list c name r))
      (fun answers as skipped =>
        answers.Yields r convert as ∧ skipped = []) := by
  apply (hears_bind (hears_list name r) fun raws =>
    hears_ofExcept (raws.mapM convert)).mono
  rintro answers as skipped
    ⟨raws, early, late, ⟨hLists, rfl⟩, ⟨hOk, rfl⟩, rfl⟩
  exact ⟨⟨raws, hLists, Failure.mapM_eq_ok_iff.mp hOk⟩,
    rfl⟩

/- What follows a converted listing knows its records. -/
theorem hears_converted_bind
    {β : Type}
    (name : String)
    (r : Request)
    (convert : Json → Except Failure α)
    {f : List α → Build σ β}
    {R : List α → Answers → β → List SkipReason → Prop}
    (hRest : ∀ as, Hears c s (f as) (R as)) :
    Hears c s
      (do
        let raws ← Build.list c name r
        let as ← convertAll convert raws
        f as)
      (fun answers z skipped => ∃ as,
        answers.Yields r convert as ∧
          R as answers z skipped) := by
  apply (hears_bind (hears_list name r) fun raws =>
    hears_bind (hears_ofExcept (raws.mapM convert))
      hRest).mono
  rintro answers z skipped
    ⟨raws, early, late, ⟨hLists, rfl⟩, hLate, rfl⟩
  rcases hLate with
    ⟨as, middle, last, ⟨hOk, rfl⟩, hLast, rfl⟩
  exact ⟨as,
    ⟨raws, hLists, Failure.mapM_eq_ok_iff.mp hOk⟩, hLast⟩

/- Definitions are coordinates when each of them is. -/
theorem coordinates_eq_ok
    {v : Json}
    {kinds : List KindCoordinates}
    (hOk : Discovery.coordinates v = .ok kinds) :
    ∃ raws, v.elements? = some raws ∧
      List.Forall₂ (fun raw coords =>
        Definition.coordinates raw = .ok coords)
        raws kinds := by
  unfold Discovery.coordinates at hOk
  rw [Except.bind_eq_ok_iff] at hOk
  rcases hOk with ⟨raws, hRaws, hKinds⟩
  refine ⟨raws, ?_, Failure.mapM_eq_ok_iff.mp hKinds⟩
  change Failure.ofShape v.iterate = .ok raws at hRaws
  unfold Json.iterate at hRaws
  cases hElements : v.elements? with
  | none => simp [hElements, Failure.ofShape] at hRaws
  | some es =>
      simp only [hElements, Failure.ofShape] at hRaws
      cases hRaws
      rfl

/- Discovery gives just the kinds with a tag. -/
theorem hears_discover (tag : String) :
    Hears c s (Discovery.discover c tag)
      (fun answers kinds skipped =>
        answers.Kinds tag kinds ∧ skipped = []) := by
  refine (hears_bind (hears_attempt (.definitions tag))
    (R := fun o _ kinds skipped =>
      (∃ raws, listed? o = some raws ∧
        List.Forall₂ (fun raw coords =>
          Definition.coordinates raw = .ok coords)
          raws kinds) ∧ skipped = []) ?_).mono ?_
  · intro o
    rcases o with e | v
    · rcases e with (m | ⟨m, status⟩) | _
      case cluster.notFound =>
        apply (hears_bind (hears_tell _) fun _ =>
          hears_pure []).mono
        rintro answers kinds skipped
          ⟨_, early, late, rfl, ⟨rfl, rfl⟩, rfl⟩
        exact ⟨⟨[], rfl, List.Forall₂.nil⟩, rfl⟩
      all_goals
        exact (hears_throw _).mono
          fun _ _ _ hFalse => hFalse.elim
    · apply (hears_bind (hears_ofExcept _) fun kinds =>
        hears_bind (hears_tell _) fun _ =>
          hears_pure kinds).mono
      rintro answers kinds skipped
        ⟨kinds', early, late, ⟨hOk, rfl⟩, hRest, rfl⟩
      rcases hRest with
        ⟨_, middle, last, rfl, ⟨rfl, rfl⟩, rfl⟩
      exact ⟨coordinates_eq_ok hOk, rfl⟩
  · rintro answers kinds skipped
      ⟨o, early, late, ⟨hHeard, rfl⟩, ⟨hKinds, rfl⟩, rfl⟩
    rcases hKinds with ⟨raws, hListed, hEach⟩
    exact ⟨⟨raws, ⟨o, hHeard, hListed⟩, hEach⟩, rfl⟩

end Plan

------------------------------------------------------------
-- Providers and Event Types
------------------------------------------------------------

namespace Plan

open Build

variable {σ : Type}
variable {c : Cluster σ} {s : σ}

theorem hears_subscribables (p : Plan) :
    Hears c s (p.subscribables c)
      (fun answers ss skipped =>
        p.FindsSubscribables answers ss ∧
          skipped = []) := by
  have hEach (coords : KindCoordinates) :
      Hears c s (p.subscribablesOf c coords)
        (fun answers part skipped =>
          answers.Yields (.instances coords)
            (p.conversion.subscribable coords) part ∧
          skipped = []) :=
    hears_converted _ _ _
  apply (hears_bind (hears_discover p.subscribableTag)
    fun kinds => hears_bind (hears_mapM hEach kinds)
      fun parts => hears_pure parts.flatten).mono
  rintro answers ss skipped
    ⟨kinds, early, late, ⟨hKinds, rfl⟩, hRest, rfl⟩
  rcases hRest with
    ⟨_, middle, last, hParts, ⟨rfl, rfl⟩, rfl⟩
  rcases hParts with ⟨parts, hAll, rfl, rfl⟩
  refine ⟨⟨kinds, parts.map (·.1), hKinds, ?_, rfl⟩, ?_⟩
  · rw [List.forall₂_map_right_iff]
    exact hAll.imp fun _ _ h => h.1
  · have hQuiet : ∀ part ∈ parts, part.2 = [] := by
      intro part hPart
      rcases hAll.exists_left_of_mem hPart with
        ⟨_, _, _, hSkipped⟩
      exact hSkipped
    simpa using hQuiet

/- The index of providers is that of all that are found. -/
theorem hears_providers (p : Plan) :
    Hears c s (p.providers c)
      (fun answers x skipped => ∃ bs ss,
        answers.Yields .brokers p.conversion.broker bs ∧
        p.FindsSubscribables answers ss ∧
        x = ss.foldl Index.addSubscribable
          (bs.foldl Index.addBroker {}) ∧
        skipped = []) := by
  apply (hears_bind (hears_converted _ _ _) fun bs =>
    hears_bind p.hears_subscribables fun ss =>
      hears_pure _).mono
  rintro answers x skipped
    ⟨bs, early, late, ⟨hBrokers, rfl⟩, hRest, rfl⟩
  rcases hRest with
    ⟨ss, middle, last, ⟨hSubscribables, rfl⟩,
      ⟨rfl, rfl⟩, rfl⟩
  exact ⟨bs, ss, hBrokers, hSubscribables, rfl, rfl⟩

theorem hears_eventTypes (p : Plan) :
    Hears c s (p.eventTypes c)
      (fun answers es skipped =>
        answers.Yields .eventTypes p.conversion.eventType
          es ∧ skipped = []) :=
  hears_converted _ _ _

end Plan

------------------------------------------------------------
-- Sources
------------------------------------------------------------

namespace Plan

open Build

variable {σ : Type}
variable {c : Cluster σ} {s : σ}

/-
  A source kind gives its sources, or nothing but a note
  that it is skipped.
-/
theorem hears_sourcesOfKind
    (p : Plan)
    (x : Index)
    (coords : KindCoordinates) :
    Hears c s (p.sourcesOfKind c x coords)
      (fun answers ss skipped => ∃ part,
        p.FindsSourcesOf answers x coords part ∧
        ss = part.getD [] ∧
        skipped =
          if part.isNone then [.declaration] else []) := by
  unfold sourcesOfKind FindsSourcesOf
  cases p.conversion.declaredTypes coords with
  | error f =>
      apply (hears_bind (hears_tell _) fun _ =>
        hears_bind (hears_skip _) fun _ =>
          hears_pure []).mono
      rintro answers ss skipped
        ⟨_, early, late, rfl, hRest, rfl⟩
      rcases hRest with
        ⟨_, middle, last, rfl, ⟨rfl, rfl⟩, rfl⟩
      exact ⟨none, rfl, rfl, rfl⟩
  | ok declared =>
      change Hears c s (p.sourcesOf c x coords declared) _
      apply (hears_converted_bind _ _ _ fun found =>
        hears_pure (found.map x.matched)).mono
      rintro answers ss skipped ⟨found, hFound, rfl, rfl⟩
      exact ⟨some _, ⟨found, hFound, rfl⟩, rfl, rfl⟩

theorem hears_sources (p : Plan) (x : Index) :
    Hears c s (p.sources c x)
      (fun answers ss skipped => ∃ parts,
        p.FindsSources answers x parts ∧
        ss = parts.flatMap (·.getD []) ∧
        skipped = (parts.filter (·.isNone)).map
          fun _ => .declaration) := by
  apply (hears_bind (hears_discover p.sourceTag)
    fun kinds => hears_bind
      (hears_mapM (p.hears_sourcesOfKind x) kinds)
      fun parts => hears_pure parts.flatten).mono
  rintro answers ss skipped
    ⟨kinds, early, late, ⟨hKinds, rfl⟩, hRest, rfl⟩
  rcases hRest with
    ⟨_, middle, last, hParts, ⟨rfl, rfl⟩, rfl⟩
  rcases hParts with ⟨given, hAll, rfl, rfl⟩
  -- The parts are read off what each kind has given.
  have hParts : ∃ parts,
      List.Forall₂ (p.FindsSourcesOf answers x)
        kinds parts ∧
      (given.map (·.1)).flatten =
        parts.flatMap (·.getD []) ∧
      given.flatMap (·.2) =
        (parts.filter (·.isNone)).map
          fun _ => .declaration := by
    clear hKinds
    induction hAll with
    | nil => exact ⟨[], List.Forall₂.nil, rfl, rfl⟩
    | cons hPart _ ih =>
        rcases ih with ⟨parts, hRest, hSources, hSkipped⟩
        rcases hPart with ⟨part, hFinds, hFirst, hNote⟩
        refine ⟨part :: parts,
          List.Forall₂.cons hFinds hRest, ?_, ?_⟩
        · simp [hFirst, hSources]
        · cases part <;> simp [hNote, hSkipped]
  rcases hParts with ⟨parts, hFinds, hSources, hSkipped⟩
  refine ⟨parts, ⟨kinds, hKinds, hFinds⟩, hSources, ?_⟩
  simpa using hSkipped

end Plan

------------------------------------------------------------
-- Subscriptions
------------------------------------------------------------

namespace Plan

open Build

variable {σ : Type}
variable {c : Cluster σ} {s : σ}

theorem hears_subscriptions :
    Hears c s (Plan.subscriptions c)
      (fun answers ss skipped =>
        FindsSubscriptions answers ss ∧ skipped = []) := by
  apply (hears_converted_bind _ _ _ fun triggers =>
    hears_converted_bind _ _ _ fun others =>
      hears_pure (triggers ++ others)).mono
  rintro answers ss skipped
    ⟨triggers, hTriggers, others, hOthers, rfl, rfl⟩
  exact ⟨⟨triggers, others, hTriggers, hOthers, rfl⟩, rfl⟩

end Plan

------------------------------------------------------------
-- Turns of Subscriptions
------------------------------------------------------------

namespace Consumption

open Build
open Log (SubscriptionOutcome)

variable {σ : Type}
variable {c : Cluster σ} {st : σ}

/-
  The outcome of a subscription is that of a turn in which
  nothing but the cluster may have failed.
-/
theorem hears_outcome
    (label : String)
    (x : Index)
    (s : Subscription) :
    Hears c st (outcome c label x s)
      (fun answers o skipped => ∃ t : Turn,
        t.subscription = s ∧ t.Heard answers label x ∧
        (∀ e, t.answer = some (.error e) →
          ∃ cause, e = .cluster cause) ∧
        o = t.outcome x ∧ skipped = []) := by
  unfold outcome
  cases hSettle : settle x s with
  | inl o =>
      apply (hears_pure o).mono
      rintro answers o' skipped ⟨rfl, rfl⟩
      refine ⟨⟨s, none⟩, rfl, ?_, ?_, ?_, rfl⟩
      · simp [Turn.Heard, hSettle]
      · simp
      · simp [Turn.outcome, hSettle]
  | inr found =>
      rcases found with ⟨target, ref⟩
      refine (hears_bind (hears_attempt (.identity ref label))
        (R := fun o _ told skipped =>
          (∀ e, o = .error e →
            ∃ cause, e = .cluster cause) ∧
          told = Turn.outcome x ⟨s, some o⟩ ∧
          skipped = []) ?_).mono ?_
      · intro o
        rcases o with e | v
        · rcases e with (m | ⟨m, status⟩) | _
          case cluster.notFound | cluster.failed =>
            apply (hears_pure _).mono
            rintro answers told skipped ⟨rfl, rfl⟩
            simp [Turn.outcome, hSettle]
          all_goals
            exact (hears_throw _).mono
              fun _ _ _ hFalse => hFalse.elim
        · apply (hears_pure _).mono
          rintro answers told skipped ⟨rfl, rfl⟩
          simp [Turn.outcome, hSettle]
      · rintro answers told skipped
          ⟨o, early, late, ⟨hHeard, rfl⟩,
            ⟨hCluster, rfl, rfl⟩, rfl⟩
        refine ⟨⟨s, some o⟩, rfl, ?_, ?_, rfl, rfl⟩
        · simp only [Turn.Heard, hSettle]
          exact ⟨o, rfl, hHeard⟩
        · intro e hError
          exact hCluster e (Option.some.inj hError)

/- How a subscription is settled, and why it is so. -/
inductive Settles
    (x : Index)
    (s : Subscription) :
    SubscriptionOutcome ⊕ (String × ObjectReference) → Prop
| noTarget :
    s.target = none →
    Settles x s (.inl .noTarget)
| providerNotFound
    {target : String} :
    s.target = some target →
    x.hasProvider target = false →
    Settles x s (.inl (.providerNotFound target))
| noSubscriber
    {target : String} :
    s.target = some target →
    x.hasProvider target = true →
    s.subscriber = none →
    Settles x s (.inl .noSubscriber)
| lookup
    {target : String}
    {ref : ObjectReference} :
    s.target = some target →
    x.hasProvider target = true →
    s.subscriber = some ref →
    Settles x s (.inr (target, ref))

theorem settles (x : Index) (s : Subscription) :
    Settles x s (settle x s) := by
  unfold settle
  cases hTarget : s.target with
  | none => exact .noTarget hTarget
  | some target =>
      cases hHas : x.hasProvider target with
      | false =>
          simp only [hHas]
          exact .providerNotFound hTarget hHas
      | true =>
          simp only [hHas, if_true]
          cases hRef : s.subscriber with
          | none => exact .noSubscriber hTarget hHas hRef
          | some ref => exact .lookup hTarget hHas hRef

theorem settles_of_eq
    {x : Index}
    {sub : Subscription}
    {r : SubscriptionOutcome ⊕ (String × ObjectReference)}
    (hSettle : settle x sub = r) :
    Settles x sub r :=
  hSettle ▸ settles x sub

/- What is not looked up is not resolved. -/
theorem settle_ne_resolved
    {x : Index}
    {sub : Subscription}
    {v : Json}
    {ids : List String} :
    settle x sub ≠ .inl (.resolved v ids) := by
  intro hResolved
  cases settles_of_eq hResolved

/- What an outcome does to what is known. -/
def Applies
    (o : SubscriptionOutcome)
    (known known' : Consumption)
    (skipped : List SkipReason) : Prop :=
  match o with
  | .resolved v ids =>
      known.fileAll v ids = .ok known' ∧ skipped = []
  | .lookupFailed _ => known' = known ∧ skipped = [.lookup]
  | _ => known' = known ∧ skipped = []

theorem hears_apply
    (known : Consumption)
    (o : SubscriptionOutcome) :
    Hears c st (known.apply o)
      (fun _ known' skipped =>
        Applies o known known' skipped) := by
  cases o with
  | resolved v ids =>
      apply (hears_ofExcept _).mono
      rintro answers known' skipped ⟨hOk, rfl⟩
      refine ⟨?_, rfl⟩
      cases hFiled : known.fileAll v ids with
      | error e => simp [hFiled, Failure.ofShape] at hOk
      | ok filed =>
          simp only [hFiled, Failure.ofShape] at hOk
          cases hOk
          rfl
  | lookupFailed words =>
      apply (hears_bind (hears_skip _) fun _ =>
        hears_pure known).mono
      rintro answers known' skipped
        ⟨_, early, late, rfl, ⟨rfl, rfl⟩, rfl⟩
      exact ⟨rfl, rfl⟩
  | _ =>
      apply (hears_pure known).mono
      rintro answers known' skipped ⟨rfl, rfl⟩
      exact ⟨rfl, rfl⟩

end Consumption

namespace Turn

open Consumption (settle settles_of_eq Applies)

/- The event that tells what became of the subscription. -/
def event (x : Index) (t : Turn) : Log.Event :=
  .subscription (t.outcome x) t.subscription.origin
    t.subscription.ns t.subscription.name

/- Only a provider's target is looked up for. -/
theorem target_of_settle
    {x : Index}
    {s : Subscription}
    {target : String}
    {ref : ObjectReference}
    (hSettle : settle x s = .inr (target, ref)) :
    s.target = some target ∧ x.hasProvider target = true ∧
      s.subscriber = some ref := by
  cases settles_of_eq hSettle with
  | lookup hTarget hHas hRef => exact ⟨hTarget, hHas, hRef⟩

/- Without a lookup nothing is filed and nothing skipped. -/
theorem applies_of_settle
    {x : Index}
    {s : Subscription}
    {o : Log.SubscriptionOutcome}
    {known known' : Consumption}
    {skipped : List SkipReason}
    (hSettle : settle x s = .inl o)
    (hApplies : Applies o known known' skipped) :
    known' = known ∧ skipped = [] := by
  cases settles_of_eq hSettle <;> exact hApplies

/-
  Whatever the outcome of a turn does is what the turn is
  said to take and to skip.
-/
theorem goesOn_of_applies
    {answers : Answers}
    {label : String}
    {x : Index}
    {t : Turn}
    {known known' : Consumption}
    {skipped : List SkipReason}
    (hHeard : t.Heard answers label x)
    (hCluster : ∀ e, t.answer = some (.error e) →
      ∃ cause, e = .cluster cause)
    (hApplies :
      Applies (t.outcome x) known known' skipped) :
    t.GoesOn x ∧ known' = t.take x known ∧
      skipped = t.skipped := by
  rcases t with ⟨s, answer⟩
  cases hSettle : settle x s with
  | inl o =>
      simp only [Heard, hSettle] at hHeard
      simp only [outcome, hSettle] at hApplies
      rcases applies_of_settle hSettle hApplies with
        ⟨rfl, rfl⟩
      subst hHeard
      exact ⟨⟨by simp, by simp [identity?]⟩, rfl, rfl⟩
  | inr found =>
      rcases found with ⟨target, ref⟩
      have hTarget := (target_of_settle hSettle).1
      simp only [Heard, hSettle] at hHeard
      rcases hHeard with ⟨o, rfl, -⟩
      simp only [outcome, hSettle] at hApplies
      rcases o with e | v
      · rcases hCluster e rfl with ⟨m | ⟨m, status⟩, rfl⟩
        all_goals
          rcases hApplies with ⟨rfl, rfl⟩
          exact ⟨⟨hCluster, by simp [identity?]⟩, rfl, rfl⟩
      · by_cases hTruthy : v.truthy = true
        · simp only [Consumption.resolve, hTruthy, if_true,
            Applies] at hApplies
          rcases hApplies with ⟨hFiled, rfl⟩
          unfold Consumption.fileAll at hFiled
          split at hFiled
          · rename_i hFits
            cases hFiled
            refine ⟨⟨by simp, ?_⟩, ?_, rfl⟩
            · intro w hIdentity
              simp only [identity?, hTruthy, if_true,
                Option.some.injEq] at hIdentity
              subst hIdentity
              simpa [ids, hTarget] using hFits
            · simp [take, identity?, hTruthy, ids, hTarget]
          · cases hFiled
        · simp only [Consumption.resolve, hTruthy,
            Applies] at hApplies
          rcases hApplies with ⟨rfl, rfl⟩
          exact ⟨⟨by simp, by simp [identity?, hTruthy]⟩,
            by simp [take, identity?, hTruthy], rfl⟩

end Turn

------------------------------------------------------------
-- Processing Subscriptions
------------------------------------------------------------

namespace Consumption

open Build
open Log (SubscriptionOutcome)

variable {σ : Type}
variable {c : Cluster σ} {st : σ}

/- A subscription's lookup tells nothing of it yet. -/
theorem mute_outcome
    (hQuiet : c.Quiet)
    (label : String)
    (x : Index)
    (s : Subscription) :
    Mute (outcome c label x s) := by
  unfold outcome
  cases settle x s with
  | inl o => exact fun _ => rfl
  | inr found =>
      refine (mute_attempt hQuiet _).bind fun o => ?_
      rcases o with e | v
      · rcases e with (m | ⟨m, status⟩) | _
        all_goals exact fun _ => rfl
      · exact fun _ => rfl

theorem mute_apply
    (known : Consumption)
    (o : SubscriptionOutcome) :
    Mute (known.apply o : Build σ Consumption) := by
  cases o with
  | lookupFailed words =>
      exact Mute.bind (fun _ => rfl) fun _ _ => rfl
  | _ => exact fun _ => rfl

/- A processed subscription has had its turn and is told. -/
theorem narrates_process
    (label : String)
    (x : Index)
    (known : Consumption)
    (s : Subscription) :
    Narrates c st (process c label x known s)
      (fun answers known' skipped told => ∃ t : Turn,
        t.subscription = s ∧ t.Heard answers label x ∧
        t.GoesOn x ∧ known' = t.take x known ∧
        skipped = t.skipped ∧ told = [t.event x]) := by
  have hTold (o : SubscriptionOutcome) :=
    Log.Event.isSubscription_eq
      (.subscription o s.origin s.ns s.name)
  apply (narrates_bind
    ((hears_outcome label x s).narrates fun hQuiet =>
      mute_outcome hQuiet label x s) fun o =>
    narrates_bind (narrates_tell (hTold o)) fun _ =>
      (hears_apply known o).narrates fun _ =>
        mute_apply known o).mono
  rintro answers known' skipped told
    ⟨_, _, _, _, _, ⟨⟨t, rfl, hHeard, hCluster, rfl, rfl⟩,
      rfl⟩, hRest, rfl, rfl⟩
  rcases hRest with
    ⟨_, _, _, _, _, ⟨rfl, rfl⟩, ⟨hApplies, rfl⟩, rfl, rfl⟩
  rcases Turn.goesOn_of_applies hHeard hCluster hApplies
    with ⟨hGoesOn, hTake, hSkipped⟩
  exact ⟨t, rfl, hHeard, hGoesOn, hTake, hSkipped, rfl⟩

end Consumption

namespace Plan

open Build

variable {σ : Type}
variable {c : Cluster σ} {st : σ}

/- All subscriptions have their turns, in order. -/
theorem narrates_consumption
    (p : Plan)
    (x : Index)
    (ss : List Subscription)
    (known : Consumption) :
    Narrates c st
      (ss.foldlM
        (Consumption.process c p.identityLabel x) known)
      (fun answers consumed skipped told =>
        ∃ turns : List Turn,
          turns.map (·.subscription) = ss ∧
          (∀ t ∈ turns,
            t.Heard answers p.identityLabel x) ∧
          (∀ t ∈ turns, t.GoesOn x) ∧
          consumed = turns.foldl (Turn.take x) known ∧
          skipped = turns.flatMap (·.skipped) ∧
          told = turns.map (·.event x)) := by
  induction ss generalizing known with
  | nil =>
      rw [List.foldlM_nil]
      apply ((hears_pure known).narrates
        fun _ _ => rfl).mono
      rintro answers consumed skipped told
        ⟨⟨rfl, rfl⟩, rfl⟩
      exact ⟨[], by simp⟩
  | cons s ss ih =>
      rw [List.foldlM_cons]
      apply (narrates_bind
        (Consumption.narrates_process p.identityLabel x
          known s) ih).mono
      rintro answers consumed skipped told
        ⟨_, _, _, _, _, hFirst, hRest, rfl, rfl⟩
      rcases hFirst with
        ⟨t, hTurn, hHeard, hGoesOn, rfl, rfl, rfl⟩
      rcases hRest with
        ⟨turns, hTurns, hAllHeard, hAllGoOn, rfl, rfl, rfl⟩
      refine ⟨t :: turns, ?_, ?_, ?_, rfl, rfl, rfl⟩
      · simp [hTurn, hTurns]
      · simpa using ⟨hHeard, hAllHeard⟩
      · simpa using ⟨hGoesOn, hAllGoOn⟩

end Plan

------------------------------------------------------------
-- Builds
------------------------------------------------------------

namespace Plan

open Build

variable {σ : Type}

/-
  All that a build finds before it lists subscriptions: the
  index of providers and event types, and the sources.
-/
def collect
    (p : Plan)
    (c : Cluster σ) : Build σ (Index × List Source) := do
  let providers ← p.providers c
  let (x, dangling) :=
    (providers.addEventTypes (← p.eventTypes c)).link
  Build.tellAll dangling
  let sources ← p.sources c x
  return (x, sources)

/- The mesh, once subscriptions are looked up. -/
def complete
    (p : Plan)
    (c : Cluster σ)
    (found : Index × List Source)
    (ss : List Subscription) : Build σ Mesh := do
  let consumed ← p.consumption c found.1 ss
  let mesh := Mesh.ofIndex found.1 found.2 consumed
  Build.tell (.buildCompleted mesh.counts)
  return mesh

/- A build collects, lists subscriptions and completes. -/
theorem build_eq
    (p : Plan)
    (c : Cluster σ) :
    p.build c = (do
      let found ← p.collect c
      let ss ← subscriptions c
      p.complete c found ss) := by
  simp only [build, collect, complete, bind_assoc,
    pure_bind]

variable {c : Cluster σ} {s : σ}

/-
  What is collected is indexed, with the sources of all
  kinds whose declarations can be read.
-/
theorem hears_collect (p : Plan) :
    Hears c s (p.collect c)
      (fun answers found skipped => ∃ bs ss es parts,
        answers.Yields .brokers p.conversion.broker bs ∧
        p.FindsSubscribables answers ss ∧
        answers.Yields .eventTypes p.conversion.eventType
          es ∧
        found.1 = (Findings.listed bs ss es).index ∧
        p.FindsSources answers found.1 parts ∧
        found.2 = parts.flatMap (·.getD []) ∧
        skipped = (parts.filter (·.isNone)).map
          fun _ => .declaration) := by
  apply (hears_bind p.hears_providers fun x =>
    hears_bind p.hears_eventTypes fun es =>
      hears_bind (hears_tellAll _) fun _ =>
        hears_bind
          (p.hears_sources (x.addEventTypes es).link.1)
          fun sources => hears_pure
            ((x.addEventTypes es).link.1, sources)).mono
  rintro answers found skipped
    ⟨_, _, _, ⟨bs, ss, hBrokers, hSubscribables, rfl, rfl⟩,
      ⟨es, _, _, ⟨hEventTypes, rfl⟩,
        ⟨_, _, _, rfl,
          ⟨_, _, _, ⟨parts, hSources, rfl, rfl⟩,
            ⟨rfl, rfl⟩, rfl⟩, rfl⟩, rfl⟩, rfl⟩
  exact ⟨bs, ss, es, parts, hBrokers, hSubscribables,
    hEventTypes, rfl, hSources, rfl, by simp⟩

/- A mesh is completed when all turns are over. -/
theorem narrates_complete
    (p : Plan)
    (found : Index × List Source)
    (ss : List Subscription) :
    Narrates c s (p.complete c found ss)
      (fun answers m skipped told => ∃ turns : List Turn,
        turns.map (·.subscription) = ss ∧
        (∀ t ∈ turns,
          t.Heard answers p.identityLabel found.1) ∧
        (∀ t ∈ turns, t.GoesOn found.1) ∧
        m = Mesh.ofIndex found.1 found.2
          (turns.foldl (Turn.take found.1) []) ∧
        skipped = turns.flatMap (·.skipped) ∧
        told = turns.map (·.event found.1)) := by
  have hEnd (consumed : Consumption) :=
    (hears_bind (c := c) (s := s) (hears_tell _) fun _ =>
      hears_pure
        (Mesh.ofIndex found.1 found.2 consumed)).narrates
      fun _ => (mute_tell
        (Log.Event.isSubscription_eq (.buildCompleted
          (Mesh.ofIndex found.1 found.2
            consumed).counts))).bind fun _ _ => rfl
  apply (narrates_bind (p.narrates_consumption found.1 ss [])
    hEnd).mono
  rintro answers m skipped told
    ⟨_, _, _, _, _,
      ⟨turns, hTurns, hHeard, hGoesOn, rfl, rfl, rfl⟩,
      ⟨⟨_, _, _, rfl, ⟨rfl, rfl⟩, rfl⟩, rfl⟩, rfl, rfl⟩
  exact ⟨turns, hTurns, hHeard, hGoesOn, rfl, by simp⟩

/- What is collected is told without subscriptions. -/
theorem mute_collect
    (hQuiet : c.Quiet)
    (p : Plan) :
    Mute (p.collect c) := by
  refine (p.mute_providers hQuiet).bind fun x => ?_
  refine (mute_converted hQuiet _ _ _).bind fun es => ?_
  refine (mute_tellAll
    (Index.isSubscription_linkAll _ _)).bind fun _ => ?_
  exact (p.mute_sources hQuiet _).bind fun _ _ => rfl

/-
  A build gives the mesh of what it finds, and tells of each
  subscription in its turn.
-/
theorem narrates_build (p : Plan) :
    Narrates c s (p.build c)
      (fun answers m skipped told => ∃ f : Findings,
        p.Finds answers f ∧ m = f.mesh ∧
          skipped = f.skipped ∧
          told = f.turns.map (·.event f.index)) := by
  rw [build_eq]
  apply (narrates_bind
    (p.hears_collect.narrates p.mute_collect) fun found =>
      narrates_bind
        (hears_subscriptions.narrates mute_subscriptions)
        fun ss => p.narrates_complete found ss).mono
  rintro answers m skipped told
    ⟨⟨x, sources⟩, _, _, _, _, ⟨hCollect, rfl⟩, hRest, rfl,
      rfl⟩
  rcases hCollect with
    ⟨bs, us, es, parts, hBrokers, hSubscribables,
      hEventTypes, rfl, hSources, rfl, rfl⟩
  rcases hRest with
    ⟨ss, _, _, _, _, ⟨⟨hSubscriptions, rfl⟩, rfl⟩,
      hComplete, rfl, rfl⟩
  rcases hComplete with
    ⟨turns, rfl, hHeard, hGoesOn, rfl, rfl, rfl⟩
  refine ⟨⟨bs, us, es, parts, turns⟩, ?_, rfl, rfl, rfl⟩
  exact {
    brokers := hBrokers
    subscribables := hSubscribables
    eventTypes := hEventTypes
    sources := hSources
    subscriptions := hSubscriptions
    heard := hHeard
    goesOn := hGoesOn }

/- A build gives the mesh of what it finds. -/
theorem hears_build (p : Plan) :
    Hears c s (p.build c)
      (fun answers m skipped => ∃ f : Findings,
        p.Finds answers f ∧ m = f.mesh ∧
          skipped = f.skipped) := by
  apply p.narrates_build.hears
  rintro answers m skipped told ⟨f, hFinds, hMesh, hSkips, _⟩
  exact ⟨f, hFinds, hMesh, hSkips⟩

/- A run does nothing to a cluster but ask it. -/
theorem keeps_run
    (p : Plan)
    (c : Cluster σ)
    (s : σ) :
    c.Keeps s (p.run c s).2 :=
  (p.hears_build _ (c.keeps_start s)).1

/-
  Whenever a run gives a mesh, it is the mesh of findings in
  the answers that the run has heard.  Over a quiet cluster
  the turns are all that it has told of subscriptions.
-/
theorem told_of_run
    {p : Plan}
    {m : Mesh}
    {run : Run σ}
    (hRun : p.run c s = (.ok m, run)) :
    ∃ f : Findings,
      p.Finds (c.Heard s run.requests) f ∧ m = f.mesh ∧
        run.skips = f.skipped ∧
        (c.Quiet →
          run.told = f.turns.map (·.event f.index)) := by
  rcases p.narrates_build _ (c.keeps_start s) with
    ⟨-, -, hEnd⟩
  rcases hEnd m run hRun with
    ⟨skipped, told, hSkips, hTold, hFinds⟩
  rcases hFinds _ fun _ _ h => h with
    ⟨f, hFound, hMesh, rfl, rfl⟩
  exact ⟨f, hFound, hMesh, by simpa using hSkips,
    by simpa [Run.told] using hTold⟩

theorem finds_of_run
    {p : Plan}
    {m : Mesh}
    {run : Run σ}
    (hRun : p.run c s = (.ok m, run)) :
    ∃ f : Findings,
      p.Finds (c.Heard s run.requests) f ∧ m = f.mesh ∧
        run.skips = f.skipped := by
  rcases told_of_run hRun with
    ⟨f, hFinds, hMesh, hSkips, _⟩
  exact ⟨f, hFinds, hMesh, hSkips⟩

end Plan

end EventTopology
