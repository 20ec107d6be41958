import EventTopology.Proofs.Build.Contents
import EventTopology.Proofs.Build.Skipping
import EventTopology.Proofs.Build.Tracing

/-
  This file shows that a build keeps to a schedule.  It asks
  for providers first, then for event types, then sources,
  then subscriptions, and for identities last.  What is asked
  in each phase is known from the replies to those before it,
  and so is what the build makes of them.

  Key definitions include:
    * `Plan.heardBrokers`
    * `Plan.heardSubscribables`
    * `Plan.heardEventTypes`
    * `Plan.heardInstances`
    * `Plan.heardSubscriptions`
    * `Plan.schedule`

  The main results are:
    * `Plan.follows_gather`
    * `Plan.follows_complete`
    * `Plan.follows_build`
    * `Plan.traced_run`
-/

------------------------------------------------------------
-- Schedules
------------------------------------------------------------

namespace EventTopology

namespace Plan

variable {σ : Type}

/- The subscribable kinds, as they are discovered. -/
def subscribableKinds
    (p : Plan)
    (c : Cluster σ)
    (s : σ) : List KindCoordinates :=
  recordsOf Definition.coordinates
    (c.reply s [.brokers] (.definitions p.subscribableTag))

/- The requests for providers. -/
def providerCalls
    (p : Plan)
    (c : Cluster σ)
    (s : σ) : List Request :=
  .brokers :: .definitions p.subscribableTag ::
    (p.subscribableKinds c s).map .instances

/- The source kinds, as they are discovered. -/
def sourceKinds
    (p : Plan)
    (c : Cluster σ)
    (s : σ) : List KindCoordinates :=
  recordsOf Definition.coordinates
    (c.reply s (p.providerCalls c s ++ [.eventTypes])
      (.definitions p.sourceTag))

/-
  The requests for providers, event types and sources.  Of
  the source kinds those are asked for whose declarations can
  be read.
-/
def collectCalls
    (p : Plan)
    (c : Cluster σ)
    (s : σ) : List Request :=
  p.providerCalls c s ++ .eventTypes ::
    .definitions p.sourceTag ::
      ((p.sourceKinds c s).filter p.declares).map .instances

/- All requests for listings. -/
def listingCalls
    (p : Plan)
    (c : Cluster σ)
    (s : σ) : List Request :=
  p.collectCalls c s ++ [.triggers, .subscriptions]

/- The brokers that the first reply is read as. -/
def heardBrokers
    (p : Plan)
    (c : Cluster σ)
    (s : σ) : List Broker :=
  recordsOf p.conversion.broker (c.reply s [] .brokers)

/- The subscribables that are heard of, for each kind. -/
def heardSubscribables
    (p : Plan)
    (c : Cluster σ)
    (s : σ) : List (List Subscribable) :=
  Build.inTurn (fun coords => [.instances coords])
    (fun before coords =>
      recordsOf (p.conversion.subscribable coords)
        (c.reply s before (.instances coords)))
    [.brokers, .definitions p.subscribableTag]
    (p.subscribableKinds c s)

/- The event types that are heard of. -/
def heardEventTypes
    (p : Plan)
    (c : Cluster σ)
    (s : σ) : List EventType :=
  recordsOf p.conversion.eventType
    (c.reply s (p.providerCalls c s) .eventTypes)

/- The index of the providers and event types heard of. -/
def heardIndex
    (p : Plan)
    (c : Cluster σ)
    (s : σ) : Index :=
  (Findings.listed (p.heardBrokers c s)
    (p.heardSubscribables c s).flatten
    (p.heardEventTypes c s)).index

/-
  The kinds whose declarations can be read, with the types
  that they declare.
-/
def readable
    (p : Plan)
    (kinds : List KindCoordinates) :
    List (KindCoordinates × List String) :=
  kinds.filterMap fun coords =>
    match p.conversion.declaredTypes coords with
    | .error _ => none
    | .ok declared => some (coords, declared)

/- The sources that the instances of a kind are read as. -/
def instancesRead
    (p : Plan)
    (c : Cluster σ)
    (s : σ)
    (before : List Request)
    (kind : KindCoordinates × List String) : List Source :=
  recordsOf (p.conversion.source kind.1 (.ofTexts kind.2))
    (c.reply s before (.instances kind.1))

/- The sources that are heard of, for each readable kind. -/
def heardInstances
    (p : Plan)
    (c : Cluster σ)
    (s : σ) : List (List Source) :=
  Build.inTurn (fun kind => [.instances kind.1])
    (p.instancesRead c s)
    (p.providerCalls c s ++
      [.eventTypes, .definitions p.sourceTag])
    (p.readable (p.sourceKinds c s))

/- The keys of the providers that are heard of. -/
def heardKeys
    (p : Plan)
    (c : Cluster σ)
    (s : σ) : List String :=
  (p.heardBrokers c s).map (·.key) ++
    (p.heardSubscribables c s).flatten.map (·.key)

/- The triggers, then the channel subscriptions. -/
def heardSubscriptions
    (p : Plan)
    (c : Cluster σ)
    (s : σ) : List Subscription :=
  recordsOf Conversion.trigger
      (c.reply s (p.collectCalls c s) .triggers) ++
    recordsOf Conversion.channelSubscription
      (c.reply s (p.collectCalls c s ++ [.triggers])
        .subscriptions)

/-
  The lookup that a subscription needs, if any.  It has a
  subscriber then, and targets a known provider.
-/
def lookupFor
    (p : Plan)
    (keys : List String)
    (u : Subscription) : Option Request :=
  match u.target, u.subscriber with
  | some target, some ref =>
      if target ∈ keys then
        some (.identity ref p.identityLabel)
      else none
  | _, _ => none

/- All that a build asks when nothing stops it, in order. -/
def schedule
    (p : Plan)
    (c : Cluster σ)
    (s : σ) : List Request :=
  p.listingCalls c s ++
    (p.heardSubscriptions c s).filterMap
      (p.lookupFor (p.heardKeys c s))

end Plan

------------------------------------------------------------
-- Providers
------------------------------------------------------------

namespace Index

/- A key is kept if it is claimed and was free. -/
theorem mem_map_unclaimed_iff
    {α : Type}
    {key : α → String}
    {taken : List String}
    {as : List α}
    {k : String} :
    k ∈ (unclaimed key taken as).map key ↔
      k ∈ as.map key ∧ k ∉ taken := by
  induction as generalizing taken with
  | nil => simp [unclaimed]
  | cons a as ih =>
      by_cases hTaken : key a ∈ taken
      · rw [unclaimed, if_pos hTaken, ih, List.map_cons,
          List.mem_cons]
        grind
      · rw [unclaimed, if_neg hTaken, List.map_cons,
          List.map_cons, List.mem_cons, List.mem_cons, ih]
        grind

end Index

/- A provider is known by the keys of all that are found. -/
theorem Findings.hasProvider_index_iff
    (f : Findings)
    (key : String) :
    f.index.hasProvider key = true ↔
      key ∈ f.brokers.map (·.key) ++
        f.subscribables.map (·.key) := by
  unfold Index.hasProvider Index.providerKeys
  rw [decide_eq_true_iff, f.index_subscribables,
    f.index_brokers, List.mem_append, List.mem_append,
    Index.mem_map_unclaimed_iff,
    Index.mem_map_unclaimed_iff,
    Index.mem_map_unclaimed_iff]
  by_cases hBroker : key ∈ f.brokers.map (·.key)
  · simp [hBroker]
  · simp [hBroker]

namespace Plan

open Build

variable {σ : Type}
variable {p : Plan}
variable {c : Cluster σ} {s : σ}

/- Instances are subscribables before event types come. -/
theorem follows_subscribablesOf
    {before : List Request}
    (hBefore : .eventTypes ∉ before)
    (coords : KindCoordinates) :
    Follows p c s before (p.subscribablesOf c coords)
      [.instances coords]
      (· = recordsOf (p.conversion.subscribable coords)
        (c.reply s before (.instances coords))) := by
  refine follows_converted (fun _ => rfl) fun raws => ?_
  rw [reads, if_neg hBefore]

theorem follows_subscribables (p : Plan) :
    Follows p c s [.brokers] (p.subscribables c)
      (.definitions p.subscribableTag ::
        (p.subscribableKinds c s).map .instances)
      (· = (p.heardSubscribables c s).flatten) := by
  rw [List.map_eq_flatMap]
  refine follows_bind
    (Discovery.follows_discover p.subscribableTag) ?_
  rintro _ rfl
  refine (follows_mapM (Q := (.eventTypes ∉ ·))
    (fun before coords hBefore =>
      follows_subscribablesOf hBefore coords)
    ?_ (by simp) _).map ?_
  · intro before coords hBefore
    simpa using hBefore
  · rintro _ rfl
    rfl

theorem follows_providers (p : Plan) :
    Follows p c s [] (p.providers c) (p.providerCalls c s)
      (· = (p.heardSubscribables c s).flatten.foldl
        Index.addSubscribable
        ((p.heardBrokers c s).foldl Index.addBroker {})) := by
  have hBrokers : Follows p c s [] (p.brokers c) [.brokers]
      (· = p.heardBrokers c s) :=
    follows_converted (fun _ => rfl) fun _ => rfl
  refine follows_bind hBrokers ?_
  rintro _ rfl
  refine p.follows_subscribables.map ?_
  rintro _ rfl
  rfl

end Plan

------------------------------------------------------------
-- Sources
------------------------------------------------------------

namespace Plan

open Build

variable {σ : Type}
variable {p : Plan}
variable {c : Cluster σ} {s : σ}

/- The requests for the instances of one source kind. -/
def sourceCalls
    (p : Plan)
    (coords : KindCoordinates) : List Request :=
  if p.declares coords then [.instances coords] else []

/- The sources of a kind, which may be skipped. -/
def sourcesRead
    (p : Plan)
    (c : Cluster σ)
    (s : σ)
    (x : Index)
    (before : List Request)
    (coords : KindCoordinates) : List Source :=
  match p.conversion.declaredTypes coords with
  | .error _ => []
  | .ok declared =>
      (p.instancesRead c s before (coords, declared)).map
        x.matched

/- Instances are sources after event types have come. -/
theorem follows_sourcesOfKind
    {before : List Request}
    (x : Index)
    (hBefore : .eventTypes ∈ before)
    (coords : KindCoordinates) :
    Follows p c s before (p.sourcesOfKind c x coords)
      (p.sourceCalls coords)
      (· = p.sourcesRead c s x before coords) := by
  unfold sourcesOfKind sourceCalls sourcesRead declares
  cases hDeclared : p.conversion.declaredTypes coords with
  | error f =>
      refine follows_bind (follows_tell _) fun _ _ => ?_
      refine follows_bind (follows_skip _) fun _ _ => ?_
      exact follows_pure []
  | ok declared =>
      change Follows p c s before
        (p.sourcesOf c x coords declared) _ _
      unfold sourcesOf
      rw [← bind_assoc]
      refine (follows_converted (fun _ => rfl)
        fun raws => ?_).map ?_
      · rw [reads, if_pos hBefore, hDeclared]
        rfl
      · rintro _ rfl
        rfl

/- All kinds together ask for those that are not skipped. -/
theorem flatMap_sourceCalls
    (p : Plan)
    (kinds : List KindCoordinates) :
    kinds.flatMap p.sourceCalls =
      (kinds.filter p.declares).map .instances := by
  induction kinds with
  | nil => rfl
  | cons coords kinds ih =>
      rw [List.flatMap_cons, ih, sourceCalls,
        List.filter_cons]
      split <;> rfl

/- A kind is readable with the types that it declares. -/
theorem readable_cons
    (coords : KindCoordinates)
    (kinds : List KindCoordinates) :
    p.readable (coords :: kinds) =
      match p.conversion.declaredTypes coords with
      | .error _ => p.readable kinds
      | .ok declared =>
          (coords, declared) :: p.readable kinds := by
  rw [readable, List.filterMap_cons]
  cases p.conversion.declaredTypes coords <;> rfl

/- They give what those do that can be read. -/
theorem flatten_sourcesRead
    (x : Index)
    (before : List Request)
    (kinds : List KindCoordinates) :
    (inTurn p.sourceCalls (p.sourcesRead c s x) before
        kinds).flatten =
      (inTurn (fun kind => [.instances kind.1])
        (p.instancesRead c s) before
        (p.readable kinds)).flatten.map x.matched := by
  induction kinds generalizing before with
  | nil => rfl
  | cons coords kinds ih =>
      rw [inTurn, List.flatten_cons, ih, readable_cons,
        sourcesRead]
      cases hDeclared : p.conversion.declaredTypes coords with
      | error f =>
          have hCalls : p.sourceCalls coords = [] := by
            unfold sourceCalls declares
            rw [hDeclared]
            rfl
          rw [hCalls, List.append_nil, List.nil_append]
      | ok declared =>
          have hCalls : p.sourceCalls coords =
              [.instances coords] := by
            unfold sourceCalls declares
            rw [hDeclared]
            rfl
          rw [hCalls, inTurn, List.flatten_cons,
            List.map_append]

theorem follows_sources
    (p : Plan)
    (x : Index) :
    Follows p c s (p.providerCalls c s ++ [.eventTypes])
      (p.sources c x)
      (.definitions p.sourceTag ::
        ((p.sourceKinds c s).filter p.declares).map
          .instances)
      (· = (p.heardInstances c s).flatten.map x.matched) := by
  rw [← flatMap_sourceCalls]
  refine follows_bind
    (Discovery.follows_discover p.sourceTag) ?_
  rintro _ rfl
  refine (follows_mapM (Q := (.eventTypes ∈ ·))
    (fun before coords hBefore =>
      follows_sourcesOfKind x hBefore coords)
    ?_ (by simp) _).map ?_
  · intro before coords hBefore
    exact List.mem_append_left _ hBefore
  · rintro _ rfl
    rw [flatten_sourcesRead, List.append_assoc]
    rfl

end Plan

------------------------------------------------------------
-- Collecting and Listing
------------------------------------------------------------

namespace Plan

open Build

variable {σ : Type}
variable {c : Cluster σ} {s : σ}

/- What is collected is what is heard of. -/
theorem follows_collect (p : Plan) :
    Follows p c s [] (p.collect c) (p.collectCalls c s)
      (· =
        (p.heardIndex c s,
          (p.heardInstances c s).flatten.map
            (p.heardIndex c s).matched)) := by
  refine follows_bind p.follows_providers ?_
  rintro _ rfl
  have hEventTypes :
      Follows p c s (p.providerCalls c s) (p.eventTypes c)
        [.eventTypes] (· = p.heardEventTypes c s) :=
    follows_converted (fun _ => rfl) fun _ => rfl
  refine follows_cons hEventTypes ?_
  rintro _ rfl
  refine follows_silent (follows_tellAll _) fun _ _ => ?_
  refine (p.follows_sources _).map ?_
  rintro _ rfl
  rfl

/- The index knows the providers that are heard of. -/
theorem hasProvider_heardIndex_iff
    (p : Plan)
    (c : Cluster σ)
    (s : σ)
    (key : String) :
    (p.heardIndex c s).hasProvider key = true ↔
      key ∈ p.heardKeys c s :=
  Findings.hasProvider_index_iff _ key

/- All that is listed, before any subscriber is looked up. -/
def gather
    (p : Plan)
    (c : Cluster σ) :
    Build σ ((Index × List Source) × List Subscription) := do
  let found ← p.collect c
  let ss ← subscriptions c
  return (found, ss)

/- A build lists everything, and then it looks up. -/
theorem build_eq_gather
    (p : Plan)
    (c : Cluster σ) :
    p.build c =
      (do
        let z ← p.gather c
        p.complete c z.1 z.2) := by
  simp only [build_eq, gather, bind_assoc, pure_bind]

theorem follows_gather (p : Plan) :
    Follows p c s [] (p.gather c) (p.listingCalls c s)
      (fun z =>
        z.1.1 = p.heardIndex c s ∧
        z.1.2 = (p.heardInstances c s).flatten.map
          (p.heardIndex c s).matched ∧
        z.2 = p.heardSubscriptions c s) := by
  refine follows_bind p.follows_collect ?_
  rintro _ rfl
  refine Follows.map
    (P := (· = p.heardSubscriptions c s)) ?_
    fun ss hSame => ⟨rfl, rfl, hSame⟩
  unfold subscriptions
  rw [← bind_assoc]
  refine follows_cons
    (follows_converted (fun _ => rfl) fun _ => rfl) ?_
  rintro _ rfl
  rw [← bind_assoc]
  refine (follows_converted (fun _ => rfl)
    fun _ => rfl).map ?_
  rintro _ rfl
  rfl

end Plan

------------------------------------------------------------
-- Lookups
------------------------------------------------------------

namespace Plan

open Build
open Consumption (settle process)

variable {σ : Type}
variable {p : Plan}
variable {c : Cluster σ} {s : σ}

/- A lookup is what a subscription has to be settled by. -/
theorem lookupFor_eq
    {x : Index}
    {keys : List String}
    (hKeys : ∀ key, x.hasProvider key = true ↔ key ∈ keys)
    (u : Subscription) :
    p.lookupFor keys u =
      (settle x u).getRight?.map fun found =>
        .identity found.2 p.identityLabel := by
  unfold lookupFor settle
  cases u.target with
  | none => rfl
  | some target =>
      by_cases hKnown : target ∈ keys
      · have hHas := (hKeys target).mpr hKnown
        cases u.subscriber <;> simp [hHas, hKnown]
      · have hHas : ¬ x.hasProvider target = true :=
          fun hHas => hKnown ((hKeys target).mp hHas)
        cases u.subscriber <;> simp [hHas, hKnown]

/- Only a failure that is no cluster's is fatal at a lookup. -/
theorem of_fatal?_identity
    {ref : ObjectReference}
    {label : String}
    {o : Except Failure Json}
    {f : Failure}
    (hFatal : (Request.identity ref label).fatal? o = some f) :
    o = .error f ∧ ∀ cause, f ≠ .cluster cause := by
  rcases o with e | v
  · rcases e with (m | ⟨m, status⟩) | _
    case cluster.notFound | cluster.failed => cases hFatal
    all_goals
      cases hFatal
      exact ⟨rfl, fun _ => nofun⟩
  · cases hFatal

/- A subscription takes one lookup, or none at all. -/
theorem follows_process
    {before : List Request}
    (p : Plan)
    (x : Index)
    (known : Consumption)
    (u : Subscription) :
    Follows p c s before (process c p.identityLabel x known u)
      ((settle x u).getRight?.map fun found =>
        Request.identity found.2 p.identityLabel).toList
      (fun _ => True) := by
  unfold process
  rw [Consumption.outcome_eq]
  cases hSettle : settle x u with
  | inl o =>
      refine follows_silent (follows_pure o)
        fun o' hSame => ?_
      rw [hSame]
      refine follows_silent (follows_tell _) fun _ _ => ?_
      cases o with
      | resolved v ids =>
          exact (Consumption.settle_ne_resolved hSettle).elim
      | _ =>
          exact follows_of_asksNothing (fun _ => ⟨rfl, rfl⟩)
            (fun _ _ => nofun) fun _ _ _ => trivial
  | inr found =>
      rcases found with ⟨target, ref⟩
      have hHears := Consumption.hear_cases (σ := σ) x u
        target ref
        (c.reply s before (.identity ref p.identityLabel))
      dsimp only
      rw [bind_assoc]
      refine follows_attempt ?_ ?_ nofun fun _ _ _ => trivial
      · refine AsksNothing.bind ?_ fun o => ?_
        · rcases hHears with
            ⟨told, hHear, _⟩ | ⟨f, _, _, hHear⟩
          · rw [hHear]
            exact fun _ => ⟨rfl, rfl⟩
          · rw [hHear]
            exact fun _ => ⟨rfl, rfl⟩
        · refine AsksNothing.bind (fun _ => ⟨rfl, rfl⟩)
            fun _ => ?_
          cases o <;> exact fun _ => ⟨rfl, rfl⟩
      · intro run f hTakes
        rcases of_fatal?_identity (fatal_of_takes rfl hTakes)
          with ⟨hError, hOther⟩
        rcases hHears with
          ⟨_, _, hCluster, _⟩ | ⟨f', hReply, _, hHear⟩
        · rcases hCluster f hError with ⟨cause, hCause⟩
          exact (hOther cause hCause).elim
        · rw [hHear]
          rw [hReply] at hError
          cases hError
          rfl

/- Subscribers are looked up one by one, and nothing else. -/
theorem follows_complete
    {before : List Request}
    {keys : List String}
    {found : Index × List Source}
    (hKeys : ∀ key,
      found.1.hasProvider key = true ↔ key ∈ keys)
    (ss : List Subscription) :
    Follows p c s before (p.complete c found ss)
      (ss.filterMap (p.lookupFor keys))
      (fun _ => True) := by
  have hCalls : ss.filterMap (p.lookupFor keys) =
      ss.flatMap (fun u =>
        ((settle found.1 u).getRight?.map fun z =>
          Request.identity z.2 p.identityLabel).toList) := by
    rw [List.filterMap_eq_flatMap_toList]
    exact List.flatMap_congr fun u _ => by
      rw [lookupFor_eq hKeys u]
  rw [hCalls]
  refine (follows_foldlM (fun before known u =>
    p.follows_process found.1 known u) before ss
      []).bind_silent fun consumed _ => ?_
  exact follows_of_asksNothing (fun _ => ⟨rfl, rfl⟩)
    (fun _ _ => nofun) fun _ _ _ => trivial

/- A build asks what is scheduled. -/
theorem follows_build (p : Plan) :
    Follows p c s [] (p.build c) (p.schedule c s)
      (fun _ => True) := by
  rw [build_eq_gather]
  refine follows_bind p.follows_gather ?_
  rintro ⟨⟨_, _⟩, _⟩ ⟨rfl, rfl, rfl⟩
  exact follows_complete
    (p.hasProvider_heardIndex_iff c s) _

/- So does every run. -/
theorem traced_run
    (p : Plan)
    (c : Cluster σ)
    (s : σ) :
    Traced p c s [] (p.schedule c s) (fun _ => True)
      (p.run c s).1 (p.run c s).2 :=
  p.follows_build _ (c.keeps_start s) rfl

end Plan

end EventTopology
