import EventTopology.Proofs.Build.Scheduling

/-
  This file says what a build that gives a mesh has listened
  to, reply by reply.  What it heard of in the order of its
  requests was all listed and converted, and the mesh is made
  of just that.

  Key definitions include:
    * `Plan.heardFindings`

  The main results are:
    * `Plan.taken_of_run`
    * `Plan.yields_heardBrokers`
    * `Plan.yields_heardSubscribables`
    * `Plan.yields_heardInstances`
    * `Plan.heard_of_run`
-/

------------------------------------------------------------
-- Steps in Turn
------------------------------------------------------------

namespace EventTopology

namespace Build

variable {α β : Type}

/-
  What elements give in turn relates to them, if it does so
  for each element after the requests of those before it.
-/
theorem forall₂_inTurn
    {R : α → β → Prop}
    {calls : α → List Request}
    {value : List Request → α → β}
    {before : List Request}
    {as : List α}
    (hEach : ∀ early a, a ∈ as → before <+: early →
      early ++ calls a <+: before ++ as.flatMap calls →
      R a (value early a)) :
    List.Forall₂ R as (inTurn calls value before as) := by
  induction as generalizing before with
  | nil => exact List.Forall₂.nil
  | cons a as ih =>
      rw [List.flatMap_cons, ← List.append_assoc] at hEach
      refine List.Forall₂.cons ?_ (ih ?_)
      · exact hEach before a List.mem_cons_self
          List.prefix_rfl (List.prefix_append _ _)
      · intro early a' hMem hEarly hPrefix
        refine hEach early a' (List.mem_cons_of_mem a hMem)
          ?_ hPrefix
        exact (List.prefix_append _ _).trans hEarly

end Build

------------------------------------------------------------
-- Replies That Are Taken
------------------------------------------------------------

namespace Plan

variable {σ α : Type}
variable {p : Plan}
variable {c : Cluster σ} {s : σ}
variable {m : Mesh} {run : Run σ}
variable {before : List Request} {r : Request}

/- A run that gives a mesh asks all that is scheduled. -/
theorem requests_of_run
    (hRun : p.run c s = (.ok m, run)) :
    run.requests = p.schedule c s := by
  have hTraced := p.traced_run c s
  rw [hRun] at hTraced
  exact (hTraced.complete m rfl).1

/- It takes every reply. -/
theorem taken_of_run
    (hRun : p.run c s = (.ok m, run))
    (hPrefix : before ++ [r] <+: p.schedule c s) :
    p.takes before r (c.reply s before r) = .ok () := by
  have hTraced := p.traced_run c s
  rw [hRun] at hTraced
  rw [← requests_of_run hRun] at hPrefix
  cases hTakes : p.takes before r (c.reply s before r) with
  | ok _ => rfl
  | error f =>
      have hStopped := hTraced.stopped before r f
        List.nil_prefix hPrefix hTakes
      cases hStopped.2

/- What is heard of a listing was listed and converted. -/
theorem yields_of_run
    {convert : Json → Except Failure α}
    (hRun : p.run c s = (.ok m, run))
    (hListing : r.isListing = true)
    (hPrefix : before ++ [r] <+: p.schedule c s)
    (hReads : ∀ raws,
      p.reads before raws r = converts convert raws) :
    (c.Heard s run.requests).Yields r convert
      (recordsOf convert (c.reply s before r)) := by
  have hTakes := taken_of_run hRun hPrefix
  unfold takes at hTakes
  rw [if_pos hListing, Except.bind_eq_ok_iff] at hTakes
  rcases hTakes with ⟨raws, hGives, hConverts⟩
  rw [hReads] at hConverts
  unfold converts at hConverts
  rw [Request.gives_eq_ok_iff hListing] at hGives
  cases hEach : raws.mapM convert with
  | error f =>
      rw [hEach] at hConverts
      cases hConverts
  | ok as =>
      rw [recordsOf_eq hGives hEach]
      rw [← requests_of_run hRun] at hPrefix
      exact ⟨raws, ⟨_, ⟨before, hPrefix, rfl⟩, hGives⟩,
        Failure.mapM_eq_ok_iff.mp hEach⟩

end Plan

------------------------------------------------------------
-- What Is Heard in Order
------------------------------------------------------------

namespace Plan

variable {σ : Type}
variable {p : Plan}
variable {c : Cluster σ} {s : σ}
variable {m : Mesh} {run : Run σ}

/- All that is collected is scheduled. -/
theorem collectCalls_prefix (p : Plan) :
    p.collectCalls c s <+: p.schedule c s := by
  unfold schedule listingCalls
  rw [List.append_assoc]
  exact List.prefix_append _ _

/- Providers are collected first. -/
theorem providerCalls_prefix (p : Plan) :
    p.providerCalls c s <+: p.schedule c s :=
  (List.prefix_append _ _).trans p.collectCalls_prefix

theorem yields_heardBrokers
    (hRun : p.run c s = (.ok m, run)) :
    (c.Heard s run.requests).Yields .brokers
      p.conversion.broker (p.heardBrokers c s) :=
  yields_of_run hRun rfl
    (List.IsPrefix.trans ⟨_, rfl⟩ p.providerCalls_prefix)
    fun _ => rfl

theorem kinds_subscribableKinds
    (hRun : p.run c s = (.ok m, run)) :
    (c.Heard s run.requests).Kinds p.subscribableTag
      (p.subscribableKinds c s) :=
  yields_of_run hRun rfl
    (List.IsPrefix.trans ⟨_, rfl⟩ p.providerCalls_prefix)
    fun _ => rfl

/- Subscribables are listed kind by kind. -/
theorem yields_heardSubscribables
    (hRun : p.run c s = (.ok m, run)) :
    List.Forall₂ (fun coords found =>
      (c.Heard s run.requests).Yields (.instances coords)
        (p.conversion.subscribable coords) found)
      (p.subscribableKinds c s)
      (p.heardSubscribables c s) := by
  refine Build.forall₂_inTurn ?_
  intro early coords _ _ hPrefix
  rw [← List.map_eq_flatMap] at hPrefix
  have hCalls :
      early ++ [.instances coords] <+: p.providerCalls c s :=
    hPrefix
  refine yields_of_run hRun rfl
    (hCalls.trans p.providerCalls_prefix) fun raws => ?_
  have hBefore : .eventTypes ∉ early := by
    intro hMem
    have hAsked :=
      hCalls.subset (List.mem_append_left _ hMem)
    simp [providerCalls] at hAsked
  rw [reads, if_neg hBefore]

theorem yields_heardEventTypes
    (hRun : p.run c s = (.ok m, run)) :
    (c.Heard s run.requests).Yields .eventTypes
      p.conversion.eventType (p.heardEventTypes c s) := by
  refine yields_of_run hRun rfl ?_ fun _ => rfl
  refine List.IsPrefix.trans ?_ p.collectCalls_prefix
  exact (List.prefix_append_right_inj _).mpr ⟨_, rfl⟩

theorem kinds_sourceKinds
    (hRun : p.run c s = (.ok m, run)) :
    (c.Heard s run.requests).Kinds p.sourceTag
      (p.sourceKinds c s) := by
  refine yields_of_run hRun rfl ?_ fun _ => rfl
  rw [List.append_assoc]
  refine List.IsPrefix.trans ?_ p.collectCalls_prefix
  exact (List.prefix_append_right_inj _).mpr ⟨_, rfl⟩

/- A readable kind declares what it is read with. -/
theorem declaredTypes_of_mem_readable
    {kinds : List KindCoordinates}
    {kind : KindCoordinates × List String}
    (hMem : kind ∈ p.readable kinds) :
    p.conversion.declaredTypes kind.1 = .ok kind.2 := by
  rcases List.mem_filterMap.mp hMem with ⟨coords, _, hSome⟩
  cases hDeclared : p.conversion.declaredTypes coords with
  | error f =>
      rw [hDeclared] at hSome
      cases hSome
  | ok declared =>
      rw [hDeclared] at hSome
      cases hSome
      exact hDeclared

/- Readable kinds are those that are not skipped. -/
theorem map_fst_readable (kinds : List KindCoordinates) :
    (p.readable kinds).map (·.1) =
      kinds.filter p.declares := by
  induction kinds with
  | nil => rfl
  | cons coords kinds ih =>
      rw [readable_cons, List.filter_cons, ← ih, declares]
      cases p.conversion.declaredTypes coords <;> rfl

/- Sources are listed kind by kind, as they are readable. -/
theorem yields_heardInstances
    (hRun : p.run c s = (.ok m, run)) :
    List.Forall₂ (fun kind found =>
      (c.Heard s run.requests).Yields (.instances kind.1)
        (p.conversion.source kind.1 (.ofTexts kind.2)) found)
      (p.readable (p.sourceKinds c s))
      (p.heardInstances c s) := by
  refine Build.forall₂_inTurn ?_
  intro early kind hMem hEarly hPrefix
  have hBefore : .eventTypes ∈ early :=
    hEarly.subset (by simp)
  have hCalls :
      (p.readable (p.sourceKinds c s)).flatMap
          (fun kind => [Request.instances kind.1]) =
        ((p.sourceKinds c s).filter p.declares).map
          .instances := by
    rw [← List.map_eq_flatMap, ← map_fst_readable,
      List.map_map]
    rfl
  rw [hCalls, List.append_assoc] at hPrefix
  refine yields_of_run hRun rfl
    (List.IsPrefix.trans hPrefix p.collectCalls_prefix)
    fun raws => ?_
  rw [reads, if_pos hBefore,
    declaredTypes_of_mem_readable hMem]
  rfl

end Plan

------------------------------------------------------------
-- Meshes of What Is Heard
------------------------------------------------------------

namespace Plan

open Build

variable {σ : Type}

/- The findings in what is heard, when turns are over. -/
def heardFindings
    (p : Plan)
    (c : Cluster σ)
    (s : σ)
    (turns : List Turn) : Findings where
  brokers := p.heardBrokers c s
  subscribables := (p.heardSubscribables c s).flatten
  eventTypes := p.heardEventTypes c s
  sources := (p.heardInstances c s).map fun found =>
    some (found.map (p.heardIndex c s).matched)
  turns := turns

/- The sources of these findings are all that is heard of. -/
theorem sources_mesh_heardFindings
    (p : Plan)
    (c : Cluster σ)
    (s : σ)
    (turns : List Turn) :
    (p.heardFindings c s turns).mesh.sources =
      (p.heardInstances c s).flatten.map
        (p.heardIndex c s).matched := by
  change ((p.heardInstances c s).map _).flatMap _ = _
  rw [List.flatMap_map, List.map_flatten,
    List.flatMap_def]
  rfl

variable {p : Plan}
variable {c : Cluster σ} {s : σ}
variable {m : Mesh} {run : Run σ}

/-
  A run that gives a mesh gives that of what it has heard, in
  the order in which it asked.
-/
theorem heard_of_run
    (hRun : p.run c s = (.ok m, run)) :
    ∃ turns,
      m = (p.heardFindings c s turns).mesh ∧
      turns.map (·.subscription) =
        p.heardSubscriptions c s := by
  have hGathered := p.follows_gather _ (c.keeps_start s) rfl
  change exec (p.build c) _ = _ at hRun
  rw [build_eq_gather, exec_bind] at hRun
  rcases hGather : exec (p.gather c) ⟨s, [], [], []⟩
    with ⟨e | ⟨⟨x, sources⟩, ss⟩, next⟩ <;>
    rw [hGather] at hRun hGathered
  case error => cases hRun
  case ok =>
    rcases (hGathered.complete _ rfl).2 with
      ⟨hIndex, hSources, hSubscriptions⟩
    rcases p.narrates_complete (c := c) (s := s) (x, sources)
        ss next hGathered.keeps with
      ⟨_, _, hEnd⟩
    rcases hEnd m run hRun with ⟨_, _, _, _, hCompleted⟩
    rcases hCompleted _ fun _ _ hHeard => hHeard with
      ⟨turns, hTurns, _, _, hMesh, _, _⟩
    refine ⟨turns, ?_, hTurns.trans hSubscriptions⟩
    rw [← sources_mesh_heardFindings p c s turns] at hSources
    dsimp only at hMesh hIndex hSources
    rw [hMesh, hIndex, hSources]
    rfl

end Plan

end EventTopology
