import EventTopology.Proofs.Build.Steps

/-
  This file is about what a cluster always answers alike.  A
  build that can find something in such answers does give
  the mesh of it.  Steady clusters answer everything alike,
  so for them meshes and findings are one.

  Key definitions include:
    * `Replies`
    * `Cluster.Steady`
    * `Cluster.Always`
    * `Build.Gives`
    * `Shop.replies`

  The main results are:
    * `Plan.finds_of_steady_run`
    * `Plan.run_of_finds`
-/

------------------------------------------------------------
-- Steady Clusters
------------------------------------------------------------

namespace EventTopology

/- The one outcome of each request. -/
abbrev Replies := Request → Except Failure Json

/- Replies are the answers that are given. -/
def Replies.answers (replies : Replies) : Answers :=
  fun r o => o = replies r

namespace Cluster

variable {σ : Type}

/-
  From a state on, a cluster gives the same replies whatever
  it was asked before.
-/
def Steady
    (c : Cluster σ)
    (s : σ)
    (replies : Replies) : Prop :=
  ∀ rs r, (c.answer r (c.after s rs)).outcome = replies r

/- A table of answers is steady. -/
theorem steady_ofTable (table : Replies) :
    (ofTable table).Steady () table :=
  fun _ _ => rfl

/- What a cluster answers, whatever it was asked before. -/
def Always (c : Cluster σ) (s : σ) : Answers :=
  fun r o => ∀ rs, (c.answer r (c.after s rs)).outcome = o

/- A steady cluster always answers with its replies. -/
theorem Steady.always_eq
    {c : Cluster σ}
    {s : σ}
    {replies : Replies}
    (hSteady : c.Steady s replies) :
    c.Always s = replies.answers := by
  funext r o
  apply propext
  constructor
  · intro hAlways
    exact (hAlways []).symm.trans (hSteady [] r)
  · intro hReply rs
    exact (hSteady rs r).trans hReply.symm

/- Only the replies of a steady cluster are heard. -/
theorem Steady.answers_of_heard
    {c : Cluster σ}
    {s : σ}
    {replies : Replies}
    {rs : List Request}
    {r : Request}
    {o : Except Failure Json}
    (hSteady : c.Steady s replies)
    (hHeard : c.Heard s rs r o) :
    replies.answers r o := by
  rcases hHeard with ⟨before, _, hOutcome⟩
  exact hOutcome.trans (hSteady before r)

end Cluster

------------------------------------------------------------
-- What Steps Give
------------------------------------------------------------

namespace Build

variable {σ α β : Type}

/- A step succeeds with a value and notes what it skips. -/
def Gives
    (c : Cluster σ)
    (s : σ)
    (b : Build σ α)
    (a : α)
    (skipped : List SkipReason) : Prop :=
  ∀ run, c.Keeps s run →
    ∃ run', exec b run = (.ok a, run') ∧
      c.Keeps s run' ∧ run'.skips = run.skips ++ skipped

variable {c : Cluster σ} {s : σ}

theorem gives_pure (a : α) :
    Gives c s (pure a) a [] :=
  fun run hKeeps => ⟨run, rfl, hKeeps, by simp⟩

theorem gives_ofExcept
    {e : Except Failure α}
    {a : α}
    (hOk : e = .ok a) :
    Gives c s (ofExcept e) a [] := by
  intro run hKeeps
  subst hOk
  exact ⟨run, rfl, hKeeps, by simp⟩

theorem gives_tell (e : Log.Event) :
    Gives c s (tell e) () [] :=
  fun _ hKeeps => ⟨_, rfl, hKeeps, by simp⟩

theorem gives_tellAll (es : List Log.Event) :
    Gives c s (tellAll es) () [] :=
  fun _ hKeeps => ⟨_, rfl, hKeeps, by simp⟩

theorem gives_skip (r : SkipReason) :
    Gives c s (skip r) () [r] :=
  fun _ hKeeps => ⟨_, rfl, hKeeps, rfl⟩

/- What is always answered is the answer now. -/
theorem gives_attempt
    {r : Request}
    {o : Except Failure Json}
    (hAlways : c.Always s r o) :
    Gives c s (attempt c r) o [] := by
  intro run hKeeps
  have hState : run.state = c.after s run.requests := hKeeps
  have hReply : (c.answer r run.state).outcome = o := by
    rw [hState]
    exact hAlways run.requests
  refine ⟨(exec (attempt c r) run).2, ?_, ?_, ?_⟩
  · rw [← hReply]
    rfl
  · exact hKeeps.attempt r
  · simp

theorem gives_bind
    {b : Build σ α}
    {f : α → Build σ β}
    {a : α}
    {z : β}
    {early late : List SkipReason}
    (hFirst : Gives c s b a early)
    (hRest : Gives c s (f a) z late) :
    Gives c s (b >>= f) z (early ++ late) := by
  intro run hKeeps
  rcases hFirst run hKeeps with
    ⟨run', hExec, hKept, hEarly⟩
  rcases hRest run' hKept with
    ⟨run'', hExec', hKept', hLate⟩
  refine ⟨run'', ?_, hKept', ?_⟩
  · rw [exec_bind, hExec]
    exact hExec'
  · rw [hLate, hEarly, List.append_assoc]

/- What skips nothing leaves the notes to what follows. -/
theorem gives_quiet_bind
    {b : Build σ α}
    {f : α → Build σ β}
    {a : α}
    {z : β}
    {skipped : List SkipReason}
    (hFirst : Gives c s b a [])
    (hRest : Gives c s (f a) z skipped) :
    Gives c s (b >>= f) z skipped :=
  gives_bind hFirst hRest

theorem gives_map
    {b : Build σ α}
    {a : α}
    {skipped : List SkipReason}
    (hGives : Gives c s b a skipped)
    (g : α → β) :
    Gives c s (do return g (← b)) (g a) skipped := by
  have hRest : Gives c s (pure (g a)) (g a) [] :=
    gives_pure (g a)
  rw [← List.append_nil skipped]
  exact gives_bind hGives hRest

theorem gives_mapM
    {f : α → Build σ β}
    {as : List α}
    {parts : List (β × List SkipReason)}
    (hEach : List.Forall₂ (fun a part =>
      Gives c s (f a) part.1 part.2) as parts) :
    Gives c s (as.mapM f) (parts.map (·.1))
      (parts.flatMap (·.2)) := by
  induction hEach with
  | nil =>
      rw [List.mapM_nil]
      exact gives_pure []
  | @cons a part as parts hPart _ ih =>
      rw [List.mapM_cons, List.map_cons, List.flatMap_cons]
      exact gives_bind hPart (gives_map ih (part.1 :: ·))

/- A listing is had where the reply lists resources. -/
theorem gives_list
    {r : Request}
    {raws : List Json}
    (hLists : (c.Always s).Lists r raws)
    (name : String) :
    Gives c s (list c name r) raws [] := by
  rcases hLists with ⟨o, hReply, hListed⟩
  refine gives_quiet_bind (gives_attempt hReply) ?_
  rcases o with e | v
  · rcases e with (m | ⟨m, status⟩) | _
    case cluster.notFound =>
      cases hListed
      exact gives_quiet_bind (gives_tell _) (gives_pure [])
    all_goals cases hListed
  · apply gives_ofExcept
    have hElements : v.elements? = some raws := hListed
    unfold Json.iterate
    rw [hElements]
    rfl

end Build

namespace Plan

open Build

variable {σ α : Type}
variable {c : Cluster σ} {s : σ}

theorem gives_converted
    {r : Request}
    {convert : Json → Except Failure α}
    {as : List α}
    (hYields : (c.Always s).Yields r convert as)
    (name : String) :
    Gives c s
      (do convertAll convert (← Build.list c name r))
      as [] := by
  rcases hYields with ⟨raws, hLists, hConverted⟩
  exact gives_quiet_bind (gives_list hLists name)
    (gives_ofExcept (Failure.mapM_eq_ok_iff.mpr hConverted))

theorem gives_converted_bind
    {β : Type}
    {r : Request}
    {convert : Json → Except Failure α}
    {as : List α}
    {f : List α → Build σ β}
    {z : β}
    {skipped : List SkipReason}
    (hYields : (c.Always s).Yields r convert as)
    (name : String)
    (hRest : Gives c s (f as) z skipped) :
    Gives c s
      (do
        let raws ← Build.list c name r
        let as ← convertAll convert raws
        f as)
      z skipped := by
  rcases hYields with ⟨raws, hLists, hConverted⟩
  refine gives_quiet_bind (gives_list hLists name) ?_
  exact gives_quiet_bind (gives_ofExcept
    (Failure.mapM_eq_ok_iff.mpr hConverted)) hRest

theorem coordinates_of_forall
    {v : Json}
    {raws : List Json}
    {kinds : List KindCoordinates}
    (hElements : v.elements? = some raws)
    (hEach : List.Forall₂ (fun raw coords =>
      Definition.coordinates raw = .ok coords)
      raws kinds) :
    Discovery.coordinates v = .ok kinds := by
  unfold Discovery.coordinates
  rw [Except.bind_eq_ok_iff]
  refine ⟨raws, ?_, Failure.mapM_eq_ok_iff.mpr hEach⟩
  change Failure.ofShape v.iterate = .ok raws
  unfold Json.iterate
  rw [hElements]
  rfl

theorem gives_discover
    {tag : String}
    {kinds : List KindCoordinates}
    (hKinds : (c.Always s).Kinds tag kinds) :
    Gives c s (Discovery.discover c tag) kinds [] := by
  rcases hKinds with ⟨raws, ⟨o, hReply, hListed⟩, hEach⟩
  refine gives_quiet_bind (gives_attempt hReply) ?_
  rcases o with e | v
  · rcases e with (m | ⟨m, status⟩) | _
    case cluster.notFound =>
      cases hListed
      cases hEach
      exact gives_quiet_bind (gives_tell _) (gives_pure [])
    all_goals cases hListed
  · refine gives_quiet_bind (gives_ofExcept
      (coordinates_of_forall hListed hEach)) ?_
    exact gives_quiet_bind (gives_tell _) (gives_pure kinds)

end Plan

------------------------------------------------------------
-- Providers and Sources
------------------------------------------------------------

namespace Plan

open Build

variable {σ : Type}
variable {c : Cluster σ} {s : σ}

theorem gives_subscribables
    {p : Plan}
    {ss : List Subscribable}
    (hFinds : p.FindsSubscribables (c.Always s) ss) :
    Gives c s (p.subscribables c) ss [] := by
  rcases hFinds with ⟨kinds, parts, hKinds, hParts, rfl⟩
  have hEach :
      List.Forall₂ (fun coords part =>
        Gives c s (p.subscribablesOf c coords)
          part.1 part.2)
        kinds (parts.map fun part => (part, [])) := by
    rw [List.forall₂_map_right_iff]
    exact hParts.imp fun _ _ hYields =>
      gives_converted hYields _
  have hQuiet :
      (parts.map fun part =>
        (part, ([] : List SkipReason))).flatMap (·.2) =
        [] := by
    simp
  have hAll := gives_map (gives_mapM hEach) List.flatten
  rw [hQuiet] at hAll
  refine gives_quiet_bind (gives_discover hKinds) ?_
  simpa [Function.comp_def] using hAll

theorem gives_sourcesOfKind
    {p : Plan}
    {x : Index}
    {coords : KindCoordinates}
    {part : Option (List Source)}
    (hFinds :
      p.FindsSourcesOf (c.Always s) x coords part) :
    Gives c s (p.sourcesOfKind c x coords) (part.getD [])
      (if part.isNone then [.declaration] else []) := by
  unfold FindsSourcesOf at hFinds
  unfold sourcesOfKind
  cases hDeclared : p.conversion.declaredTypes coords with
  | error f =>
      rw [hDeclared] at hFinds
      subst hFinds
      exact gives_quiet_bind (gives_tell _)
        (gives_bind (gives_skip _) (gives_pure []))
  | ok declared =>
      rw [hDeclared] at hFinds
      rcases hFinds with ⟨found, hYields, rfl⟩
      exact gives_converted_bind hYields _
        (gives_pure (found.map x.matched))

theorem gives_sources
    {p : Plan}
    {x : Index}
    {parts : List (Option (List Source))}
    (hFinds : p.FindsSources (c.Always s) x parts) :
    Gives c s (p.sources c x)
      (parts.flatMap (·.getD []))
      ((parts.filter (·.isNone)).map
        fun _ => .declaration) := by
  rcases hFinds with ⟨kinds, hKinds, hParts⟩
  have hEach :
      List.Forall₂ (fun coords part =>
        Gives c s (p.sourcesOfKind c x coords)
          part.1 part.2)
        kinds
        (parts.map fun part => (part.getD [],
          if part.isNone then [.declaration] else [])) := by
    rw [List.forall₂_map_right_iff]
    exact hParts.imp fun _ _ hPart =>
      gives_sourcesOfKind hPart
  have hNotes :
      parts.flatMap (fun part =>
          if part.isNone then [SkipReason.declaration]
          else []) =
        (parts.filter (·.isNone)).map
          fun _ => .declaration := by
    clear hParts hEach
    induction parts with
    | nil => rfl
    | cons part parts ih =>
        cases part <;> simpa using ih
  have hAll := gives_map (gives_mapM hEach) List.flatten
  rw [List.flatMap_map, hNotes] at hAll
  refine gives_quiet_bind (gives_discover hKinds) ?_
  simpa [Function.comp_def, List.flatMap_def] using hAll

end Plan

------------------------------------------------------------
-- Turns of Subscriptions
------------------------------------------------------------

namespace Turn

open Consumption (settle settles_of_eq Applies)

/-
  Where a turn goes on, its outcome does what the turn is
  said to take and to skip.
-/
theorem applies_of_goesOn
    {answers : Answers}
    {label : String}
    {x : Index}
    {t : Turn}
    (hHeard : t.Heard answers label x)
    (hGoesOn : t.GoesOn x)
    (known : Consumption) :
    Applies (t.outcome x) known (t.take x known)
      t.skipped := by
  rcases t with ⟨s, answer⟩
  cases hSettle : settle x s with
  | inl o =>
      simp only [Heard, hSettle] at hHeard
      subst hHeard
      have hQuiet : Applies o known known [] := by
        cases settles_of_eq hSettle <;> exact ⟨rfl, rfl⟩
      simpa [outcome, hSettle, take, identity?, skipped]
        using hQuiet
  | inr found =>
      rcases found with ⟨target, ref⟩
      have hTarget := (target_of_settle hSettle).1
      simp only [Heard, hSettle] at hHeard
      rcases hHeard with ⟨o, rfl, -⟩
      simp only [outcome, hSettle]
      rcases o with e | v
      · rcases hGoesOn.cluster e rfl with
          ⟨m | ⟨m, status⟩, rfl⟩
        all_goals exact ⟨rfl, rfl⟩
      · by_cases hTruthy : v.truthy = true
        · have hFiles :
              (v.isKey ||
                (x.received target s).isEmpty) = true := by
            have hEither := hGoesOn.files v
              (by simp [identity?, hTruthy])
            simpa [ids, hTarget] using hEither
          simp only [Consumption.resolve, hTruthy, if_true,
            Applies, Consumption.fileAll, hFiles]
          refine ⟨?_, rfl⟩
          simp [take, identity?, hTruthy, ids, hTarget]
        · simp only [Consumption.resolve, hTruthy]
          exact ⟨by simp [take, identity?, hTruthy], rfl⟩

end Turn

namespace Consumption

open Build

variable {σ : Type}
variable {c : Cluster σ} {s : σ}

theorem gives_outcome
    {label : String}
    {x : Index}
    {t : Turn}
    (hHeard : t.Heard (c.Always s) label x)
    (hGoesOn : t.GoesOn x) :
    Gives c s (outcome c label x t.subscription)
      (t.outcome x) [] := by
  rcases t with ⟨sub, answer⟩
  unfold outcome
  cases hSettle : settle x sub with
  | inl o =>
      simp only [Turn.outcome, hSettle]
      exact gives_pure o
  | inr found =>
      rcases found with ⟨target, ref⟩
      simp only [Turn.Heard, hSettle] at hHeard
      rcases hHeard with ⟨o, rfl, hReply⟩
      simp only [Turn.outcome, hSettle]
      refine gives_quiet_bind (gives_attempt hReply) ?_
      rcases o with e | v
      · rcases hGoesOn.cluster e rfl with
          ⟨m | ⟨m, status⟩, rfl⟩
        all_goals exact gives_pure _
      · exact gives_pure _

theorem gives_apply
    {o : Log.SubscriptionOutcome}
    {known known' : Consumption}
    {skipped : List SkipReason}
    (hApplies : Applies o known known' skipped) :
    Gives c s (known.apply o) known' skipped := by
  cases o with
  | resolved v ids =>
      rcases hApplies with ⟨hFiled, rfl⟩
      refine gives_ofExcept ?_
      rw [hFiled]
      rfl
  | lookupFailed words =>
      rcases hApplies with ⟨rfl, rfl⟩
      exact gives_bind (gives_skip _) (gives_pure known')
  | _ =>
      rcases hApplies with ⟨rfl, rfl⟩
      exact gives_pure known'

theorem gives_process
    {label : String}
    {x : Index}
    {t : Turn}
    (hHeard : t.Heard (c.Always s) label x)
    (hGoesOn : t.GoesOn x)
    (known : Consumption) :
    Gives c s (process c label x known t.subscription)
      (t.take x known) t.skipped := by
  refine gives_quiet_bind (gives_outcome hHeard hGoesOn) ?_
  exact gives_quiet_bind (gives_tell _)
    (gives_apply (t.applies_of_goesOn hHeard hGoesOn known))

end Consumption

namespace Plan

open Build

variable {σ : Type}
variable {c : Cluster σ} {s : σ}

theorem gives_consumption
    {p : Plan}
    {x : Index}
    {turns : List Turn}
    (hHeard : ∀ t ∈ turns,
      t.Heard (c.Always s) p.identityLabel x)
    (hGoesOn : ∀ t ∈ turns, t.GoesOn x)
    (known : Consumption) :
    Gives c s
      ((turns.map (·.subscription)).foldlM
        (Consumption.process c p.identityLabel x) known)
      (turns.foldl (Turn.take x) known)
      (turns.flatMap (·.skipped)) := by
  induction turns generalizing known with
  | nil => exact gives_pure known
  | cons t turns ih =>
      rw [List.forall_mem_cons] at hHeard hGoesOn
      rw [List.map_cons, List.foldlM_cons, List.foldl_cons,
        List.flatMap_cons]
      exact gives_bind
        (Consumption.gives_process hHeard.1 hGoesOn.1 known)
        (ih hHeard.2 hGoesOn.2 _)

end Plan

------------------------------------------------------------
-- Builds
------------------------------------------------------------

namespace Plan

open Build

variable {σ : Type}
variable {c : Cluster σ} {s : σ}

/- What can be collected from lasting answers is. -/
theorem gives_collect
    {p : Plan}
    {f : Findings}
    (hFinds : p.Finds (c.Always s) f) :
    Gives c s (p.collect c)
      (f.index, f.sources.flatMap (·.getD []))
      ((f.sources.filter (·.isNone)).map
        fun _ => .declaration) := by
  have hProviders :
      Gives c s (p.providers c) f.providers [] := by
    refine gives_quiet_bind
      (gives_converted hFinds.brokers _) ?_
    exact gives_quiet_bind
      (gives_subscribables hFinds.subscribables)
      (gives_pure _)
  refine gives_quiet_bind hProviders ?_
  refine gives_quiet_bind
    (gives_converted hFinds.eventTypes _) ?_
  refine gives_quiet_bind (gives_tellAll _) ?_
  rw [← List.append_nil (List.map _ _)]
  exact gives_bind (gives_sources hFinds.sources)
    (gives_pure _)

theorem gives_subscriptions
    {ss : List Subscription}
    (hFinds : FindsSubscriptions (c.Always s) ss) :
    Gives c s (Plan.subscriptions c) ss [] := by
  rcases hFinds with
    ⟨triggers, others, hTriggers, hOthers, rfl⟩
  refine gives_converted_bind hTriggers _ ?_
  exact gives_converted_bind hOthers _ (gives_pure _)

/- A mesh is completed by turns that all go on. -/
theorem gives_complete
    {p : Plan}
    {found : Index × List Source}
    {turns : List Turn}
    (hHeard : ∀ t ∈ turns,
      t.Heard (c.Always s) p.identityLabel found.1)
    (hGoesOn : ∀ t ∈ turns, t.GoesOn found.1) :
    Gives c s
      (p.complete c found (turns.map (·.subscription)))
      (Mesh.ofIndex found.1 found.2
        (turns.foldl (Turn.take found.1) []))
      (turns.flatMap (·.skipped)) := by
  rw [← List.append_nil (turns.flatMap _)]
  exact gives_bind (gives_consumption hHeard hGoesOn [])
    (gives_quiet_bind (gives_tell _) (gives_pure _))

/- What can be found in lasting answers is found. -/
theorem gives_build
    {p : Plan}
    {f : Findings}
    (hFinds : p.Finds (c.Always s) f) :
    Gives c s (p.build c) f.mesh f.skipped := by
  rw [build_eq]
  refine gives_bind (gives_collect hFinds) ?_
  refine gives_quiet_bind
    (gives_subscriptions hFinds.subscriptions) ?_
  exact gives_complete hFinds.heard hFinds.goesOn

/-
  Over a steady cluster a build gives the mesh of whatever
  it can find.
-/
theorem run_of_finds
    {p : Plan}
    {f : Findings}
    (hSteady : c.Steady s replies)
    (hFinds : p.Finds replies.answers f) :
    ∃ run, p.run c s = (.ok f.mesh, run) ∧
      run.skips = f.skipped := by
  rw [← hSteady.always_eq] at hFinds
  rcases gives_build hFinds _ (c.keeps_start s) with
    ⟨run, hExec, _, hSkips⟩
  exact ⟨run, hExec, by simpa using hSkips⟩

/- A mesh is that of findings in the replies. -/
theorem finds_of_steady_run
    {p : Plan}
    {m : Mesh}
    {run : Run σ}
    (hSteady : c.Steady s replies)
    (hRun : p.run c s = (.ok m, run)) :
    ∃ f : Findings,
      p.Finds replies.answers f ∧ m = f.mesh ∧
        run.skips = f.skipped := by
  rcases p.hears_build _ (c.keeps_start s) with
    ⟨-, -, hEnd⟩
  rcases hEnd m run hRun with ⟨skipped, hSkips, hFinds⟩
  rcases hFinds _ fun _ _ hHeard =>
      hSteady.answers_of_heard hHeard with
    ⟨f, hFound, hMesh, rfl⟩
  exact ⟨f, hFound, hMesh, by simpa using hSkips⟩

end Plan

------------------------------------------------------------
-- A Shop
------------------------------------------------------------

/- The records that a listing converts to, if it does. -/
def Replies.converted
    {α : Type}
    (replies : Replies)
    (r : Request)
    (convert : Json → Except Failure α) :
    Option (List α) :=
  (listed? (replies r)).bind fun raws =>
    (raws.mapM convert).toOption

/- A listing yields what it converts to and no other. -/
theorem Replies.converted_of_yields
    {α : Type}
    {replies : Replies}
    {r : Request}
    {convert : Json → Except Failure α}
    {as : List α}
    (hYields : replies.answers.Yields r convert as) :
    replies.converted r convert = some as := by
  rcases hYields with ⟨raws, ⟨o, rfl, hListed⟩, hEach⟩
  unfold converted
  rw [hListed, Option.bind_some,
    Failure.mapM_eq_ok_iff.mpr hEach]
  rfl

/- A mesh that can be looked at has been built. -/
theorem Plan.exists_run_of_view
    {σ β : Type}
    {p : Plan}
    {c : Cluster σ}
    {s : σ}
    {view : Mesh → β}
    {v : β}
    (hView : (p.run c s).1.toOption.map view = some v) :
    ∃ m run, p.run c s = (.ok m, run) ∧ view m = v := by
  rcases hRun : p.run c s with ⟨e | m, run⟩
  · rw [hRun] at hView
    cases hView
  · rw [hRun] at hView
    exact ⟨m, run, rfl, Option.some.inj hView⟩

namespace Shop

/- A resource with a namespace, a name and a spec. -/
def resource
    (ns name : String)
    (spec : Json.Members) : Json :=
  .obj
    [("metadata",
       .obj [("name", .str name), ("namespace", .str ns)]),
     ("spec", .obj spec)]

/- A reference to what stands beside a resource. -/
def reference (apiVersion kind name : String) : Json :=
  .obj
    [("apiVersion", .str apiVersion), ("kind", .str kind),
     ("name", .str name)]

/- A trigger from a broker to a service. -/
def trigger (ns name broker service : String) : Json :=
  resource ns name
    [("broker", .str broker),
     ("subscriber",
       .obj [("ref", reference "v1" "Service" service)])]

/- The type of orders, which the broker provides. -/
def order : Json :=
  resource "shop" "order"
    [("type", .str "order.placed"),
     ("reference",
       reference "eventing.knative.dev/v1" "Broker" "main")]

/-
  The replies of a cluster with a shop, in which orders are
  billed, logged and billed again, and with other brokers
  and triggers beside it.
-/
def replies
    (lookup : ObjectReference → Except Failure Json)
    (brokers triggers : List Json) : Replies
| .brokers =>
    .ok (.arr (brokers ++ [resource "shop" "main" []]))
| .eventTypes => .ok (.arr [order])
| .triggers =>
    .ok (.arr
      (triggers ++
        [trigger "shop" "bill" "main" "billing",
         trigger "shop" "log" "main" "audit",
         trigger "shop" "repeat" "main" "billing"]))
| .identity ref _ => lookup ref
| _ => .ok (.arr [])

/- Billing and audit are known by their names. -/
def known (ref : ObjectReference) : Except Failure Json :=
  .ok
    (if ref.name = "billing" then .str "billing"
     else if ref.name = "audit" then .str "audit"
     else .null)

/- What is shown of orders: who provides and who consumes. -/
def view (m : Mesh) : List (List String) :=
  m.brokers.map (·.providedEventTypes) ++
    m.eventTypes.map (·.consumedBy.map (·.text))

/- Built alone, the shop provides and consumes orders. -/
theorem exists_run :
    ∃ m run,
      Plan.run {}
          (Cluster.ofTable (replies known [] [])) () =
        (.ok m, run) ∧
      view m = [["shop/order"], ["billing", "audit"]] := by
  apply Plan.exists_run_of_view
  decide +kernel

end Shop

end EventTopology
