import EventTopology.Proofs.Build.Filing
import EventTopology.Proofs.Build.Listening
import EventTopology.Proofs.Mesh.Ordering
import EventTopology.Proofs.Mesh.Matching
import EventTopology.Proofs.Resource.Naming

/-
  This file says which sources a mesh has and, item by item,
  what these provide.  The sources are the instances of the
  kinds with readable declarations, one kind after another.
  Each provides the event types beside it that have a type
  which its kind declares, type by type and sorted.

  Key definitions include:
    * `Mesh.typed`
    * `Mesh.sourced`
    * `Mesh.Sourced`
    * `Plan.Instances`

  The main results are:
    * `Index.firsts_flatMap`
    * `Findings.matching_eq_typed`
    * `Plan.sources_of_run`
-/

------------------------------------------------------------
-- First Occurrences
------------------------------------------------------------

namespace EventTopology

namespace Index

/- A filter may be applied before repetitions are left out. -/
theorem firsts_filter
    (p : String → Bool)
    (ss : List String) :
    firsts (ss.filter p) = (firsts ss).filter p := by
  induction ss with
  | nil => rfl
  | cons s ss ih =>
      cases h : p s with
      | true =>
          simp only [List.filter_cons, h, if_true, firsts, ih,
            List.filter_filter, Bool.and_comm]
      | false =>
          -- What is filtered out leaves nothing to leave out.
          have hAbsent : (firsts ss).filter p =
              ((firsts ss).filter (· ≠ s)).filter p := by
            rw [List.filter_filter]
            apply List.filter_congr
            intro t _
            by_cases hSame : t = s
            · simp [hSame, h]
            · simp [hSame]
          rw [List.filter_cons_of_neg (by simp [h]), ih,
            firsts, List.filter_cons_of_neg (by simp [h])]
          exact hAbsent

/- The library leaves out repetitions in the same way. -/
theorem firsts_eq_eraseDups :
    (ss : List String) → firsts ss = ss.eraseDups
| [] => rfl
| s :: ss => by
    have hRest := firsts_eq_eraseDups (ss.filter (· ≠ s))
    have hSame : (fun t : String => decide (t ≠ s)) =
        fun t => !t == s := by
      funext t
      rw [decide_not]
      rfl
    rw [firsts, ← firsts_filter, hRest, List.eraseDups_cons,
      hSame]
termination_by ss => ss.length
decreasing_by
  exact Nat.lt_succ_of_le (List.length_filter_le _ _)

/- Texts without repetitions stay, and others follow. -/
theorem firsts_append
    {ss : List String}
    (hNodup : ss.Nodup)
    (ts : List String) :
    firsts (ss ++ ts) =
      ss ++ (firsts ts).filter (· ∉ ss) := by
  induction ss with
  | nil => simp
  | cons s ss ih =>
      rcases List.nodup_cons.mp hNodup with ⟨hNew, hRest⟩
      have hOthers : ss.filter (· ≠ s) = ss := by
        apply List.filter_eq_self.mpr
        intro t hMem
        have hNe : t ≠ s := by
          intro hSame
          exact hNew (hSame ▸ hMem)
        simp [hNe]
      rw [List.cons_append, firsts, ih hRest,
        List.filter_append, hOthers, List.filter_filter,
        List.cons_append]
      congr 2
      apply List.filter_congr
      intro t _
      simp

/- What lists with nothing in common lose to one of them. -/
theorem filter_flatMap_disjoint
    {g : String → List String}
    (hDisjoint : ∀ s t, s ≠ t → (g s).Disjoint (g t))
    (s : String)
    (ss : List String) :
    (ss.flatMap g).filter (· ∉ g s) =
      (ss.filter (· ≠ s)).flatMap g := by
  induction ss with
  | nil => rfl
  | cons t ss ih =>
      rw [List.flatMap_cons, List.filter_append, ih]
      by_cases hSame : t = s
      · subst hSame
        simp
      · have hKept : (g t).filter (· ∉ g s) = g t := by
          apply List.filter_eq_self.mpr
          intro u hMem
          have hNot : u ∉ g s := hDisjoint t s hSame hMem
          simp [hNot]
        rw [hKept, List.filter_cons_of_pos (by simp [hSame]),
          List.flatMap_cons]

/-
  Where texts stand for lists without repetitions that have
  nothing in common, repetitions among the texts are all
  that is left out.
-/
theorem firsts_flatMap
    {g : String → List String}
    (hNodup : ∀ s, (g s).Nodup)
    (hDisjoint : ∀ s t, s ≠ t → (g s).Disjoint (g t))
    (ss : List String) :
    firsts (ss.flatMap g) = (firsts ss).flatMap g := by
  induction ss with
  | nil => rfl
  | cons s ss ih =>
      rw [List.flatMap_cons, firsts_append (hNodup s), ih,
        filter_flatMap_disjoint hDisjoint, firsts,
        List.flatMap_cons]

end Index

------------------------------------------------------------
-- Event Types by Type
------------------------------------------------------------

/-
  The ids of the event types in a namespace that have a
  type, in the order of the mesh.
-/
def Mesh.typed (m : Mesh) (ns type : String) : List String :=
  (m.eventTypes.filter fun e =>
    e.ns = ns && e.type = type).map (·.id)

/- An event type without its consumers. -/
def EventType.alone (e : EventType) : EventType :=
  { e with consumedBy := [] }

namespace Findings

variable {f : Findings}

/- Event types with titles of their own have own ids. -/
theorem nodup_listed_ids
    (hDistinct : (f.eventTypes.map (·.title)).Nodup)
    (hPlain : ∀ e ∈ f.eventTypes, Key.Plain e.ns) :
    (f.eventTypes.map (·.id)).Nodup := by
  rw [List.Nodup, List.pairwise_map] at hDistinct ⊢
  apply hDistinct.imp_of_mem
  intro e e' hMem hMem' hTitles hIds
  have hSame := (EventType.id_eq_iff (hPlain e hMem)
    (hPlain e' hMem')).mp hIds
  rw [EventType.isNamesake_iff] at hSame
  exact hTitles (Prod.ext hSame.1 hSame.2)

/- They are all shown, sorted and with their consumers. -/
theorem mesh_eventTypes_of_distinct
    (hDistinct : (f.eventTypes.map (·.title)).Nodup)
    (hPlain : ∀ e ∈ f.eventTypes, Key.Plain e.ns) :
    f.mesh.eventTypes =
      (f.eventTypes.mergeSort EventType.le).map fun e =>
        { e with
          consumedBy := Table.pushed e.id f.consumed } := by
  have hKeys :
      (Table.keys
        (Index.byId
          (f.eventTypes.mergeSort EventType.le))).Nodup := by
    rw [Table.keys, Index.byId, List.map_map]
    have hSorted :=
      List.mergeSort_perm f.eventTypes EventType.le
    apply (hSorted.map (·.id)).nodup_iff.mpr
    exact nodup_listed_ids hDistinct hPlain
  change f.index.eventTypes.map _ = _
  rw [f.index_eventTypes, Table.ofList_eq_self hKeys,
    Index.byId, List.map_map]
  rfl

/- Under a namespace and a type stands what has them. -/
theorem pushed_eq_typed
    {ns : String}
    (hDistinct : (f.eventTypes.map (·.title)).Nodup)
    (hPlain : ∀ e ∈ f.eventTypes, Key.Plain e.ns)
    (hNs : Key.Plain ns)
    (type : String) :
    Table.pushed (Key.namespaced ns type) f.index.byType =
      f.mesh.typed ns type := by
  have hSame :
      ∀ e ∈ f.eventTypes.mergeSort EventType.le,
        decide (e.typeKey = Key.namespaced ns type) =
          (e.ns = ns && e.type = type : Bool) := by
    intro e hMem
    have hPlace := hPlain e (List.mem_mergeSort.mp hMem)
    rw [Bool.eq_iff_iff, decide_eq_true_iff,
      Bool.and_eq_true, decide_eq_true_iff,
      decide_eq_true_iff]
    constructor
    · intro hKey
      exact Key.namespaced_inj hPlace hNs hKey
    · intro hParts
      rw [EventType.typeKey, hParts.1, hParts.2]
  rw [f.pushed_byType, List.filter_congr hSame, Mesh.typed,
    mesh_eventTypes_of_distinct hDistinct hPlain,
    List.filter_map, List.map_map]
  rfl

/- Under a type no event type stands twice. -/
theorem nodup_typed (ns type : String) :
    (f.mesh.typed ns type).Nodup :=
  f.nodup_mesh_ids.sublist (List.filter_sublist.map _)

/- No event type has two types. -/
theorem typed_disjoint
    {ns type type' : String}
    (hNe : type ≠ type') :
    (f.mesh.typed ns type).Disjoint
      (f.mesh.typed ns type') := by
  intro id hId hId'
  rcases List.mem_map.mp hId with ⟨e, hMem, hIs⟩
  rcases List.mem_map.mp hId' with ⟨e', hMem', hIs'⟩
  rcases List.mem_filter.mp hMem with ⟨hShown, hHas⟩
  rcases List.mem_filter.mp hMem' with ⟨hShown', hHas'⟩
  have hSame : e = e' :=
    List.inj_on_of_nodup_map f.nodup_mesh_ids hShown hShown'
      (hIs.trans hIs'.symm)
  rw [Bool.and_eq_true, decide_eq_true_iff,
    decide_eq_true_iff] at hHas hHas'
  rw [← hHas.2, ← hHas'.2, hSame] at hNe
  exact hNe rfl

/- What is matched is taken type by type. -/
theorem matching_eq_typed
    {ns : String}
    (hDistinct : (f.eventTypes.map (·.title)).Nodup)
    (hPlain : ∀ e ∈ f.eventTypes, Key.Plain e.ns)
    (hNs : Key.Plain ns)
    (declared : List String) :
    f.index.matching ns declared =
      declared.eraseDups.flatMap (f.mesh.typed ns) := by
  have hFiled :
      (fun type =>
          Table.pushed (Key.namespaced ns type)
            f.index.byType) =
        f.mesh.typed ns := by
    funext type
    exact pushed_eq_typed hDistinct hPlain hNs type
  rw [Index.matching, hFiled, ← Index.firsts_eq_eraseDups]
  apply Index.firsts_flatMap
  · exact nodup_typed ns
  · intro type type' hNe
    exact typed_disjoint hNe

/- Nothing is matched twice. -/
theorem nodup_matching
    (ns : String)
    (declared : List String) :
    (f.index.matching ns declared).Nodup := by
  rw [Index.matching, Index.firsts_eq_eraseDups]
  exact List.nodup_eraseDups _

end Findings

------------------------------------------------------------
-- Sources of Meshes
------------------------------------------------------------

/-
  A source with the event types beside it that have a type
  which it declares, type by type.  A type counts once.
-/
def Mesh.sourced (m : Mesh) (s : Source) : Source :=
  { s with
    providedEventTypes :=
      s.declaredTypes.eraseDups.flatMap (m.typed s.ns) }

/-
  The sources of a mesh are those that were found, with the
  event types they provide.
-/
structure Mesh.Sourced
    (es : List EventType)
    (found : List Source)
    (m : Mesh) : Prop where
  /- The order of a mesh is by namespace and name. -/
  increasing : m.eventTypes.Pairwise EventType.Precedes
  /- But for consumers, what is listed is what is shown. -/
  listed :
    (m.eventTypes.map (·.alone)).Perm (es.map (·.alone))
  /- None is dropped, and none is moved. -/
  sources : m.sources = found.map m.sourced
  once : ∀ s ∈ m.sources, s.providedEventTypes.Nodup

namespace Findings

variable {f : Findings}

/- The mesh of findings shows the sources that were found. -/
theorem sourced
    {found : List Source}
    (hFound :
      f.mesh.sources = found.map f.index.matched)
    (hDistinct : (f.eventTypes.map (·.title)).Nodup)
    (hPlain : ∀ e ∈ f.eventTypes, Key.Plain e.ns)
    (hNs : ∀ s ∈ found, Key.Plain s.ns) :
    f.mesh.Sourced f.eventTypes found where
  increasing := pairwise_mesh_eventTypes hPlain
  listed := by
    rw [mesh_eventTypes_of_distinct hDistinct hPlain,
      List.map_map]
    exact (List.mergeSort_perm _ _).map _
  sources := by
    rw [hFound]
    apply List.map_congr_left
    intro s hMem
    rw [Index.matched, Mesh.sourced,
      matching_eq_typed hDistinct hPlain (hNs s hMem)]
  once := by
    intro s hMem
    rw [hFound] at hMem
    rcases List.mem_map.mp hMem with ⟨s₀, _, hIs⟩
    rw [← hIs]
    exact nodup_matching _ _

end Findings

------------------------------------------------------------
-- Instances of Readable Kinds
------------------------------------------------------------

namespace Plan

/- The instances of a kind, all with its declared types. -/
def Instances
    (p : Plan)
    (answers : Answers)
    (kind : KindCoordinates × List String)
    (found : List Source) : Prop :=
  answers.Yields (.instances kind.1)
      (p.conversion.source kind.1 (.ofTexts kind.2)) found ∧
    ∀ s ∈ found, s.declaredTypes = kind.2

/- More answers have the same instances. -/
theorem Instances.mono
    {p : Plan}
    {answers answers' : Answers}
    {kind : KindCoordinates × List String}
    {found : List Source}
    (hInstances : p.Instances answers kind found)
    (hSub : ∀ r o, answers r o → answers' r o) :
    p.Instances answers' kind found :=
  ⟨hInstances.1.mono (hSub _), hInstances.2⟩

/- What an instance declares, its kind declares. -/
theorem instances_of_yields
    {p : Plan}
    {answers : Answers}
    {coords : KindCoordinates}
    {declared : List String}
    {found : List Source}
    (hYields : answers.Yields (.instances coords)
      (p.conversion.source coords (.ofTexts declared))
      found) :
    p.Instances answers (coords, declared) found := by
  refine ⟨hYields, ?_⟩
  intro s hMem
  rcases hYields with ⟨raws, _, hEach⟩
  rcases hEach.exists_left_of_mem hMem with ⟨raw, _, hOk⟩
  exact (Conversion.source_links hOk).1

end Plan

------------------------------------------------------------
-- A Stocked Shop
------------------------------------------------------------

namespace Shop

/- The definition of a kind with a written declaration. -/
def declaring (plural kind written : String) : Json :=
  .obj
    [("metadata",
       .obj
         [("name", .str (plural ++ ".sources.dev")),
          ("annotations",
            .obj
              [("registry.knative.dev/eventTypes",
                 .str written)])]),
     ("spec",
       .obj
         [("group", .str "sources.dev"),
          ("version", .str "v1"),
          ("names",
            .obj
              [("plural", .str plural),
               ("kind", .str kind)])])]

/-
  Replies in which feeds declare a type twice and an empty
  one between.
-/
def stocked : Replies
| .eventTypes =>
    .ok (.arr
      [eventType "shop" "c" "", eventType "shop" "b" "t",
       eventType "shop" "a" "t"])
| .definitions tag =>
    .ok (.arr
      (if tag = ({} : Plan).sourceTag then
        [declaring "feeds" "Feed"
          "[\x7b\"type\":\"t\"\x7d,\x7b\x7d,\x7b\"type\":\"t\"\x7d]"]
       else []))
| .instances _ =>
    .ok (.arr
      [resource "shop" "feed" [], resource "lab" "feed" []])
| _ => .ok (.arr [])

/- What is listed has plain namespaces and own titles. -/
theorem titles_of_stocked
    {es : List EventType}
    (hYields : stocked.answers.Yields .eventTypes
      ({} : Plan).conversion.eventType es) :
    (es.map (·.title)).Nodup ∧
      ∀ e ∈ es, Key.Plain e.ns := by
  have hListed :
      ((stocked.converted .eventTypes
        ({} : Plan).conversion.eventType).all fun es =>
          decide (es.map (·.title)).Nodup &&
            es.all fun e => Key.Plain e.ns) = true := by
    decide +kernel
  rw [Replies.converted_of_yields hYields] at hListed
  simpa using hListed

/- What is read of a resource in a plain place is there. -/
theorem plain_of_source
    {c : Conversion}
    {coords : KindCoordinates}
    {declared : Json}
    {ns name : String}
    {spec : Json.Members}
    {s : Source}
    (hOk : c.source coords declared
      (resource ns name spec) = .ok s)
    (hPlain : Key.Plain ns) :
    Key.Plain s.ns := by
  rcases Conversion.source_livesIn hOk with ⟨md, hMd, hNs⟩
  cases hMd
  cases hNs
  exact hPlain

theorem plain_of_stocked
    {kinds : List (KindCoordinates × List String)}
    {founds : List (List Source)}
    (hFounds :
      List.Forall₂ (({} : Plan).Instances stocked.answers)
        kinds founds) :
    ∀ s ∈ founds.flatten, Key.Plain s.ns := by
  intro s hMem
  rcases List.mem_flatten.mp hMem with ⟨found, hFound, hIn⟩
  rcases hFounds.exists_left_of_mem hFound with
    ⟨kind, _, hYields, _⟩
  rcases hYields with ⟨raws, ⟨o, hAnswer, hListed⟩, hEach⟩
  cases hAnswer
  cases hListed
  rcases hEach.exists_left_of_mem hIn with ⟨raw, hRaw, hOk⟩
  rcases List.mem_pair.mp hRaw with hShop | hLab
  · rw [hShop] at hOk
    exact plain_of_source hOk (by decide)
  · rw [hLab] at hOk
    exact plain_of_source hOk (by decide)

end Shop

------------------------------------------------------------
-- Built Meshes
------------------------------------------------------------

namespace Plan

variable {σ : Type}

/-
  Whatever a cluster answers, the sources of the mesh that a
  build gives are the instances of the readable kinds, kind
  by kind, each converted from the reply to its own turn
  among the requests.  If event types have namespaces and
  names of their own and namespaces are plain, it is known
  which event types they provide, and in which order.
-/
theorem sources_of_run
    {p : Plan}
    {c : Cluster σ}
    {s : σ}
    {m : Mesh}
    {run : Run σ}
    (hRun : p.run c s = (.ok m, run)) :
    let heard := c.Heard s run.requests
    let es := p.heardEventTypes c s
    let kinds := p.sourceKinds c s
    let founds := p.heardInstances c s
    heard.Yields .eventTypes p.conversion.eventType es ∧
    heard.Kinds p.sourceTag kinds ∧
    List.Forall₂ (p.Instances heard)
      (p.readable kinds) founds ∧
    ((es.map (·.title)).Nodup →
      (∀ e ∈ es, Key.Plain e.ns) →
      (∀ s ∈ founds.flatten, Key.Plain s.ns) →
      m.Sourced es founds.flatten) := by
  intro heard es kinds founds
  rcases heard_of_run hRun with ⟨turns, rfl, _⟩
  refine ⟨yields_heardEventTypes hRun,
    kinds_sourceKinds hRun, ?_, ?_⟩
  · exact (yields_heardInstances hRun).imp
      fun _ _ hYields => instances_of_yields hYields
  · intro hDistinct hPlain hNs
    exact Findings.sourced
      (sources_mesh_heardFindings p c s turns) hDistinct
      hPlain hNs

/-
  The feeds of both namespaces are sources.  What they
  provide of a type comes once, sorted, and only from beside
  them.
-/
theorem stocked_sources :
    let c := Cluster.ofTable Shop.stocked
    let es := Plan.heardEventTypes {} c ()
    let kinds := Plan.sourceKinds {} c ()
    let founds := Plan.heardInstances {} c ()
    ∃ m run,
      Plan.run {} c () = (.ok m, run) ∧
      Shop.matches m =
        [("shop", ["t", "", "t"],
           ["shop/a", "shop/b", "shop/c"]),
         ("lab", ["t", "", "t"], [])] ∧
      Shop.stocked.answers.Yields .eventTypes
        ({} : Plan).conversion.eventType es ∧
      List.Forall₂
        (({} : Plan).Instances Shop.stocked.answers)
        (({} : Plan).readable kinds) founds ∧
      m.Sourced es founds.flatten := by
  have hView :
      (Plan.run {} (Cluster.ofTable Shop.stocked)
          ()).1.toOption.map Shop.matches =
        some
          [("shop", ["t", "", "t"],
             ["shop/a", "shop/b", "shop/c"]),
           ("lab", ["t", "", "t"], [])] := by
    cbv
  rcases exists_run_of_view hView with
    ⟨m, run, hRun, hShown⟩
  rcases sources_of_run hRun with
    ⟨hYields, _, hFounds, hSourced⟩
  have hSteady := Cluster.steady_ofTable Shop.stocked
  have hYields := hYields.mono fun _ hHeard =>
    hSteady.answers_of_heard hHeard
  have hFounds := hFounds.imp fun _ _ hInstances =>
    hInstances.mono fun _ _ hHeard =>
      hSteady.answers_of_heard hHeard
  rcases Shop.titles_of_stocked hYields with
    ⟨hDistinct, hPlain⟩
  exact ⟨m, run, hRun, hShown, hYields, hFounds,
    hSourced hDistinct hPlain
      (Shop.plain_of_stocked hFounds)⟩

end Plan

end EventTopology
