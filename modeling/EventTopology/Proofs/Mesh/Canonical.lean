import Mathlib
import EventTopology.Proofs.Build.Contents
import EventTopology.Proofs.Build.Steady
import EventTopology.Proofs.Index.Sorting
import EventTopology.Proofs.Key

/-
  This file shows that the event types of a mesh are
  canonical: they increase strictly by namespace and name,
  they are those of the listing, and of several with one
  namespace and name the last one listed is shown.

  Key definitions include:
    * `EventType.Precedes`
    * `EventType.isNamesake`
    * `Mesh.Canonical`
    * `Shop.relisted`

  The main result is:
    * `Plan.canonical_of_run`
-/

------------------------------------------------------------
-- Namespaces and Names
------------------------------------------------------------

namespace EventTopology

namespace EventType

/- An event type stands before another in a mesh. -/
def Precedes (e f : EventType) : Prop :=
  Text.before e.ns f.ns ∨
    e.ns = f.ns ∧ Text.before e.name f.name

/- Do two event types have one namespace and one name? -/
def isNamesake (e f : EventType) : Bool :=
  e.ns = f.ns && e.name = f.name

theorem isNamesake_iff {e f : EventType} :
    e.isNamesake f = true ↔ e.ns = f.ns ∧ e.name = f.name := by
  simp [isNamesake]

/- In plain namespaces, ids tell namespaces and names. -/
theorem id_eq_iff
    {e f : EventType}
    (hNs : Key.Plain e.ns)
    (hNs' : Key.Plain f.ns) :
    e.id = f.id ↔ e.isNamesake f = true := by
  rw [isNamesake_iff]
  constructor
  · intro hId
    exact Key.namespaced_inj hNs hNs' hId
  · intro hSame
    rw [id, id, hSame.1, hSame.2]

/- Namesakes stand at the same place among others. -/
theorem le_congr
    {e e' f f' : EventType}
    (hSame : e.isNamesake e' = true)
    (hSame' : f.isNamesake f' = true) :
    e.le f = e'.le f' := by
  rw [isNamesake_iff] at hSame hSame'
  rw [le, le, hSame.1, hSame.2, hSame'.1, hSame'.2]

/- Of ordered event types, only namesakes do not precede. -/
theorem precedes_of_le
    {e f : EventType}
    (hLe : e.le f)
    (hOther : ¬ e.isNamesake f = true) :
    e.Precedes f := by
  rcases le_iff.mp hLe with hNs | ⟨hNs, hName⟩
  · exact Or.inl hNs
  · right
    refine ⟨hNs, ?_⟩
    by_contra hNot
    have hSame : e.name = f.name :=
      Text.eq_of_not_before (Bool.eq_false_iff.mpr hNot) hName
    exact hOther (isNamesake_iff.mpr ⟨hNs, hSame⟩)

/- What precedes another is not its namesake. -/
theorem not_isNamesake_of_precedes
    {e f : EventType}
    (hPrecedes : e.Precedes f) :
    ¬ e.isNamesake f = true := by
  intro hSame
  rw [isNamesake_iff] at hSame
  have hIrrefl (s : String) : ¬ Text.before s s = true := by
    intro hBefore
    have hNot := Text.before_asymm hBefore
    simp [hBefore] at hNot
  rcases hPrecedes with hNs | ⟨_, hName⟩
  · rw [hSame.1] at hNs
    exact hIrrefl f.ns hNs
  · rw [hSame.2] at hName
    exact hIrrefl f.name hName

end EventType

------------------------------------------------------------
-- Canonical Meshes
------------------------------------------------------------

/-
  The event types of a mesh are the canonical form of a list
  of converted ones.
-/
structure Mesh.Canonical
    (es : List EventType)
    (m : Mesh) : Prop where
  increasing : m.eventTypes.Pairwise EventType.Precedes
  /- No namespace and name are shown twice. -/
  once : (m.eventTypes.map fun e => (e.ns, e.name)).Nodup
  /- Those that are listed are shown, and no others. -/
  shown : ∀ ns name,
    (∃ e ∈ m.eventTypes, e.ns = ns ∧ e.name = name) ↔
      ∃ e₀ ∈ es, e₀.ns = ns ∧ e₀.name = name
  /- But for consumers, the last one listed is shown. -/
  latest : ∀ e ∈ m.eventTypes, ∃ e₀,
    (es.filter (·.isNamesake e)).getLast? = some e₀ ∧
      e = { e₀ with consumedBy := e.consumedBy }

------------------------------------------------------------
-- Findings in Plain Namespaces
------------------------------------------------------------

namespace Findings

variable {f : Findings}

/-
  The ids of an index are sorted like the event types that
  have them.
-/
theorem pairwise_keys_index
    (hPlain : ∀ e ∈ f.eventTypes, Key.Plain e.ns) :
    (Table.keys f.index.eventTypes).Pairwise fun k k' =>
      ∀ e ∈ f.eventTypes, ∀ e' ∈ f.eventTypes,
        e.id = k → e'.id = k' → e.le e' := by
  rw [f.index_eventTypes]
  refine List.Pairwise.sublist
    (Table.keys_ofList_sublist _) ?_
  rw [Index.byId, List.map_map, List.pairwise_map]
  have hSorted :=
    List.pairwise_mergeSort EventType.le_trans
      EventType.le_total f.eventTypes
  refine hSorted.imp_of_mem ?_
  intro e e' hMem hMem' hLe g hg g' hg' hId hId'
  have hNs := hPlain e (List.mem_mergeSort.mp hMem)
  have hNs' := hPlain e' (List.mem_mergeSort.mp hMem')
  have hSame :=
    (EventType.id_eq_iff (hPlain g hg) hNs).mp hId
  have hSame' :=
    (EventType.id_eq_iff (hPlain g' hg') hNs').mp hId'
  rw [EventType.le_congr hSame hSame']
  exact hLe

/- The event types of a mesh increase strictly. -/
theorem pairwise_mesh_eventTypes
    (hPlain : ∀ e ∈ f.eventTypes, Key.Plain e.ns) :
    f.mesh.eventTypes.Pairwise EventType.Precedes := by
  have hKeys := pairwise_keys_index hPlain
  have hDistinct := f.nodup_ids
  rw [List.Nodup] at hDistinct
  rw [Table.keys, List.pairwise_map] at hKeys hDistinct
  change (f.index.eventTypes.map _).Pairwise _
  rw [List.pairwise_map]
  refine (hKeys.and hDistinct).imp_of_mem ?_
  rintro ⟨id, e⟩ ⟨id', e'⟩ hMem hMem' ⟨hLe, hNe⟩
  rcases f.of_mem_index_eventTypes hMem with ⟨hId, hFound⟩
  rcases f.of_mem_index_eventTypes hMem' with
    ⟨hId', hFound'⟩
  subst hId hId'
  have hBefore := hLe e hFound e' hFound' rfl rfl
  refine EventType.precedes_of_le hBefore ?_
  intro hSame
  have hIds := EventType.id_eq_iff
    (hPlain e hFound) (hPlain e' hFound')
  exact hNe (hIds.mpr hSame)

/- Under an id stands the last event type listed with it. -/
theorem lookup_index_eventTypes
    (hPlain : ∀ e ∈ f.eventTypes, Key.Plain e.ns)
    {g : EventType}
    (hNs : Key.Plain g.ns) :
    Table.lookup g.id f.index.eventTypes =
      (f.eventTypes.filter (·.isNamesake g)).getLast? := by
  have hFilter :
      f.eventTypes.filter (·.id = g.id) =
        f.eventTypes.filter (·.isNamesake g) := by
    refine List.filter_congr fun e hMem => ?_
    rw [Bool.eq_iff_iff, decide_eq_true_iff]
    exact EventType.id_eq_iff (hPlain e hMem) hNs
  -- All of them are namesakes, so sorting moves none.
  have hSorted :
      (f.eventTypes.filter (·.isNamesake g)).Pairwise
        fun e e' => EventType.le e e' := by
    refine List.pairwise_of_forall_mem_list ?_
    intro e hMem e' hMem'
    have hSame := (List.mem_filter.mp hMem).2
    have hSame' := (List.mem_filter.mp hMem').2
    rw [EventType.le_congr hSame hSame']
    have hTotal := EventType.le_total g g
    rwa [Bool.or_self] at hTotal
  rw [f.index_eventTypes, Table.lookup_ofList, Index.byId,
    List.filter_map, List.getLast?_map, Option.map_map]
  change ((f.eventTypes.mergeSort EventType.le).filter
    (·.id = g.id)).getLast?.map (fun e => e) = _
  rw [EventType.filter_mergeSort_le, hFilter,
    List.mergeSort_of_pairwise hSorted]
  exact Option.map_id'

/- The mesh of findings in plain namespaces is canonical. -/
theorem canonical
    (hPlain : ∀ e ∈ f.eventTypes, Key.Plain e.ns) :
    f.mesh.Canonical f.eventTypes where
  increasing := pairwise_mesh_eventTypes hPlain
  once := by
    rw [List.Nodup, List.pairwise_map]
    refine (pairwise_mesh_eventTypes hPlain).imp ?_
    intro e e' hPrecedes hPair
    rcases Prod.mk.inj hPair with ⟨hNs, hName⟩
    exact EventType.not_isNamesake_of_precedes hPrecedes
      (EventType.isNamesake_iff.mpr ⟨hNs, hName⟩)
  shown := by
    intro ns name
    constructor
    · rintro ⟨e, hMem, hNs, hName⟩
      rcases f.mem_mesh_eventTypes_iff.mp hMem with
        ⟨e₀, hMem₀, hShown⟩
      refine ⟨e₀, (f.of_mem_index_eventTypes hMem₀).2, ?_⟩
      rw [hShown] at hNs hName
      exact ⟨hNs, hName⟩
    · rintro ⟨e₀, hMem₀, hNs, hName⟩
      have hKey : e₀.id ∈ Table.keys f.index.eventTypes :=
        f.mem_keys_index_eventTypes_iff.mpr
          ⟨e₀, hMem₀, rfl⟩
      rcases List.mem_map.mp hKey with
        ⟨⟨id, e⟩, hEntry, hId⟩
      rcases f.of_mem_index_eventTypes hEntry with
        ⟨rfl, hFound⟩
      have hSame := (EventType.id_eq_iff
        (hPlain e hFound) (hPlain e₀ hMem₀)).mp hId
      rw [EventType.isNamesake_iff] at hSame
      refine ⟨_, List.mem_map_of_mem hEntry, ?_⟩
      exact ⟨hSame.1.trans hNs, hSame.2.trans hName⟩
  latest := by
    intro e hMem
    rcases f.mem_mesh_eventTypes_iff.mp hMem with
      ⟨e₀, hMem₀, hShown⟩
    have hFound := (f.of_mem_index_eventTypes hMem₀).2
    have hNs : Key.Plain e.ns := by
      rw [hShown]
      exact hPlain e₀ hFound
    refine ⟨e₀, ?_, ?_⟩
    · rw [← lookup_index_eventTypes hPlain hNs,
        Table.lookup_eq_some_iff f.nodup_ids]
      exact hMem₀
    · rw [hShown]

end Findings

------------------------------------------------------------
-- A Shop That Lists Twice
------------------------------------------------------------

namespace Shop

/- An event type that refers to no provider. -/
def eventType (ns name type : String) : Json :=
  resource ns name [("type", .str type)]

/- The definition of feeds, which declare placed orders. -/
def feeds : Json :=
  .obj
    [("metadata",
       .obj
         [("name", .str "feeds.sources.dev"),
          ("annotations",
            .obj
              [("registry.knative.dev/eventTypes",
                 .str
                   "[\x7b\"type\":\"order.placed\"\x7d]")])]),
     ("spec",
       .obj
         [("group", .str "sources.dev"),
          ("version", .str "v1"),
          ("names",
            .obj
              [("plural", .str "feeds"),
               ("kind", .str "Feed")])])]

/-
  Replies in which orders are listed twice, first as placed
  and last as shipped, and a feed stands beside them.
-/
def relisted : Replies
| .eventTypes =>
    .ok (.arr
      [eventType "shop" "order" "order.placed",
       eventType "lab" "probe" "probe.sent",
       eventType "shop" "order" "order.shipped"])
| .definitions tag =>
    .ok (.arr
      (if tag = ({} : Plan).sourceTag then [feeds] else []))
| .instances _ => .ok (.arr [resource "shop" "feed" []])
| _ => .ok (.arr [])

/- What is shown of event types. -/
def shown (m : Mesh) : List (String × String × String) :=
  m.eventTypes.map fun e => (e.ns, e.name, e.type)

/- The event types that are listed live in plain places. -/
theorem plain_of_relisted
    {es : List EventType}
    (hYields : relisted.answers.Yields .eventTypes
      ({} : Plan).conversion.eventType es) :
    ∀ e ∈ es, Key.Plain e.ns := by
  have hListed :
      ((relisted.converted .eventTypes
        ({} : Plan).conversion.eventType).all
          (·.all fun e => Key.Plain e.ns)) = true := by
    decide +kernel
  rw [Replies.converted_of_yields hYields] at hListed
  simpa using hListed

end Shop

------------------------------------------------------------
-- Built Meshes
------------------------------------------------------------

namespace Plan

variable {σ : Type}

/-
  Whatever a cluster answers, the event types of the mesh
  that a build gives are the canonical form of those that
  were listed, if these live in plain namespaces.
-/
theorem canonical_of_run
    {p : Plan}
    {c : Cluster σ}
    {s : σ}
    {m : Mesh}
    {run : Run σ}
    (hRun : p.run c s = (.ok m, run)) :
    ∃ es,
      (c.Heard s run.requests).Yields .eventTypes
        p.conversion.eventType es ∧
      ((∀ e ∈ es, Key.Plain e.ns) → m.Canonical es) := by
  rcases finds_of_run hRun with ⟨f, hFinds, rfl, _⟩
  exact ⟨f.eventTypes, hFinds.eventTypes,
    Findings.canonical⟩

/- Of orders that are listed twice, the last are shown. -/
theorem relisted_canonical :
    ∃ m run es,
      Plan.run {} (Cluster.ofTable Shop.relisted) () =
        (.ok m, run) ∧
      Shop.shown m =
        [("lab", "probe", "probe.sent"),
         ("shop", "order", "order.shipped")] ∧
      ((Cluster.ofTable Shop.relisted).Heard ()
        run.requests).Yields .eventTypes
          ({} : Plan).conversion.eventType es ∧
      (∀ e ∈ es, Key.Plain e.ns) ∧
      m.Canonical es := by
  have hView :
      (Plan.run {} (Cluster.ofTable Shop.relisted)
          ()).1.toOption.map Shop.shown =
        some
          [("lab", "probe", "probe.sent"),
           ("shop", "order", "order.shipped")] := by
    cbv
  rcases exists_run_of_view hView with
    ⟨m, run, hRun, hShown⟩
  rcases canonical_of_run hRun with
    ⟨es, hYields, hCanonical⟩
  have hSteady := Cluster.steady_ofTable Shop.relisted
  have hPlain := Shop.plain_of_relisted
    (hYields.mono fun _ hHeard =>
      hSteady.answers_of_heard hHeard)
  exact ⟨m, run, es, hRun, hShown, hYields, hPlain,
    hCanonical hPlain⟩

end Plan

end EventTopology
