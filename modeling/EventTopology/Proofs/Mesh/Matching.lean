import EventTopology.Proofs.Mesh.Canonical
import EventTopology.Proofs.Mesh.References

/-
  This file says which event types a source is matched with:
  those beside it that were listed, at any time, with a type
  that its kind declares.  A listing that gives an event type
  twice, with two types, leaves both of them behind, so the
  type that a mesh shows need not be the one that matched.

  Key definitions include:
    * `Mesh.Matched`

  The main results are:
    * `Findings.mem_matching_iff`
    * `Plan.matched_of_run`
    * `Plan.relisted_disagrees`
-/

------------------------------------------------------------
-- Matching by Listed Types
------------------------------------------------------------

namespace EventTopology

/- Leaving out repetitions leaves out no text. -/
theorem Index.mem_firsts_iff
    {s : String}
    {ss : List String} :
    s ∈ Index.firsts ss ↔ s ∈ ss := by
  induction ss with
  | nil => exact Iff.rfl
  | cons t ss ih =>
      by_cases h : s = t
      · simp [firsts, h]
      · simp [firsts, h, ih]

namespace Findings

/-
  Matched are the ids of all event types that were listed
  with the namespace and one of the declared types.
-/
theorem mem_matching_iff
    (f : Findings)
    {id ns : String}
    {declared : List String} :
    id ∈ f.index.matching ns declared ↔
      ∃ e₀ ∈ f.eventTypes, e₀.id = id ∧
        ∃ type ∈ declared,
          e₀.typeKey = Key.namespaced ns type := by
  rw [Index.matching, Index.mem_firsts_iff,
    List.mem_flatMap]
  constructor
  · rintro ⟨type, hType, hFiled⟩
    rw [f.pushed_byType] at hFiled
    rcases List.mem_map.mp hFiled with ⟨e₀, hMem, hId⟩
    rcases List.mem_filter.mp hMem with ⟨hListed, hKey⟩
    exact ⟨e₀, List.mem_mergeSort.mp hListed, hId, type,
      hType, of_decide_eq_true hKey⟩
  · rintro ⟨e₀, hListed, hId, type, hType, hKey⟩
    refine ⟨type, hType, ?_⟩
    rw [f.pushed_byType]
    refine List.mem_map.mpr ⟨e₀, ?_, hId⟩
    exact List.mem_filter.mpr
      ⟨List.mem_mergeSort.mpr hListed,
        decide_eq_true hKey⟩

/- In plain namespaces, keys tell what matched. -/
theorem mem_matching_iff_of_plain
    {f : Findings}
    {e : EventType}
    {ns : String}
    {declared : List String}
    (hPlain : ∀ e₀ ∈ f.eventTypes, Key.Plain e₀.ns)
    (hNs : Key.Plain ns)
    (hMem : e ∈ f.mesh.eventTypes) :
    e.id ∈ f.index.matching ns declared ↔
      e.ns = ns ∧ ∃ e₀ ∈ f.eventTypes,
        e₀.isNamesake e = true ∧ e₀.type ∈ declared := by
  have hShown : Key.Plain e.ns := by
    rcases f.joined.kept e hMem with ⟨e₀, hListed, hEq⟩
    rw [hEq]
    exact hPlain e₀ hListed
  rw [f.mem_matching_iff]
  constructor
  · rintro ⟨e₀, hListed, hId, type, hType, hKey⟩
    have hSame :=
      (EventType.id_eq_iff (hPlain e₀ hListed) hShown).mp
        hId
    rcases Key.namespaced_inj (hPlain e₀ hListed) hNs hKey
      with ⟨hHere, rfl⟩
    have hBeside := (EventType.isNamesake_iff.mp hSame).1
    exact ⟨hBeside.symm.trans hHere, e₀, hListed, hSame,
      hType⟩
  · rintro ⟨rfl, e₀, hListed, hSame, hType⟩
    have hBeside := (EventType.isNamesake_iff.mp hSame).1
    refine ⟨e₀, hListed, ?_, e₀.type, hType, ?_⟩
    · exact (EventType.id_eq_iff (hPlain e₀ hListed)
        hShown).mpr hSame
    · rw [EventType.typeKey, hBeside]

end Findings

------------------------------------------------------------
-- Matched Meshes
------------------------------------------------------------

/- The sources of a mesh are matched with listed types. -/
structure Mesh.Matched
    (es : List EventType)
    (m : Mesh) : Prop where
  /- What counts are the types that were listed. -/
  listed : ∀ s ∈ m.sources, ∀ e ∈ m.eventTypes,
    Key.Plain s.ns →
      (e.id ∈ s.providedEventTypes ↔
        e.ns = s.ns ∧ ∃ e₀ ∈ es,
          e₀.isNamesake e = true ∧
            e₀.type ∈ s.declaredTypes)
  /-
    Where namesakes are listed with one type, it is the type
    that the mesh shows.
  -/
  shown :
    (∀ e ∈ es, ∀ e' ∈ es,
      e.isNamesake e' = true → e.type = e'.type) →
    ∀ s ∈ m.sources, ∀ e ∈ m.eventTypes,
      Key.Plain s.ns →
        (e.id ∈ s.providedEventTypes ↔
          e.ns = s.ns ∧ e.type ∈ s.declaredTypes)

/- A source of a mesh has been matched with its index. -/
theorem Plan.Finds.matching_of_mem
    {p : Plan}
    {answers : Answers}
    {f : Findings}
    {s : Source}
    (hFinds : p.Finds answers f)
    (hMem : s ∈ f.mesh.sources) :
    s.providedEventTypes =
      f.index.matching s.ns s.declaredTypes := by
  rcases hFinds.exists_instance hMem with
    ⟨_, _, _, s₀, _, _, rfl⟩
  rfl

/- The mesh of findings in plain namespaces is matched. -/
theorem Plan.Finds.matched
    {p : Plan}
    {answers : Answers}
    {f : Findings}
    (hFinds : p.Finds answers f)
    (hPlain : ∀ e ∈ f.eventTypes, Key.Plain e.ns) :
    f.mesh.Matched f.eventTypes := by
  have hListed : ∀ s ∈ f.mesh.sources,
      ∀ e ∈ f.mesh.eventTypes, Key.Plain s.ns →
        (e.id ∈ s.providedEventTypes ↔
          e.ns = s.ns ∧ ∃ e₀ ∈ f.eventTypes,
            e₀.isNamesake e = true ∧
              e₀.type ∈ s.declaredTypes) := by
    intro s hSource e hMem hNs
    rw [hFinds.matching_of_mem hSource]
    exact Findings.mem_matching_iff_of_plain hPlain hNs hMem
  constructor
  · exact hListed
  · intro hOneType s hSource e hMem hNs
    rw [hListed s hSource e hMem hNs]
    rcases f.joined.kept e hMem with ⟨g, hg, hEq⟩
    have hSelf : g.isNamesake e = true := by
      rw [hEq]
      exact EventType.isNamesake_iff.mpr ⟨rfl, rfl⟩
    have hType : g.type = e.type := by rw [hEq]
    refine and_congr_right fun _ => ?_
    constructor
    · rintro ⟨e₀, he₀, hSame, hDeclared⟩
      rw [EventType.isNamesake_iff] at hSame hSelf
      have hTypes := hOneType e₀ he₀ g hg
        (EventType.isNamesake_iff.mpr
          ⟨hSame.1.trans hSelf.1.symm,
            hSame.2.trans hSelf.2.symm⟩)
      rw [← hType, ← hTypes]
      exact hDeclared
    · intro hDeclared
      rw [← hType] at hDeclared
      exact ⟨g, hg, hSelf, hDeclared⟩

------------------------------------------------------------
-- Built Meshes
------------------------------------------------------------

namespace Plan

variable {σ : Type}

/-
  Whatever a cluster answers, the sources of the mesh that a
  build gives are matched with the types that were listed.
-/
theorem matched_of_run
    {p : Plan}
    {c : Cluster σ}
    {s : σ}
    {m : Mesh}
    {run : Run σ}
    (hRun : p.run c s = (.ok m, run)) :
    ∃ es,
      (c.Heard s run.requests).Yields .eventTypes
        p.conversion.eventType es ∧
      ((∀ e ∈ es, Key.Plain e.ns) → m.Matched es) := by
  rcases finds_of_run hRun with ⟨f, hFinds, rfl, _⟩
  exact ⟨f.eventTypes, hFinds.eventTypes, hFinds.matched⟩

end Plan

/- What is shown of sources. -/
def Shop.matches (m : Mesh) :
    List (String × List String × List String) :=
  m.sources.map fun s =>
    (s.ns, s.declaredTypes, s.providedEventTypes)

namespace Plan

/- The feed is matched with orders that once were placed. -/
theorem relisted_matched :
    ∃ m run es,
      Plan.run {} (Cluster.ofTable Shop.relisted) () =
        (.ok m, run) ∧
      Shop.matches m =
        [("shop", ["order.placed"], ["shop/order"])] ∧
      ((Cluster.ofTable Shop.relisted).Heard ()
        run.requests).Yields .eventTypes
          ({} : Plan).conversion.eventType es ∧
      (∀ e ∈ es, Key.Plain e.ns) ∧
      m.Matched es := by
  have hView :
      (Plan.run {} (Cluster.ofTable Shop.relisted)
          ()).1.toOption.map Shop.matches =
        some
          [("shop", ["order.placed"], ["shop/order"])] := by
    cbv
  rcases exists_run_of_view hView with
    ⟨m, run, hRun, hShown⟩
  rcases matched_of_run hRun with ⟨es, hYields, hMatched⟩
  have hSteady := Cluster.steady_ofTable Shop.relisted
  have hPlain := Shop.plain_of_relisted
    (hYields.mono fun _ hHeard =>
      hSteady.answers_of_heard hHeard)
  exact ⟨m, run, es, hRun, hShown, hYields, hPlain,
    hMatched hPlain⟩

/-
  The feed declares placed orders and is matched with an
  event type that the mesh shows as shipped.
-/
theorem relisted_disagrees :
    ∃ m run,
      Plan.run {} (Cluster.ofTable Shop.relisted) () =
        (.ok m, run) ∧
      (∀ s ∈ m.sources, Key.Plain s.ns) ∧
      (∀ e ∈ m.eventTypes, Key.Plain e.ns) ∧
      ¬ ∀ s ∈ m.sources, ∀ e ∈ m.eventTypes,
        (e.id ∈ s.providedEventTypes ↔
          e.ns = s.ns ∧ e.type ∈ s.declaredTypes) := by
  have hView :
      (Plan.run {} (Cluster.ofTable Shop.relisted)
          ()).1.toOption.map
            (fun m => (Shop.shown m, Shop.matches m)) =
        some
          ([("lab", "probe", "probe.sent"),
            ("shop", "order", "order.shipped")],
           [("shop", ["order.placed"],
             ["shop/order"])]) := by
    cbv
  rcases exists_run_of_view hView with ⟨m, run, hRun, hBoth⟩
  rcases Prod.mk.inj hBoth with ⟨hShown, hMatches⟩
  refine ⟨m, run, hRun, ?_, ?_, ?_⟩
  · intro s hMem
    have hIn : _ ∈ Shop.matches m := List.mem_map_of_mem hMem
    rw [hMatches, List.mem_singleton] at hIn
    rw [(Prod.mk.inj hIn).1]
    decide
  · intro e hMem
    have hIn : _ ∈ Shop.shown m := List.mem_map_of_mem hMem
    rw [hShown, List.mem_pair] at hIn
    rcases hIn with hProbe | hOrder
    · rw [(Prod.mk.inj hProbe).1]
      decide
    · rw [(Prod.mk.inj hOrder).1]
      decide
  · intro hAgrees
    have hFeed : ("shop", ["order.placed"], ["shop/order"]) ∈
        Shop.matches m := by
      rw [hMatches]
      exact List.mem_singleton_self _
    have hOrder : ("shop", "order", "order.shipped") ∈
        Shop.shown m := by
      rw [hShown]
      exact List.mem_pair.mpr (Or.inr rfl)
    rcases List.mem_map.mp hFeed with ⟨s, hSource, hView⟩
    rcases List.mem_map.mp hOrder with ⟨e, hMem, hView'⟩
    simp only [Prod.mk.injEq] at hView hView'
    rcases hView with ⟨_, hDeclared, hProvided⟩
    rcases hView' with ⟨hNs, hName, hType⟩
    have hMatch := hAgrees s hSource e hMem
    rw [EventType.id, hNs, hName, hProvided, hType,
      hDeclared] at hMatch
    have hDeclares := (hMatch.mp (by decide +kernel)).2
    exact absurd hDeclares (by decide)

end Plan

end EventTopology
