import EventTopology.Proofs.Build.Findings
import EventTopology.Proofs.Index.Linking

/-
  This file says what the index and the mesh of findings
  hold: one equation for each list and each lookup, so that
  nothing later need look at how an index is filled.

  The main results are:
    * `Findings.index_brokers`
    * `Findings.index_subscribables`
    * `Findings.index_eventTypes`
    * `Findings.pushed_provided`
    * `Findings.pushed_byType`
    * `Findings.consumedBy_eq_pushed`
    * `Plan.Finds.exists_instance`
-/

------------------------------------------------------------
-- Indices of Findings
------------------------------------------------------------

namespace EventTopology

namespace Findings

variable (f : Findings)

/- Linking and event types change nothing else. -/
private theorem index_eq :
    ∃ provided, f.index =
      { f.providers.addEventTypes f.eventTypes with
        provided := provided } :=
  Index.linkAll_fst _ _

private theorem providers_eq :
    f.providers =
      { brokers := Index.unclaimed Broker.key [] f.brokers
        subscribables :=
          Index.unclaimed Subscribable.key
            ((Index.unclaimed Broker.key [] f.brokers).map
              (·.key))
            f.subscribables } := by
  rw [providers, Index.foldl_addSubscribable,
    Index.foldl_addBroker]
  simp [Index.providerKeys]

/- The brokers are the first ones of their keys. -/
theorem index_brokers :
    f.index.brokers =
      Index.unclaimed Broker.key [] f.brokers := by
  rcases f.index_eq with ⟨provided, hIndex⟩
  rw [hIndex]
  change (f.providers.addEventTypes _).brokers = _
  rw [(Index.addEventTypes_providers _ _).1, providers_eq]

/- The subscribables have keys that no broker has. -/
theorem index_subscribables :
    f.index.subscribables =
      Index.unclaimed Subscribable.key
        (f.index.brokers.map (·.key)) f.subscribables := by
  rw [index_brokers]
  rcases f.index_eq with ⟨provided, hIndex⟩
  rw [hIndex]
  change (f.providers.addEventTypes _).subscribables = _
  rw [(Index.addEventTypes_providers _ _).2.1, providers_eq]

/- No two providers have one key. -/
theorem nodup_providerKeys :
    f.index.providerKeys.Nodup := by
  have hKeys :=
    Index.nodup_providerKeys_foldl f.brokers f.subscribables
  rw [Index.providerKeys, index_subscribables,
    index_brokers]
  rw [← providers, providers_eq] at hKeys
  exact hKeys

/- The event types are a table filled in mesh order. -/
theorem index_eventTypes :
    f.index.eventTypes =
      Table.ofList
        (Index.byId
          (f.eventTypes.mergeSort EventType.le)) := by
  rw [index, Index.link_eventTypes,
    Index.addEventTypes_eventTypes _ (by rw [providers_eq])]

/- What is filed under a namespace and a type. -/
theorem pushed_byType (key : String) :
    Table.pushed key f.index.byType =
      ((f.eventTypes.mergeSort EventType.le).filter
        (·.typeKey = key)).map (·.id) := by
  rcases f.index_eq with ⟨provided, hIndex⟩
  rw [hIndex]
  exact Index.pushed_addEventTypes_byType _
    (by rw [providers_eq]) key

/- No two event types have one id. -/
theorem nodup_ids :
    (Table.keys f.index.eventTypes).Nodup := by
  rw [index_eventTypes]
  exact Table.nodup_keys_ofList _

/- Event types stand under their ids, as they were found. -/
theorem of_mem_index_eventTypes
    {id : String}
    {e : EventType}
    (hMem : (id, e) ∈ f.index.eventTypes) :
    id = e.id ∧ e ∈ f.eventTypes := by
  rw [index_eventTypes] at hMem
  have hFound := Table.mem_of_mem_ofList hMem
  rcases List.mem_map.mp hFound with ⟨e', he', hPair⟩
  cases hPair
  exact ⟨rfl, List.mem_mergeSort.mp he'⟩

/- The ids of found event types, and no others, are shown. -/
theorem mem_keys_index_eventTypes_iff
    {id : String} :
    id ∈ Table.keys f.index.eventTypes ↔
      ∃ e ∈ f.eventTypes, e.id = id := by
  rw [index_eventTypes, Table.mem_keys_ofList_iff]
  simp [Index.byId]

/- A provider provides the event types referring to it. -/
theorem pushed_provided
    {key : String}
    (hHas : key ∈ f.index.providerKeys) :
    Table.pushed key f.index.provided =
      (f.index.eventTypes.filter (·.2.refersTo key)).map
        (·.1) := by
  have hProvided :
      (f.providers.addEventTypes f.eventTypes).provided =
        [] := by
    rw [(Index.addEventTypes_providers _ _).2.2,
      providers_eq]
  have hHas' :
      (f.providers.addEventTypes
        f.eventTypes).hasProvider key = true := by
    rcases f.index_eq with ⟨provided, hIndex⟩
    rw [hIndex] at hHas
    exact decide_eq_true hHas
  rw [index, Index.link_eventTypes, Index.link,
    Index.pushed_linkAll _ _ key hHas', hProvided]
  rfl

end Findings

------------------------------------------------------------
-- Meshes of Findings
------------------------------------------------------------

namespace Findings

variable (f : Findings)

/- A mesh has the providers of its index. -/
theorem mesh_providerKeys :
    f.mesh.providerKeys = f.index.providerKeys := by
  simp only [Mesh.providerKeys, Index.providerKeys, mesh,
    Mesh.ofIndex, List.map_map]
  rfl

/-
  The event types of a mesh are those of its index with
  their consumers.
-/
theorem mem_mesh_eventTypes_iff
    {e : EventType} :
    e ∈ f.mesh.eventTypes ↔
      ∃ e₀, (e.id, e₀) ∈ f.index.eventTypes ∧
        e = { e₀ with
          consumedBy := Table.pushed e.id f.consumed } := by
  simp only [mesh, Mesh.ofIndex, List.mem_map]
  constructor
  · rintro ⟨⟨id, e₀⟩, hMem, rfl⟩
    have hId : id = e₀.id :=
      (f.of_mem_index_eventTypes hMem).1
    subst hId
    exact ⟨e₀, hMem, rfl⟩
  · rintro ⟨e₀, hMem, hShown⟩
    exact ⟨(e.id, e₀), hMem, hShown.symm⟩

/- Consumers of an event type are filed under its id. -/
theorem consumedBy_eq_pushed
    {e : EventType}
    (hMem : e ∈ f.mesh.eventTypes) :
    e.consumedBy = Table.pushed e.id f.consumed := by
  rcases f.mem_mesh_eventTypes_iff.mp hMem with
    ⟨e₀, _, hShown⟩
  exact congrArg EventType.consumedBy hShown

end Findings

/- A source of a mesh is an instance of a readable kind. -/
theorem Plan.Finds.exists_instance
    {p : Plan}
    {answers : Answers}
    {f : Findings}
    {s : Source}
    (hFinds : p.Finds answers f)
    (hMem : s ∈ f.mesh.sources) :
    ∃ coords declared found s₀,
      answers.Yields (.instances coords)
        (p.conversion.source coords (.ofTexts declared))
        found ∧
      s₀ ∈ found ∧ s = f.index.matched s₀ := by
  rcases List.mem_flatMap.mp hMem with ⟨part, hPart, hIn⟩
  rcases hFinds.sources with ⟨kinds, _, hParts⟩
  rcases hParts.exists_left_of_mem hPart with
    ⟨coords, _, hFound⟩
  unfold FindsSourcesOf at hFound
  cases hDeclared : p.conversion.declaredTypes coords with
  | error e =>
      rw [hDeclared] at hFound
      subst hFound
      cases hIn
  | ok declared =>
      rw [hDeclared] at hFound
      rcases hFound with ⟨found, hYields, rfl⟩
      rcases List.mem_map.mp hIn with ⟨s₀, hMem₀, rfl⟩
      exact ⟨coords, declared, found, s₀, hYields, hMem₀,
        rfl⟩

end EventTopology
