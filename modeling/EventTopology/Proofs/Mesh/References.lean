import EventTopology.Proofs.Build.Contents
import EventTopology.Proofs.Build.Steady

/-
  This file shows that references are joined exactly: in a
  built mesh a provider provides the event types whose
  references lead to it, in mesh order, and nothing else.

  Key definitions include:
    * `Mesh.referring`
    * `Mesh.allProvided`
    * `Mesh.Joined`

  The main result is:
    * `Plan.joined_of_run`
-/

------------------------------------------------------------
-- Joined Meshes
------------------------------------------------------------

namespace EventTopology

namespace Mesh

/- The ids of the event types that refer to a key. -/
def referring (m : Mesh) (key : String) : List String :=
  (m.eventTypes.filter (·.refersTo key)).map (·.id)

/- What all providers together provide. -/
def allProvided (m : Mesh) : List String :=
  m.brokers.flatMap (·.providedEventTypes) ++
    m.subscribables.flatMap (·.providedEventTypes)

/-
  The references of converted event types are joined with
  the providers of a mesh.
-/
structure Joined
    (es : List EventType)
    (m : Mesh) : Prop where
  brokers : ∀ b ∈ m.brokers,
    b.providedEventTypes = m.referring b.key
  subscribables : ∀ s ∈ m.subscribables,
    s.providedEventTypes = m.referring s.key
  /- No id is provided twice. -/
  once : m.allProvided.Nodup
  /- What refers to no provider is not provided. -/
  dangling : ∀ e ∈ m.eventTypes,
    (∀ r, e.reference = some r →
      r.key ∉ m.providerKeys) →
    e.id ∉ m.allProvided
  /- Only the consumers are added to what was converted. -/
  kept : ∀ e ∈ m.eventTypes, ∃ e₀ ∈ es,
    e = { e₀ with consumedBy := e.consumedBy }
  /- No id is lost. -/
  shown : ∀ e₀ ∈ es, ∃ e ∈ m.eventTypes, e.id = e₀.id

end Mesh

------------------------------------------------------------
-- References and Keys
------------------------------------------------------------

namespace EventType

/- An event type refers to the key of its reference. -/
theorem refersTo_iff
    {e : EventType}
    {key : String} :
    e.refersTo key = true ↔
      ∃ r, e.reference = some r ∧ r.key = key := by
  unfold refersTo
  cases e.reference with
  | none => simp
  | some r => simp

end EventType

namespace Mesh

theorem mem_referring_iff
    {m : Mesh}
    {key id : String} :
    id ∈ m.referring key ↔
      ∃ e ∈ m.eventTypes,
        e.refersTo key = true ∧ e.id = id := by
  simp [referring, and_assoc]

/- With ids of their own, event types are told by them. -/
theorem referring_disjoint
    {m : Mesh}
    {key key' : String}
    (hIds : (m.eventTypes.map (·.id)).Nodup)
    (hNe : key ≠ key') :
    List.Disjoint (m.referring key) (m.referring key') := by
  intro id hMem hMem'
  rcases mem_referring_iff.mp hMem with ⟨e, he, hRef, hId⟩
  rcases mem_referring_iff.mp hMem' with
    ⟨e', he', hRef', hId'⟩
  have hSame : e = e' :=
    List.inj_on_of_nodup_map hIds he he'
      (hId.trans hId'.symm)
  subst hSame
  rcases EventType.refersTo_iff.mp hRef with
    ⟨r, hSome, hKey⟩
  rcases EventType.refersTo_iff.mp hRef' with
    ⟨r', hSome', hKey'⟩
  rw [hSome] at hSome'
  cases hSome'
  exact hNe (hKey.symm.trans hKey')

/- Joined references are provided by key. -/
theorem allProvided_eq
    {m : Mesh}
    (hBrokers : ∀ b ∈ m.brokers,
      b.providedEventTypes = m.referring b.key)
    (hSubs : ∀ s ∈ m.subscribables,
      s.providedEventTypes = m.referring s.key) :
    m.allProvided =
      m.providerKeys.flatMap m.referring := by
  rw [allProvided, providerKeys, List.flatMap_append,
    List.flatMap_map, List.flatMap_map,
    List.flatMap_congr hBrokers, List.flatMap_congr hSubs]

end Mesh

------------------------------------------------------------
-- Findings
------------------------------------------------------------

namespace Findings

variable (f : Findings)

/- Linking refers to event types as the mesh shows them. -/
theorem mesh_referring (key : String) :
    f.mesh.referring key =
      (f.index.eventTypes.filter (·.2.refersTo key)).map
        (·.1) := by
  simp only [Mesh.referring, mesh, Mesh.ofIndex,
    List.filter_map, List.map_map]
  refine List.map_congr_left fun entry hMem => ?_
  have hEntry := List.mem_of_mem_filter hMem
  exact (f.of_mem_index_eventTypes hEntry).1.symm

theorem mesh_brokers_provided :
    ∀ b ∈ f.mesh.brokers,
      b.providedEventTypes = f.mesh.referring b.key := by
  intro b hMem
  rcases List.mem_map.mp hMem with ⟨b₀, hMem₀, rfl⟩
  rw [mesh_referring]
  refine f.pushed_provided ?_
  exact List.mem_append_left _
    (List.mem_map_of_mem hMem₀)

theorem mesh_subscribables_provided :
    ∀ s ∈ f.mesh.subscribables,
      s.providedEventTypes = f.mesh.referring s.key := by
  intro s hMem
  rcases List.mem_map.mp hMem with ⟨s₀, hMem₀, rfl⟩
  rw [mesh_referring]
  refine f.pushed_provided ?_
  exact List.mem_append_right _
    (List.mem_map_of_mem hMem₀)

/- No two event types of a mesh have one id. -/
theorem nodup_mesh_ids :
    (f.mesh.eventTypes.map (·.id)).Nodup := by
  have hIds :
      f.mesh.eventTypes.map (·.id) =
        Table.keys f.index.eventTypes := by
    simp only [mesh, Mesh.ofIndex, List.map_map]
    refine List.map_congr_left fun entry hMem => ?_
    exact (f.of_mem_index_eventTypes hMem).1.symm
  rw [hIds]
  exact f.nodup_ids

theorem nodup_allProvided : f.mesh.allProvided.Nodup := by
  rw [Mesh.allProvided_eq f.mesh_brokers_provided
    f.mesh_subscribables_provided, List.nodup_flatMap]
  have hKeys : f.mesh.providerKeys.Nodup := by
    rw [mesh_providerKeys]
    exact f.nodup_providerKeys
  constructor
  · intro key _
    exact f.nodup_mesh_ids.sublist
      (List.filter_sublist.map _)
  · exact hKeys.imp fun hNe =>
      Mesh.referring_disjoint f.nodup_mesh_ids hNe

/- What refers to no provider is provided by none. -/
theorem not_mem_allProvided
    {e : EventType}
    (hMem : e ∈ f.mesh.eventTypes)
    (hNone : ∀ r, e.reference = some r →
      r.key ∉ f.mesh.providerKeys) :
    e.id ∉ f.mesh.allProvided := by
  rw [Mesh.allProvided_eq f.mesh_brokers_provided
    f.mesh_subscribables_provided]
  intro hProvided
  rcases List.mem_flatMap.mp hProvided with
    ⟨key, hKey, hReferring⟩
  rcases Mesh.mem_referring_iff.mp hReferring with
    ⟨e', hMem', hRef, hId⟩
  have hSame : e' = e :=
    List.inj_on_of_nodup_map f.nodup_mesh_ids hMem' hMem hId
  subst hSame
  rcases EventType.refersTo_iff.mp hRef with ⟨r, hSome, rfl⟩
  exact hNone r hSome hKey

/- The mesh of findings is joined. -/
theorem joined : f.mesh.Joined f.eventTypes where
  brokers := f.mesh_brokers_provided
  subscribables := f.mesh_subscribables_provided
  once := f.nodup_allProvided
  dangling _ hMem hNone := f.not_mem_allProvided hMem hNone
  kept := by
    intro e hMem
    rcases f.mem_mesh_eventTypes_iff.mp hMem with
      ⟨e₀, hMem₀, hShown⟩
    refine ⟨e₀, (f.of_mem_index_eventTypes hMem₀).2, ?_⟩
    rw [hShown]
  shown := by
    intro e₀ hMem₀
    have hKey : e₀.id ∈ Table.keys f.index.eventTypes :=
      f.mem_keys_index_eventTypes_iff.mpr ⟨e₀, hMem₀, rfl⟩
    rcases List.mem_map.mp hKey with ⟨entry, hEntry, hId⟩
    refine ⟨_, List.mem_map_of_mem hEntry, ?_⟩
    rw [← hId]
    exact (f.of_mem_index_eventTypes hEntry).1.symm

end Findings

------------------------------------------------------------
-- Built Meshes
------------------------------------------------------------

namespace Plan

variable {σ : Type}

/-
  Whatever a cluster answers, the mesh that a build gives is
  joined with the event types that were listed.
-/
theorem joined_of_run
    {p : Plan}
    {c : Cluster σ}
    {s : σ}
    {m : Mesh}
    {run : Run σ}
    (hRun : p.run c s = (.ok m, run)) :
    ∃ es,
      (c.Heard s run.requests).Yields .eventTypes
        p.conversion.eventType es ∧
      m.Joined es := by
  rcases finds_of_run hRun with ⟨f, hFinds, rfl, _⟩
  exact ⟨f.eventTypes, hFinds.eventTypes, f.joined⟩

/- Orders are joined with the broker of the shop. -/
theorem shop_joined :
    ∃ m run,
      Plan.run {}
          (Cluster.ofTable (Shop.replies Shop.known [] []))
          () = (.ok m, run) ∧
      Shop.view m =
        [["shop/order"], ["billing", "audit"]] ∧
      ∃ es,
        ((Cluster.ofTable
            (Shop.replies Shop.known [] [])).Heard ()
          run.requests).Yields .eventTypes
            (Conversion.eventType {}) es ∧
        m.Joined es := by
  rcases Shop.exists_run with ⟨m, run, hRun, hShown⟩
  have hJoined := joined_of_run hRun
  exact ⟨m, run, hRun, hShown, hJoined⟩

end Plan

end EventTopology
