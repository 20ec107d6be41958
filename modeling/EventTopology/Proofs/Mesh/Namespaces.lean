import EventTopology.Proofs.Index.Sorting
import EventTopology.Proofs.Key
import EventTopology.Proofs.Mesh.Carrying
import EventTopology.Proofs.Mesh.References

/-
  This file describes the part of a mesh that lives in one
  namespace, for findings in which names have no slashes.
  That part is made from the findings of the namespace
  alone: no key of another namespace gets in the way.

  Key definitions include:
    * `Findings.Orderly`
    * `Index.keysIn`
    * `Mesh.within`

  The main results are:
    * `Findings.index_brokers_in`
    * `Findings.index_subscribables_in`
    * `Findings.index_eventTypes_in`
    * `Findings.index_matching_in`
    * `Findings.mesh_carries_iff_in`
-/

------------------------------------------------------------
-- Orderly Findings
------------------------------------------------------------

namespace EventTopology

/-
  Providers have plain names, event types live in plain
  namespaces, and what these and the subscriptions refer to
  is sought in their own namespace.  References and targets
  need not be plain.
-/
structure Findings.Orderly (f : Findings) : Prop where
  brokers : ∀ b ∈ f.brokers,
    Key.Plain b.ns ∧ Key.Plain b.name
  subscribables : ∀ s ∈ f.subscribables,
    Key.Plain s.group ∧ Key.Plain s.kind ∧
      Key.Plain s.ns ∧ Key.Plain s.name
  eventTypes : ∀ e ∈ f.eventTypes, Key.Plain e.ns
  references : ∀ e ∈ f.eventTypes, ∀ r,
    e.reference = some r → r.ns = e.ns
  targets : ∀ s ∈ f.subscriptions, ∀ key,
    s.target = some key → ∃ group kind name,
      key = Key.qualified group kind s.ns name

/- The keys of the providers of one namespace. -/
def Index.keysIn (n : String) (x : Index) : List String :=
  (x.brokers.filter (·.ns = n)).map (·.key) ++
    (x.subscribables.filter (·.ns = n)).map (·.key)

/- The part of a mesh that lives in a namespace. -/
def Mesh.within (n : String) (m : Mesh) : Mesh where
  brokers := m.brokers.filter (·.ns = n)
  eventTypes := m.eventTypes.filter (·.ns = n)
  subscribables := m.subscribables.filter (·.ns = n)
  sources := m.sources.filter (·.ns = n)

------------------------------------------------------------
-- Keys and Namespaces
------------------------------------------------------------

namespace Findings

variable {f : Findings}

/- The key of a plain broker tells its namespace. -/
theorem Orderly.ns_of_broker_key
    (hOrderly : f.Orderly)
    {b : Broker}
    {group kind ns name : String}
    (hMem : b ∈ f.brokers)
    (hKey : b.key = Key.qualified group kind ns name) :
    b.ns = ns := by
  rcases hOrderly.brokers b hMem with ⟨hNs, hName⟩
  have hGroup : Key.Plain Broker.apiGroup := by decide
  have hKind : Key.Plain Broker.apiKind := by decide
  exact (Key.qualified_inj hGroup hKind hNs hName
    hKey).2.2.1

theorem Orderly.ns_of_subscribable_key
    (hOrderly : f.Orderly)
    {s : Subscribable}
    {group kind ns name : String}
    (hMem : s ∈ f.subscribables)
    (hKey : s.key = Key.qualified group kind ns name) :
    s.ns = ns := by
  rcases hOrderly.subscribables s hMem with
    ⟨hGroup, hKind, hNs, hName⟩
  exact (Key.qualified_inj hGroup hKind hNs hName
    hKey).2.2.1

theorem mem_brokers_of_index
    {b : Broker}
    (hMem : b ∈ f.index.brokers) :
    b ∈ f.brokers := by
  rw [f.index_brokers] at hMem
  exact Index.mem_of_mem_unclaimed hMem

theorem mem_subscribables_of_index
    {s : Subscribable}
    (hMem : s ∈ f.index.subscribables) :
    s ∈ f.subscribables := by
  rw [f.index_subscribables] at hMem
  exact Index.mem_of_mem_unclaimed hMem

/- A provider is sought in its own namespace alone. -/
theorem Orderly.mem_providerKeys_iff
    (hOrderly : f.Orderly)
    (group kind ns name : String) :
    Key.qualified group kind ns name ∈
        f.index.providerKeys ↔
      Key.qualified group kind ns name ∈
        f.index.keysIn ns := by
  rw [Index.providerKeys, Index.keysIn, List.mem_append,
    List.mem_append]
  constructor
  · rintro (hBroker | hSubscribable)
    · rcases List.mem_map.mp hBroker with ⟨b, hMem, hKey⟩
      have hNs := hOrderly.ns_of_broker_key
        (mem_brokers_of_index hMem) hKey
      exact .inl (List.mem_map.mpr ⟨b,
        List.mem_filter.mpr ⟨hMem, by simp [hNs]⟩, hKey⟩)
    · rcases List.mem_map.mp hSubscribable with
        ⟨s, hMem, hKey⟩
      have hNs := hOrderly.ns_of_subscribable_key
        (mem_subscribables_of_index hMem) hKey
      exact .inr (List.mem_map.mpr ⟨s,
        List.mem_filter.mpr ⟨hMem, by simp [hNs]⟩, hKey⟩)
  · exact Or.imp
      (fun hMem => (List.filter_sublist.map _).subset hMem)
      (fun hMem => (List.filter_sublist.map _).subset hMem)

/- The key of a provider leads to no other namespace. -/
theorem Orderly.eq_of_mem_keysIn
    (hOrderly : f.Orderly)
    {n group kind ns name : String}
    (hMem : Key.qualified group kind ns name ∈
      f.index.keysIn n) :
    ns = n := by
  rcases List.mem_append.mp hMem with
    hBroker | hSubscribable
  · rcases List.mem_map.mp hBroker with ⟨b, hMem, hKey⟩
    rcases List.mem_filter.mp hMem with ⟨hMem, hNs⟩
    have hSame := hOrderly.ns_of_broker_key
      (mem_brokers_of_index hMem) hKey
    exact hSame.symm.trans (of_decide_eq_true hNs)
  · rcases List.mem_map.mp hSubscribable with
      ⟨s, hMem, hKey⟩
    rcases List.mem_filter.mp hMem with ⟨hMem, hNs⟩
    have hSame := hOrderly.ns_of_subscribable_key
      (mem_subscribables_of_index hMem) hKey
    exact hSame.symm.trans (of_decide_eq_true hNs)

/- What an event type refers to is sought beside it. -/
theorem Orderly.key_of_refersTo
    (hOrderly : f.Orderly)
    {e : EventType}
    {key : String}
    (hMem : e ∈ f.eventTypes)
    (hRef : e.refersTo key = true) :
    ∃ group kind name,
      key = Key.qualified group kind e.ns name := by
  rcases EventType.refersTo_iff.mp hRef with
    ⟨r, hSome, rfl⟩
  have hNs := hOrderly.references e hMem r hSome
  exact ⟨r.group, r.kind, r.name, by rw [← hNs]; rfl⟩

end Findings

------------------------------------------------------------
-- Indices Within a Namespace
------------------------------------------------------------

namespace Findings

variable {f : Findings}

theorem index_brokers_in
    (hOrderly : f.Orderly)
    (n : String) :
    f.index.brokers.filter (·.ns = n) =
      Index.unclaimed Broker.key []
        (f.brokers.filter (·.ns = n)) := by
  rw [f.index_brokers]
  apply Index.filter_unclaimed
  · intro _ _ _
    exact Iff.rfl
  · intro b hb b' hb' hNs hKey
    have hSame := hOrderly.ns_of_broker_key hb' hKey.symm
    simpa [hSame] using hNs

theorem index_subscribables_in
    (hOrderly : f.Orderly)
    (n : String) :
    f.index.subscribables.filter (·.ns = n) =
      Index.unclaimed Subscribable.key
        ((f.index.brokers.filter (·.ns = n)).map (·.key))
        (f.subscribables.filter (·.ns = n)) := by
  rw [f.index_subscribables]
  apply Index.filter_unclaimed
  · intro s hs hNs
    have hHere : s.ns = n := of_decide_eq_true hNs
    constructor
    · intro hTaken
      rcases List.mem_map.mp hTaken with ⟨b, hb, hKey⟩
      have hSame := hOrderly.ns_of_broker_key
        (mem_brokers_of_index hb) hKey
      exact List.mem_map.mpr ⟨b,
        List.mem_filter.mpr
          ⟨hb, by simp [hSame, hHere]⟩, hKey⟩
    · exact fun hTaken =>
        (List.filter_sublist.map _).subset hTaken
  · intro s hs s' hs' hNs hKey
    have hSame :=
      hOrderly.ns_of_subscribable_key hs' hKey.symm
    simpa [hSame] using hNs

theorem index_eventTypes_in
    (hOrderly : f.Orderly)
    (n : String) :
    f.index.eventTypes.filter (·.2.ns = n) =
      Table.ofList (Index.byId
        ((f.eventTypes.filter (·.ns = n)).mergeSort
          EventType.le)) := by
  rw [f.index_eventTypes, Table.filter_ofList,
    ← EventType.filter_mergeSort_le, Index.byId,
    List.filter_map]
  · rfl
  · -- One id cannot be shared by two namespaces.
    intro id e e' hMem hMem'
    rcases List.mem_map.mp hMem with ⟨_, he, hPair⟩
    rcases List.mem_map.mp hMem' with ⟨_, he', hPair'⟩
    cases hPair
    rcases Prod.mk.inj hPair' with ⟨hId, rfl⟩
    have hNs := hOrderly.eventTypes _
      (List.mem_mergeSort.mp he)
    have hNs' := hOrderly.eventTypes _
      (List.mem_mergeSort.mp he')
    have hSame := (Key.namespaced_inj hNs' hNs hId).1
    simp [hSame]

/- Sources are matched to event types beside them. -/
theorem index_matching_in
    (hOrderly : f.Orderly)
    {n : String}
    (hName : Key.Plain n)
    (declared : List String) :
    f.index.matching n declared =
      Index.firsts (declared.flatMap fun type =>
        (((f.eventTypes.filter (·.ns = n)).mergeSort
          EventType.le).filter
            (·.typeKey = Key.namespaced n type)).map
              (·.id)) := by
  unfold Index.matching
  refine congrArg Index.firsts ?_
  refine List.flatMap_congr fun type _ => ?_
  rw [f.pushed_byType, ← EventType.filter_mergeSort_le,
    List.filter_filter]
  refine congrArg _ (List.filter_congr fun e he => ?_)
  have hNs := hOrderly.eventTypes e
    (List.mem_mergeSort.mp he)
  by_cases hKey : e.typeKey = Key.namespaced n type
  · have hSame := (Key.namespaced_inj hNs hName hKey).1
    simp [hKey, hSame]
  · simp [hKey]

end Findings

------------------------------------------------------------
-- Meshes Within a Namespace
------------------------------------------------------------

namespace Findings

variable {f : Findings}

/- Event types of a mesh are found, but for consumers. -/
theorem mem_eventTypes_of_mesh
    {e : EventType}
    (hMem : e ∈ f.mesh.eventTypes) :
    ∃ e₀ ∈ f.eventTypes,
      e = { e₀ with consumedBy := e.consumedBy } :=
  f.joined.kept e hMem

/- A provider carries what refers to it. -/
theorem carries_iff_refersTo
    {e : EventType}
    {key : String}
    (hMem : e ∈ f.mesh.eventTypes) :
    f.mesh.Carries key e.id ↔
      key ∈ f.index.providerKeys ∧
        e.refersTo key = true := by
  rw [f.mesh_carries_iff]
  refine and_congr_right fun hKey => ?_
  rw [f.pushed_provided hKey, ← f.mesh_referring,
    Mesh.mem_referring_iff]
  constructor
  · rintro ⟨e', hMem', hRef, hId⟩
    have hSame : e' = e :=
      List.inj_on_of_nodup_map f.nodup_mesh_ids hMem' hMem
        hId
    exact hSame ▸ hRef
  · exact fun hRef => ⟨e, hMem, hRef, rfl⟩

/- An event type is carried in its own namespace. -/
theorem mesh_carries_iff_in
    (hOrderly : f.Orderly)
    {e : EventType}
    {key : String}
    (hMem : e ∈ f.mesh.eventTypes) :
    f.mesh.Carries key e.id ↔
      key ∈ f.index.keysIn e.ns ∧
        e.refersTo key = true := by
  rw [carries_iff_refersTo hMem]
  refine and_congr_left fun hRef => ?_
  rcases mem_eventTypes_of_mesh hMem with ⟨e₀, hMem₀, hEq⟩
  have hNs : e.ns = e₀.ns := by rw [hEq]
  have hRef₀ : e₀.refersTo key = true := by
    rw [hEq] at hRef
    exact hRef
  rcases hOrderly.key_of_refersTo hMem₀ hRef₀ with
    ⟨group, kind, name, rfl⟩
  rw [hNs]
  exact hOrderly.mem_providerKeys_iff _ _ _ _

/- What refers to a provider is found beside it. -/
theorem mesh_referring_in
    (hOrderly : f.Orderly)
    {n key : String}
    (hKey : key ∈ f.index.keysIn n) :
    f.mesh.referring key =
      ((f.index.eventTypes.filter (·.2.ns = n)).filter
        (·.2.refersTo key)).map (·.1) := by
  rw [f.mesh_referring, List.filter_filter]
  refine congrArg _ (List.filter_congr fun entry hMem => ?_)
  cases hRef : entry.2.refersTo key with
  | false => rfl
  | true =>
      have hFound := (f.of_mem_index_eventTypes hMem).2
      rcases hOrderly.key_of_refersTo hFound hRef with
        ⟨group, kind, name, rfl⟩
      have hNs := hOrderly.eq_of_mem_keysIn hKey
      simp [hNs]

/- The brokers of a mesh provide what refers to them. -/
theorem mesh_brokers_in (n : String) :
    f.mesh.brokers.filter (·.ns = n) =
      (f.index.brokers.filter (·.ns = n)).map fun b =>
        { b with
          providedEventTypes :=
            f.mesh.referring b.key } := by
  rw [mesh, Mesh.ofIndex, List.filter_map]
  refine List.map_congr_left fun b hMem => ?_
  have hKey : b.key ∈ f.index.providerKeys :=
    List.mem_append_left _
      (List.mem_map_of_mem (List.mem_filter.mp hMem).1)
  rw [f.pushed_provided hKey, ← f.mesh_referring]
  rfl

theorem mesh_subscribables_in (n : String) :
    f.mesh.subscribables.filter (·.ns = n) =
      (f.index.subscribables.filter (·.ns = n)).map fun s =>
        { s with
          providedEventTypes :=
            f.mesh.referring s.key } := by
  rw [mesh, Mesh.ofIndex, List.filter_map]
  refine List.map_congr_left fun s hMem => ?_
  have hKey : s.key ∈ f.index.providerKeys :=
    List.mem_append_right _
      (List.mem_map_of_mem (List.mem_filter.mp hMem).1)
  rw [f.pushed_provided hKey, ← f.mesh_referring]
  rfl

theorem mesh_eventTypes_in (n : String) :
    f.mesh.eventTypes.filter (·.ns = n) =
      (f.index.eventTypes.filter (·.2.ns = n)).map
        fun entry =>
          { entry.2 with
            consumedBy :=
              Table.pushed entry.1 f.consumed } := by
  rw [mesh, Mesh.ofIndex, List.filter_map]
  rfl

/- A turn gives nothing to another namespace. -/
theorem given_of_ne
    (hOrderly : f.Orderly)
    {e : EventType}
    {t : Turn}
    (hMem : e ∈ f.mesh.eventTypes)
    (hTurn : t ∈ f.turns)
    (hNe : t.subscription.ns ≠ e.ns) :
    t.given f.mesh e = [] := by
  unfold Turn.given
  cases hTarget : t.subscription.target with
  | none => rfl
  | some key =>
      refine if_neg fun hBoth => hNe ?_
      have hSub : t.subscription ∈ f.subscriptions :=
        List.mem_map_of_mem hTurn
      rcases hOrderly.targets _ hSub key hTarget with
        ⟨group, kind, name, rfl⟩
      exact hOrderly.eq_of_mem_keysIn
        ((mesh_carries_iff_in hOrderly hMem).mp
          hBoth.1).1

/- Consumers come from the turns of the namespace. -/
theorem consumedBy_eq_in
    (hOrderly : f.Orderly)
    {answers : Answers}
    {label n : String}
    {e : EventType}
    (hHeard : ∀ t ∈ f.turns, t.Heard answers label f.index)
    (hMem : e ∈ f.mesh.eventTypes)
    (hNs : e.ns = n) :
    e.consumedBy =
      Consumption.addAll []
        ((f.turns.filter (·.subscription.ns = n)).flatMap
          (Turn.given f.mesh e)) := by
  have hAll :
      ∀ ts : List Turn, (∀ t ∈ ts, t ∈ f.turns) →
        ts.flatMap (Turn.given f.mesh e) =
          (ts.filter (·.subscription.ns = n)).flatMap
            (Turn.given f.mesh e) := by
    intro ts hSub
    induction ts with
    | nil => rfl
    | cons t ts ih =>
        rw [List.forall_mem_cons] at hSub
        rw [List.flatMap_cons, ih hSub.2]
        by_cases hHere : t.subscription.ns = n
        · rw [List.filter_cons_of_pos (by simp [hHere]),
            List.flatMap_cons]
        · have hNe : t.subscription.ns ≠ e.ns :=
            fun hSame => hHere (hSame.trans hNs)
          rw [List.filter_cons_of_neg (by simp [hHere]),
            given_of_ne hOrderly hMem hSub.1 hNe,
            List.nil_append]
  rw [consumedBy_eq hHeard hMem,
    hAll f.turns fun _ hTurn => hTurn]

end Findings

end EventTopology
