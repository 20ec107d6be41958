import EventTopology.Proofs.Index.Providers
import EventTopology.Proofs.Table

/-
  This file describes an index whose event types have been
  added and linked: which event types it shows, and which of
  them each provider provides.

  The main results are:
    * `Index.addEventTypes_eventTypes`
    * `Index.pushed_addEventTypes_byType`
    * `Index.pushed_linkAll`
-/

------------------------------------------------------------
-- Event Types
------------------------------------------------------------

namespace EventTopology

namespace Index

/- Event types, each under its id. -/
def byId (es : List EventType) : List (String × EventType) :=
  es.map fun e => (e.id, e)

private theorem foldl_addEventType
    (es : List EventType)
    (x : Index) :
    es.foldl addEventType x =
      { x with
        eventTypes := es.foldl
          (fun t e => Table.insert e.id e t) x.eventTypes
        byType := es.foldl
          (fun t e => Table.push e.typeKey e.id t)
          x.byType } := by
  induction es generalizing x with
  | nil => rfl
  | cons e es ih =>
      rw [List.foldl_cons, ih]
      rfl

/-
  The event types of a mesh are a table filled in the order
  of namespaces and names.
-/
theorem addEventTypes_eventTypes
    {x : Index}
    (es : List EventType)
    (hEmpty : x.eventTypes = []) :
    (x.addEventTypes es).eventTypes =
      Table.ofList (byId (es.mergeSort EventType.le)) := by
  rw [addEventTypes, foldl_addEventType, hEmpty, byId,
    Table.ofList, List.foldl_map]

/-
  Under a namespace and a type are filed, in order, the ids
  of all event types listed with them.
-/
theorem pushed_addEventTypes_byType
    {x : Index}
    (es : List EventType)
    (hEmpty : x.byType = [])
    (key : String) :
    Table.pushed key (x.addEventTypes es).byType =
      ((es.mergeSort EventType.le).filter
        (·.typeKey = key)).map (·.id) := by
  rw [addEventTypes, foldl_addEventType, hEmpty]
  exact Table.pushed_foldl_push EventType.typeKey
    EventType.id _ [] key

/- Event types change nothing about providers. -/
theorem addEventTypes_providers
    (x : Index)
    (es : List EventType) :
    (x.addEventTypes es).brokers = x.brokers ∧
      (x.addEventTypes es).subscribables =
        x.subscribables ∧
      (x.addEventTypes es).provided = x.provided := by
  rw [addEventTypes, foldl_addEventType]
  exact ⟨rfl, rfl, rfl⟩

/- Event types are added whatever the brokers are. -/
theorem addEventTypes_brokers
    (x : Index)
    (bs : List Broker)
    (es : List EventType) :
    { x with brokers := bs }.addEventTypes es =
      { x.addEventTypes es with brokers := bs } := by
  rw [addEventTypes, addEventTypes, foldl_addEventType,
    foldl_addEventType]

end Index

------------------------------------------------------------
-- Links
------------------------------------------------------------

namespace Index

/- Linking changes nothing but what is provided. -/
theorem linkAll_fst
    (x : Index)
    (es : List (String × EventType)) :
    ∃ provided, (x.linkAll es).1 =
      { x with provided := provided } := by
  induction es generalizing x with
  | nil => exact ⟨x.provided, rfl⟩
  | cons e es ih =>
      rcases e with ⟨id, e⟩
      rcases ih (x.linkEventType id e).1 with
        ⟨provided, hRest⟩
      refine ⟨provided, ?_⟩
      change ((x.linkEventType id e).1.linkAll es).1 = _
      rw [hRest]
      unfold linkEventType
      cases e.reference with
      | none => rfl
      | some r =>
          dsimp only
          split <;> rfl

/-
  One event type is registered on the provider that it
  refers to and nowhere else.
-/
theorem pushed_linkEventType
    (x : Index)
    (id : String)
    (e : EventType)
    (key : String)
    (hHas : x.hasProvider key = true) :
    Table.pushed key (x.linkEventType id e).1.provided =
      Table.pushed key x.provided ++
        if e.refersTo key then [id] else [] := by
  unfold linkEventType EventType.refersTo
  cases e.reference with
  | none => simp
  | some r =>
      by_cases hKey : r.key = key
      · subst hKey
        simp [hHas, Table.pushed_push_self]
      · cases h : x.hasProvider r.key with
        | true =>
            simp [h, hKey,
              Table.pushed_push_of_ne _ _ (Ne.symm hKey)]
        | false => simp [h, hKey]

/-
  What a provider provides are, in order, the event types
  that refer to it.
-/
theorem pushed_linkAll
    (x : Index)
    (es : List (String × EventType))
    (key : String)
    (hHas : x.hasProvider key = true) :
    Table.pushed key (x.linkAll es).1.provided =
      Table.pushed key x.provided ++
        (es.filter (·.2.refersTo key)).map (·.1) := by
  induction es generalizing x with
  | nil => simp [linkAll]
  | cons e es ih =>
      rcases e with ⟨id, e⟩
      have hStill :
          (x.linkEventType id e).1.hasProvider key =
            true := by
        rcases x.linkAll_fst [(id, e)] with ⟨_, hOne⟩
        change (x.linkEventType id e).1 = _ at hOne
        rw [hOne]
        exact hHas
      change Table.pushed key
        ((x.linkEventType id e).1.linkAll es).1.provided = _
      rw [ih _ hStill, pushed_linkEventType x id e key hHas]
      cases h : e.refersTo key <;> simp [h]

/- Links cannot tell brokers with the same keys apart. -/
theorem linkAll_brokers
    {x : Index}
    {bs : List Broker}
    (hKeys : ∀ key,
      { x with brokers := bs }.hasProvider key =
        x.hasProvider key)
    (es : List (String × EventType)) :
    ({ x with brokers := bs }.linkAll es).1 =
      { (x.linkAll es).1 with brokers := bs } := by
  induction es generalizing x with
  | nil => rfl
  | cons e es ih =>
      rcases e with ⟨id, e⟩
      have hFirst :
          ({ x with brokers := bs }.linkEventType id e).1 =
            { (x.linkEventType id e).1 with
              brokers := bs } := by
        unfold linkEventType
        cases e.reference with
        | none => rfl
        | some r =>
            dsimp only
            rw [hKeys]
            split <;> rfl
      rcases x.linkAll_fst [(id, e)] with ⟨provided, hOne⟩
      change (x.linkEventType id e).1 = _ at hOne
      change (({ x with brokers := bs }.linkEventType
        id e).1.linkAll es).1 =
          { ((x.linkEventType id e).1.linkAll es).1 with
            brokers := bs }
      rw [hFirst, hOne]
      exact ih hKeys

theorem link_eventTypes (x : Index) :
    x.link.1.eventTypes = x.eventTypes := by
  rcases x.linkAll_fst x.eventTypes with ⟨_, hLink⟩
  rw [link, hLink]

end Index

end EventTopology
