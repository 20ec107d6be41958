import EventTopology.Proofs.Build.Contents
import EventTopology.Proofs.Build.Filing

/-
  This file describes consumers by the mesh alone: a turn
  gives its identity to an event type whenever the target
  carries the event type and the subscription receives it.

  Key definitions include:
    * `Mesh.Carries`
    * `Turn.given`

  The main results are:
    * `Findings.mesh_carries_iff`
    * `Findings.consumedBy_eq`
-/

------------------------------------------------------------
-- Carrying Event Types
------------------------------------------------------------

namespace EventTopology

/- The provider with a key provides the id. -/
def Mesh.Carries (m : Mesh) (key id : String) : Prop :=
  (∃ b ∈ m.brokers,
    b.key = key ∧ id ∈ b.providedEventTypes) ∨
  (∃ s ∈ m.subscribables,
    s.key = key ∧ id ∈ s.providedEventTypes)

instance
    (m : Mesh)
    (key id : String) :
    Decidable (m.Carries key id) :=
  inferInstanceAs (Decidable (_ ∨ _))

namespace Findings

variable (f : Findings)

/- A mesh carries what is filed under its providers. -/
theorem mesh_carries_iff
    {key id : String} :
    f.mesh.Carries key id ↔
      key ∈ f.index.providerKeys ∧
        id ∈ Table.pushed key f.index.provided := by
  rw [Index.providerKeys, List.mem_append, or_and_right]
  refine or_congr ?_ ?_
  · constructor
    · rintro ⟨b, hMem, rfl, hId⟩
      rcases List.mem_map.mp hMem with ⟨b₀, hMem₀, rfl⟩
      exact ⟨List.mem_map.mpr ⟨b₀, hMem₀, rfl⟩, hId⟩
    · rintro ⟨hKey, hId⟩
      rcases List.mem_map.mp hKey with ⟨b, hMem, rfl⟩
      exact ⟨_, List.mem_map_of_mem hMem, rfl, hId⟩
  · constructor
    · rintro ⟨s, hMem, rfl, hId⟩
      rcases List.mem_map.mp hMem with ⟨s₀, hMem₀, rfl⟩
      exact ⟨List.mem_map.mpr ⟨s₀, hMem₀, rfl⟩, hId⟩
    · rintro ⟨hKey, hId⟩
      rcases List.mem_map.mp hKey with ⟨s, hMem, rfl⟩
      exact ⟨_, List.mem_map_of_mem hMem, rfl, hId⟩

/- An event type of the mesh is received for its type. -/
theorem isReceived_id
    {e : EventType}
    (hMem : e ∈ f.mesh.eventTypes)
    (s : Subscription) :
    f.index.isReceived s e.id = s.receives e.type := by
  rcases f.mem_mesh_eventTypes_iff.mp hMem with
    ⟨e₀, hMem₀, hShown⟩
  have hLookup :
      Table.lookup e.id f.index.eventTypes = some e₀ :=
    (Table.lookup_eq_some_iff f.nodup_ids).mpr hMem₀
  have hType : e.type = e₀.type := by rw [hShown]
  rw [Index.isReceived, hLookup, hType]
  rfl

/- An event type is received if it is carried and wanted. -/
theorem mem_received_iff
    {e : EventType}
    {key : String}
    (hMem : e ∈ f.mesh.eventTypes)
    (hKey : key ∈ f.index.providerKeys)
    (s : Subscription) :
    e.id ∈ f.index.received key s ↔
      f.mesh.Carries key e.id ∧
        s.receives e.type = true := by
  rw [Index.received, List.mem_filter,
    f.isReceived_id hMem, f.mesh_carries_iff]
  simp [hKey]

/- What a subscription receives is received once. -/
theorem filter_received
    {e : EventType}
    {key : String}
    (hMem : e ∈ f.mesh.eventTypes)
    (hKey : key ∈ f.index.providerKeys)
    (s : Subscription) :
    (f.index.received key s).filter (· = e.id) =
      if f.mesh.Carries key e.id ∧ s.receives e.type then
        [e.id]
      else [] := by
  have hProvided :
      (Table.pushed key f.index.provided).Nodup := by
    rw [f.pushed_provided hKey]
    exact f.nodup_ids.sublist (List.filter_sublist.map _)
  have hIn := f.mem_received_iff hMem hKey s
  have hNodup : (f.index.received key s).Nodup :=
    hProvided.filter _
  rw [List.filter_eq, hNodup.count]
  by_cases h : e.id ∈ f.index.received key s
  · rw [if_pos h, if_pos (hIn.mp h), List.replicate_one]
  · rw [if_neg h, if_neg (mt hIn.mpr h),
      List.replicate_zero]

end Findings

------------------------------------------------------------
-- Giving Identities
------------------------------------------------------------

namespace Turn

/- The identity that a turn gives an event type, if any. -/
def given
    (m : Mesh)
    (e : EventType)
    (t : Turn) : List Json :=
  match t.subscription.target with
  | none => []
  | some target =>
      if m.Carries target e.id ∧
          t.subscription.receives e.type then
        t.identity?.toList
      else []

/- Only to a provider is anything given. -/
theorem answer_of_not_provider
    {answers : Answers}
    {label : String}
    {x : Index}
    {t : Turn}
    {target : String}
    (hHeard : t.Heard answers label x)
    (hTarget : t.subscription.target = some target)
    (hNot : target ∉ x.providerKeys) :
    t.answer = none := by
  unfold Heard Consumption.settle at hHeard
  have hHas : ¬ x.hasProvider target = true :=
    fun hHas => hNot (of_decide_eq_true hHas)
  rw [hTarget] at hHeard
  dsimp only at hHeard
  rwa [if_neg hHas] at hHeard

/- What a turn files is what it gives. -/
theorem filed_eq_given
    {f : Findings}
    {answers : Answers}
    {label : String}
    {t : Turn}
    {e : EventType}
    (hHeard : t.Heard answers label f.index)
    (hMem : e ∈ f.mesh.eventTypes) :
    t.filed f.index e.id = t.given f.mesh e := by
  unfold filed given ids
  cases hTarget : t.subscription.target with
  | none => cases t.identity? <;> rfl
  | some target =>
      by_cases hKey : target ∈ f.index.providerKeys
      · simp only [f.filter_received hMem hKey]
        by_cases hBoth :
            f.mesh.Carries target e.id ∧
              t.subscription.receives e.type = true
        · rw [if_pos hBoth, if_pos hBoth]
          cases t.identity? <;> rfl
        · rw [if_neg hBoth, if_neg hBoth]
          cases t.identity? <;> rfl
      · have hNot : ¬ f.mesh.Carries target e.id :=
          fun hCarries =>
            hKey (f.mesh_carries_iff.mp hCarries).1
        have hSilent :=
          answer_of_not_provider hHeard hTarget hKey
        simp [identity?, hSilent, hNot]

end Turn

/- The consumers of an event type are what it is given. -/
theorem Findings.consumedBy_eq
    {f : Findings}
    {answers : Answers}
    {label : String}
    {e : EventType}
    (hHeard : ∀ t ∈ f.turns, t.Heard answers label f.index)
    (hMem : e ∈ f.mesh.eventTypes) :
    e.consumedBy =
      Consumption.addAll []
        (f.turns.flatMap (Turn.given f.mesh e)) := by
  rw [f.consumedBy_eq_pushed hMem, pushed_consumed,
    List.flatMap_congr fun t hTurn =>
      Turn.filed_eq_given (hHeard t hTurn) hMem]

end EventTopology
