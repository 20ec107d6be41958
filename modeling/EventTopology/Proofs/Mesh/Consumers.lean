import EventTopology.Proofs.Build.Steady
import EventTopology.Proofs.Mesh.Carrying

/-
  This file shows that consumption is exact: the consumers
  of an event type are the identities that subscriptions
  bring it, each once, in order of the first subscription
  that brings it.

  Key definitions include:
    * `Lookup`
    * `Mesh.broughtBy`

  The main results are:
    * `Mesh.broughtBy_eq_some_iff`
    * `Plan.consumers_of_run`
-/

------------------------------------------------------------
-- Lookups
------------------------------------------------------------

namespace EventTopology

/- What the lookup of a subscriber's identity gives. -/
inductive Lookup where
| text (s : String)
/- The subscriber has no identity. -/
| absent
/- There is no such subscriber. -/
| missing (message : String)
/- The cluster failed in any other way. -/
| failed (message : String) (status : Option Int)

namespace Lookup

/- The answer of a cluster. -/
def outcome : Lookup → Except Failure Json
| .text s => .ok (.str s)
| .absent => .ok .null
| .missing message => .error (.cluster (.notFound message))
| .failed message status =>
    .error (.cluster (.failed message status))

/- The identity, if one is found.  No identity is empty. -/
def identity? : Lookup → Option String
| .text s => if s = "" then none else some s
| _ => none

end Lookup

/- A turn finds the identity that its lookup gives. -/
theorem Turn.identity?_of_outcome
    {t : Turn}
    {l : Lookup}
    (hAnswer : t.answer = some l.outcome) :
    t.identity? = l.identity?.map .str := by
  rw [identity?, hAnswer]
  cases l with
  | text s =>
      by_cases h : s = "" <;>
        simp [Lookup.outcome, Lookup.identity?,
          Json.truthy, h]
  | absent => rfl
  | missing message => rfl
  | failed message status => rfl

------------------------------------------------------------
-- What Subscriptions Bring
------------------------------------------------------------

namespace Mesh

/-
  The identity that a subscription brings an event type: it
  is found on the subscriber, and the subscription targets a
  provider of the event type and receives its type.
-/
def broughtBy
    (m : Mesh)
    (lookups : ObjectReference → Lookup)
    (e : EventType)
    (s : Subscription) : Option String :=
  match s.target, s.subscriber with
  | some target, some ref =>
      if m.Carries target e.id ∧ s.receives e.type then
        (lookups ref).identity?
      else none
  | _, _ => none

end Mesh

/- A type is received by no filter or by one naming it. -/
theorem Subscription.receives_iff
    {s : Subscription}
    {type : String} :
    s.receives type = true ↔
      s.typeFilter = none ∨ s.typeFilter = some "" ∨
        s.typeFilter = some type := by
  unfold receives matchesAnyType
  cases s.typeFilter with
  | none => simp
  | some t => simp

namespace Mesh

theorem broughtBy_eq_some_iff
    {m : Mesh}
    {lookups : ObjectReference → Lookup}
    {e : EventType}
    {s : Subscription}
    {i : String} :
    m.broughtBy lookups e s = some i ↔
      ∃ target ref,
        s.target = some target ∧
        m.Carries target e.id ∧
        s.subscriber = some ref ∧
        (lookups ref).identity? = some i ∧
        (s.typeFilter = none ∨ s.typeFilter = some "" ∨
          s.typeFilter = some e.type) := by
  rw [← Subscription.receives_iff]
  unfold broughtBy
  cases s.target with
  | none => simp
  | some target =>
      cases s.subscriber with
      | none => simp
      | some ref =>
          simp only [Option.ite_none_right_eq_some,
            Option.some.injEq, exists_and_left,
            exists_eq_left']
          constructor
          · rintro ⟨⟨hCarries, hReceives⟩, hFound⟩
            exact ⟨hCarries, hFound, hReceives⟩
          · rintro ⟨hCarries, hFound, hReceives⟩
            exact ⟨⟨hCarries, hReceives⟩, hFound⟩

/- Nothing is brought to what no provider carries. -/
theorem broughtBy_eq_none
    {m : Mesh}
    {lookups : ObjectReference → Lookup}
    {e : EventType}
    (s : Subscription)
    (hNone : ∀ key, ¬ m.Carries key e.id) :
    m.broughtBy lookups e s = none := by
  rw [Option.eq_none_iff_forall_ne_some]
  intro i hSome
  rcases broughtBy_eq_some_iff.mp hSome with
    ⟨target, _, _, hCarries, _⟩
  exact hNone target hCarries

end Mesh

------------------------------------------------------------
-- What Turns Give
------------------------------------------------------------

/-
  A turn gives what its subscription brings.  Where nothing
  is looked up, nothing is brought either.
-/
theorem Turn.given_eq_broughtBy
    {f : Findings}
    {answers : Answers}
    {label : String}
    {lookups : ObjectReference → Lookup}
    {t : Turn}
    {e : EventType}
    (hHeard : t.Heard answers label f.index)
    (hLookups : ∀ ref o, answers (.identity ref label) o →
      o = (lookups ref).outcome) :
    t.given f.mesh e =
      ((f.mesh.broughtBy lookups e t.subscription).map
        .str).toList := by
  unfold given Mesh.broughtBy
  cases hTarget : t.subscription.target with
  | none => rfl
  | some target =>
      by_cases hBoth :
          f.mesh.Carries target e.id ∧
            t.subscription.receives e.type = true
      · have hKey := (f.mesh_carries_iff.mp hBoth.1).1
        have hHas : f.index.hasProvider target = true :=
          decide_eq_true hKey
        unfold Heard Consumption.settle at hHeard
        rw [hTarget] at hHeard
        dsimp only at hHeard ⊢
        rw [if_pos hHas] at hHeard
        rw [if_pos hBoth]
        cases hSub : t.subscription.subscriber with
        | none =>
            rw [hSub] at hHeard
            simp [identity?, show t.answer = none from hHeard]
        | some ref =>
            rw [hSub] at hHeard
            rcases hHeard with ⟨o, hAnswer, hGiven⟩
            rw [hLookups ref o hGiven] at hAnswer
            rw [identity?_of_outcome hAnswer]
            dsimp only
            rw [if_pos hBoth]
      · cases hSub : t.subscription.subscriber with
        | none => simp [hBoth]
        | some ref => simp [hBoth]

/- The consumers of an event type are what is brought. -/
theorem Findings.consumedBy_eq_brought
    {f : Findings}
    {answers : Answers}
    {label : String}
    {lookups : ObjectReference → Lookup}
    {e : EventType}
    (hHeard : ∀ t ∈ f.turns, t.Heard answers label f.index)
    (hLookups : ∀ ref o, answers (.identity ref label) o →
      o = (lookups ref).outcome)
    (hMem : e ∈ f.mesh.eventTypes) :
    e.consumedBy =
      (f.subscriptions.filterMap
        (f.mesh.broughtBy lookups e)).eraseDups.map
          .str := by
  have hGiven :
      f.turns.flatMap (Turn.given f.mesh e) =
        (f.subscriptions.filterMap
          (f.mesh.broughtBy lookups e)).map .str := by
    rw [List.flatMap_congr fun t hTurn =>
      Turn.given_eq_broughtBy (hHeard t hTurn) hLookups]
    rw [subscriptions, List.filterMap_map,
      List.map_filterMap, List.filterMap_eq_flatMap_toList]
    rfl
  rw [consumedBy_eq hHeard hMem, hGiven,
    Consumption.addAll_texts]

------------------------------------------------------------
-- Built Meshes
------------------------------------------------------------

namespace Plan

variable {σ : Type}

/-
  Where every lookup gives a text, nothing, or a failure of
  the cluster, consumers are exactly what is brought by the
  triggers and then by the channel subscriptions.
-/
theorem consumers_of_run
    {p : Plan}
    {c : Cluster σ}
    {s : σ}
    {m : Mesh}
    {run : Run σ}
    {lookups : ObjectReference → Lookup}
    (hRun : p.run c s = (.ok m, run))
    (hLookups : ∀ ref o,
      c.Heard s run.requests
        (.identity ref p.identityLabel) o →
      o = (lookups ref).outcome) :
    ∃ triggers others,
      (c.Heard s run.requests).Yields .triggers
        Conversion.trigger triggers ∧
      (c.Heard s run.requests).Yields .subscriptions
        Conversion.channelSubscription others ∧
      ∀ e ∈ m.eventTypes,
        e.consumedBy =
          ((triggers ++ others).filterMap
            (m.broughtBy lookups e)).eraseDups.map .str ∧
        ((∀ key, ¬ m.Carries key e.id) →
          e.consumedBy = []) := by
  rcases finds_of_run hRun with ⟨f, hFinds, rfl, _⟩
  rcases hFinds.subscriptions with
    ⟨triggers, others, hTriggers, hOthers, hAll⟩
  refine ⟨triggers, others, hTriggers, hOthers, ?_⟩
  intro e hMem
  have hConsumers :=
    Findings.consumedBy_eq_brought hFinds.heard hLookups
      hMem
  rw [← hAll]
  refine ⟨hConsumers, fun hNone => ?_⟩
  have hNothing :
      f.subscriptions.filterMap
        (f.mesh.broughtBy lookups e) = [] :=
    List.filterMap_eq_nil_iff.mpr fun s _ =>
      Mesh.broughtBy_eq_none s hNone
  rw [hConsumers, hNothing]
  rfl

/-
  In a shop where audit cannot be looked up, billing brings
  its identity twice and is shown once.
-/
theorem shop_consumers :
    ∃ (lookups : ObjectReference → Lookup) (m : Mesh)
      (run : Run Unit),
      let c := Cluster.ofTable
        (Shop.replies (fun ref => (lookups ref).outcome)
          [] [])
      Plan.run {} c () = (.ok m, run) ∧
      (∀ ref o,
        c.Heard () run.requests
          (.identity ref ({} : Plan).identityLabel) o →
        o = (lookups ref).outcome) ∧
      Shop.view m = [["shop/order"], ["billing"]] ∧
      ∃ triggers others,
        (c.Heard () run.requests).Yields .triggers
          Conversion.trigger triggers ∧
        (c.Heard () run.requests).Yields .subscriptions
          Conversion.channelSubscription others ∧
        ∀ e ∈ m.eventTypes,
          e.consumedBy =
            ((triggers ++ others).filterMap
              (m.broughtBy lookups e)).eraseDups.map
                .str ∧
          ((∀ key, ¬ m.Carries key e.id) →
            e.consumedBy = []) := by
  let lookups (ref : ObjectReference) : Lookup :=
    if ref.name = "billing" then .text "billing"
    else .failed "no answer" none
  have hView :
      (Plan.run {}
          (Cluster.ofTable
            (Shop.replies (fun ref => (lookups ref).outcome)
              [] []))
          ()).1.toOption.map Shop.view =
        some [["shop/order"], ["billing"]] := by
    decide +kernel
  rcases exists_run_of_view hView with
    ⟨m, run, hRun, hShown⟩
  have hLookups (ref : ObjectReference) o
      (hHeard : (Cluster.ofTable _).Heard () run.requests
        (.identity ref ({} : Plan).identityLabel) o) :
      o = (lookups ref).outcome :=
    (Cluster.steady_ofTable
      (Shop.replies (fun ref => (lookups ref).outcome)
        [] [])).answers_of_heard hHeard
  exact ⟨lookups, m, run, hRun, hLookups, hShown,
    consumers_of_run hRun hLookups⟩

end Plan

end EventTopology
