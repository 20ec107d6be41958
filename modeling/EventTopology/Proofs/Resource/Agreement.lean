import EventTopology.Proofs.Build.Steady
import EventTopology.Proofs.Resource.Naming

/-
  This file compares the two readers of references.  A sink
  and a subscriber that are named by the same texts have the
  same kind and name.  They mean one resource only if the
  version has a group and the reference names no namespace
  other than that of its owner: a sink has the version of a
  core resource as its group, and it stays beside its
  source.

  The main results are:
    * `Key.qualified_eq_iff`
    * `Conversion.readers_agree_iff`
-/

------------------------------------------------------------
-- Groups in Two Readings
------------------------------------------------------------

namespace EventTopology

namespace Key

variable {version : String}

/- The two groups of a version that has one are the same. -/
theorem resourceGroupOf_of_slash
    (hSlash : ¬ Plain version) :
    resourceGroupOf version = groupOf version := by
  unfold resourceGroupOf groupOf
  cases hSplit : Text.splitOnce '/' version with
  | none =>
      exact (hSlash (Text.splitOnce_eq_none_iff.mp hSplit)).elim
  | some parts => rfl

/- A version without a group is its own group or has none. -/
theorem groups_of_plain
    (hPlain : Plain version) :
    groupOf version = version ∧
      resourceGroupOf version = "" := by
  unfold resourceGroupOf groupOf
  rw [Text.splitOnce_eq_none_iff.mpr hPlain]
  exact ⟨rfl, rfl⟩

theorem groupOf_eq_resourceGroupOf_iff
    (hSome : version ≠ "") :
    groupOf version = resourceGroupOf version ↔
      ¬ Plain version := by
  constructor
  · intro hSame hPlain
    rcases groups_of_plain hPlain with ⟨hOwn, hNone⟩
    rw [hOwn, hNone] at hSame
    exact hSome hSame
  · intro hSlash
    exact (resourceGroupOf_of_slash hSlash).symm

/- A group has no slash, in either reading. -/
theorem plain_groupOf (version : String) :
    Plain (groupOf version) :=
  (groupOf_eq_iff.mp rfl).1

theorem plain_resourceGroupOf (version : String) :
    Plain (resourceGroupOf version) := by
  by_cases hPlain : Plain version
  · rw [(groups_of_plain hPlain).2]
    decide
  · rw [resourceGroupOf_of_slash hPlain]
    exact plain_groupOf version

/-
  Keys with plain groups, one kind and one name are the same
  if groups and namespaces are.
-/
theorem qualified_eq_iff
    {group group' kind ns ns' name : String}
    (hGroup : Plain group)
    (hGroup' : Plain group') :
    qualified group kind ns name =
        qualified group' kind ns' name ↔
      group = group' ∧ ns = ns' := by
  constructor
  · intro hSame
    rw [qualified_eq, qualified_eq] at hSame
    rcases namespaced_inj hGroup hGroup' hSame with
      ⟨hSameGroup, hRest⟩
    have hLists := congrArg String.toList hRest
    rw [toList_namespaced, toList_namespaced,
      toList_namespaced, toList_namespaced,
      List.append_cancel_left_eq, List.cons.injEq,
      List.append_cancel_right_eq] at hLists
    exact ⟨hSameGroup, String.toList_injective hLists.2⟩
  · intro hSame
    rw [hSame.1, hSame.2]

end Key

------------------------------------------------------------
-- Sinks and Subscribers
------------------------------------------------------------

namespace Resource

/- A reference stays where it is named, or names a place. -/
theorem placeOf_eq_iff
    {own : Option String}
    {ns : String} :
    placeOf own ns = ns ↔
      own = none ∨ own = some "" ∨ own = some ns := by
  cases own with
  | none => simp [placeOf]
  | some s =>
      by_cases hEmpty : s = ""
      · simp [placeOf, Option.filter, hEmpty]
      · simp [placeOf, Option.filter, hEmpty]

end Resource

namespace Conversion

open Resource

/-
  The sink of a source and the subscriber of a subscription,
  which are named by one reference in one namespace, have
  the same kind and name.  They have the same group if the
  version has one, the same namespace if the reference names
  no other one, and the same key if both hold.
-/
theorem readers_agree_iff
    {c : Conversion}
    {coords : KindCoordinates}
    {declared : List String}
    {raw raw' ref : Json}
    {source : Source}
    {subscription : Subscription}
    {version kind ns name : String}
    {own : Option String}
    (hSource :
      c.source coords (.ofTexts declared) raw = .ok source)
    (hSubscribes : Subscribes raw' subscription)
    (hNs : LivesIn raw ns)
    (hNs' : LivesIn raw' ns)
    (hRef : raw.dig ["spec", "sink", "ref"] = ref)
    (hRef' : raw'.dig ["spec", "subscriber", "ref"] = ref)
    (hNames : Names ref version kind name)
    (hVersion : version ≠ "")
    (hKind : kind ≠ "")
    (hName : name ≠ "")
    (hOwn : ref.member "namespace" = .ofText? own) :
    ∃ r o, source.sink = some r ∧
      subscription.subscriber = some o ∧
      r.kind = o.kind ∧ r.name = o.name ∧
      r.ns = ns ∧ o.ns = placeOf own ns ∧
      (r.group = o.group ↔ '/' ∈ version.toList) ∧
      (r.ns = o.ns ↔
        own = none ∨ own = some "" ∨ own = some ns) ∧
      (r.key = o.key ↔ r.group = o.group ∧ r.ns = o.ns) := by
  subst hRef
  have hSink := source_sink_of_names hSource hNs hNames
    hVersion hKind hName
  rw [← hRef'] at hNames hOwn
  have hSubscriber := hSubscribes.subscriber_of_names hNs'
    hNames hKind hName hOwn
  refine ⟨_, _, hSink, hSubscriber, rfl, rfl, rfl, rfl, ?_,
    ?_, ?_⟩
  · rw [← not_not (a := '/' ∈ version.toList)]
    exact Key.groupOf_eq_resourceGroupOf_iff hVersion
  · rw [← placeOf_eq_iff]
    exact eq_comm
  · exact Key.qualified_eq_iff (Key.plain_groupOf version)
      (Key.plain_resourceGroupOf version)

end Conversion

------------------------------------------------------------
-- Readers That Disagree
------------------------------------------------------------

namespace Shop

/- The coordinates of feeds. -/
def feedKind : KindCoordinates where
  definition := "feeds.sources.dev"
  group := "sources.dev"
  version := "v1"
  resource := "feeds"
  kind := "Feed"

/- A feed that sends to what a reference names. -/
def feeding (ref : Json) : Json :=
  resource "shop" "feed" [("sink", .obj [("ref", ref)])]

/- A trigger that sends to what a reference names. -/
def notifying (ref : Json) : Json :=
  resource "shop" "notify"
    [("broker", .str "main"),
     ("subscriber", .obj [("ref", ref)])]

/- The bills of the shop. -/
def coreService : Json :=
  reference "v1" "Service" "billing"

/- A broker that is named from other namespaces. -/
def farBroker (ns : String) : Json :=
  .obj
    [("apiVersion", .str "eventing.knative.dev/v1"),
     ("kind", .str "Broker"), ("name", .str "main"),
     ("namespace", .str ns)]

theorem farBroker_names (ns : String) :
    Resource.Names (farBroker ns) "eventing.knative.dev/v1"
      "Broker" "main" :=
  ⟨rfl, rfl, rfl⟩

/- A broker beside them is one for a feed and a trigger. -/
theorem farBroker_agrees :
    ∃ s t r o,
      Conversion.source {} feedKind (.ofTexts [])
        (feeding (farBroker "shop")) = .ok s ∧
      Conversion.trigger (notifying (farBroker "shop")) =
        .ok t ∧
      s.sink = some r ∧ t.subscriber = some o ∧
      r.key = o.key := by
  have hSource :
      ∃ s, Conversion.source {} feedKind (.ofTexts [])
        (feeding (farBroker "shop")) = .ok s := ⟨_, rfl⟩
  have hTrigger :
      ∃ t, Conversion.trigger
        (notifying (farBroker "shop")) = .ok t := ⟨_, rfl⟩
  have hOwn : (farBroker "shop").member "namespace" =
      .ofText? (some "shop") := rfl
  rcases hSource with ⟨s, hSource⟩
  rcases hTrigger with ⟨t, hTrigger⟩
  rcases Conversion.readers_agree_iff hSource
      (Or.inl hTrigger) ⟨_, rfl, rfl⟩ ⟨_, rfl, rfl⟩ rfl rfl
      (farBroker_names "shop") (by decide) (by decide)
      (by decide) hOwn with
    ⟨r, o, hSink, hSubscriber, _, _, _, _, hGroup, hNs,
      hKey⟩
  have hSlash : '/' ∈ "eventing.knative.dev/v1".toList := by
    decide
  have hBeside := hNs.mpr (Or.inr (Or.inr rfl))
  exact ⟨s, t, r, o, hSource, hTrigger, hSink, hSubscriber,
    hKey.mpr ⟨hGroup.mpr hSlash, hBeside⟩⟩

/-
  A core service is not one resource for a feed and for a
  trigger, and neither is a broker in another namespace.
-/
theorem readers_disagree :
    (∃ s t r o,
      Conversion.source {} feedKind (.ofTexts [])
        (feeding coreService) = .ok s ∧
      Conversion.trigger (notifying coreService) = .ok t ∧
      s.sink = some r ∧ t.subscriber = some o ∧
      r.group ≠ o.group ∧ r.key ≠ o.key) ∧
    (∃ s t r o,
      Conversion.source {} feedKind (.ofTexts [])
        (feeding (farBroker "lab")) = .ok s ∧
      Conversion.trigger (notifying (farBroker "lab")) =
        .ok t ∧
      s.sink = some r ∧ t.subscriber = some o ∧
      r.ns ≠ o.ns ∧ r.key ≠ o.key) := by
  constructor
  · refine ⟨_, _, _, _, rfl, rfl, rfl, rfl, ?_, ?_⟩
    · decide
    · decide
  · refine ⟨_, _, _, _, rfl, rfl, rfl, rfl, ?_, ?_⟩
    · decide
    · decide

end Shop

end EventTopology
