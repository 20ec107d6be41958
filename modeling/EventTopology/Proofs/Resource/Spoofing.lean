import EventTopology.Proofs.Build.Steady
import EventTopology.Proofs.Resource.Naming

/-
  This file shows that keys of providers cannot be forged.
  A resource is free to name another one by any texts, also
  by texts with slashes.  The key that is made of them is
  that of a plain provider only if the texts name it.

  Key definitions include:
    * `Reference.Plain`
    * `Provider`
    * `Provider.IsNamedBy`

  The main result is:
    * `Provider.key_eq_iff_named`
-/

------------------------------------------------------------
-- Plain References
------------------------------------------------------------

namespace EventTopology

namespace Reference

/- A reference of which no part has a slash. -/
structure Plain (r : Reference) : Prop where
  group : Key.Plain r.group
  kind : Key.Plain r.kind
  ns : Key.Plain r.ns
  name : Key.Plain r.name

/- The key of a plain reference is that of no other one. -/
theorem Plain.key_eq_iff
    {r r' : Reference}
    (hPlain : r.Plain) :
    r'.key = r.key ↔ r' = r := by
  constructor
  · intro hSame
    rcases Key.qualified_inj hPlain.group hPlain.kind
        hPlain.ns hPlain.name hSame.symm with
      ⟨hGroup, hKind, hNs, hName⟩
    rcases r with ⟨_, _, _, _⟩
    rcases r' with ⟨_, _, _, _⟩
    subst hGroup hKind hNs hName
    rfl
  · intro hSame
    rw [hSame]

end Reference

------------------------------------------------------------
-- Providers
------------------------------------------------------------

/- What provides event types. -/
inductive Provider where
| broker (b : Broker)
| subscribable (s : Subscribable)

namespace Provider

/- The key that a provider is filed under. -/
def key : Provider → String
| broker b => b.key
| subscribable s => s.key

/- The reference that means a provider. -/
def reference : Provider → Reference
| broker b => ⟨Broker.apiGroup, Broker.apiKind, b.ns, b.name⟩
| subscribable s => ⟨s.group, s.kind, s.ns, s.name⟩

theorem key_reference (p : Provider) :
    p.reference.key = p.key := by
  cases p <;> rfl

/-
  A provider has the group of a version, a kind, a namespace
  and a name.
-/
structure IsNamedBy
    (p : Provider)
    (version kind ns name : String) : Prop where
  group : Key.IsGroupOf p.reference.group version
  kind : p.reference.kind = kind
  ns : p.reference.ns = ns
  name : p.reference.name = name

theorem isNamedBy_iff
    {p : Provider}
    {version kind ns name : String} :
    p.IsNamedBy version kind ns name ↔
      ⟨Key.groupOf version, kind, ns, name⟩ =
        p.reference := by
  rw [Reference.mk.injEq, Key.groupOf_eq_iff]
  constructor
  · intro hNamed
    exact ⟨hNamed.group, hNamed.kind.symm, hNamed.ns.symm,
      hNamed.name.symm⟩
  · intro hSame
    rcases hSame with ⟨hGroup, hKind, hNs, hName⟩
    exact ⟨hGroup, hKind.symm, hNs.symm, hName.symm⟩

end Provider

------------------------------------------------------------
-- Derived Keys
------------------------------------------------------------

namespace Provider

open Resource

/- A target is missing or it has the key of its parts. -/
private theorem target_iff
    {target : Option String}
    {key other : String}
    {empty named : Prop}
    [Decidable empty]
    (hTarget :
      target = if empty then none else some other)
    (hKey : other = key ↔ named) :
    (target = none ↔ empty) ∧
      ∀ found, target = some found →
        (found = key ↔ named) := by
  by_cases hEmpty : empty
  · rw [if_pos hEmpty] at hTarget
    subst hTarget
    refine ⟨⟨fun _ => hEmpty, fun _ => rfl⟩, ?_⟩
    intro found hFound
    cases hFound
  · rw [if_neg hEmpty] at hTarget
    subst hTarget
    constructor
    · constructor
      · intro hNone
        cases hNone
      · intro hIs
        exact (hEmpty hIs).elim
    · intro found hFound
      cases hFound
      exact hKey

/-
  Whatever texts a resource names others by, the key that is
  made of them is that of a plain provider only if they name
  this provider.  A trigger names a broker beside it by one
  text; an empty text names nothing.
-/
theorem key_eq_iff_named
    {p : Provider}
    {raw : Json}
    {ns : String}
    (c : Conversion)
    (version kind name : String)
    (hPlain : p.reference.Plain)
    (hNs : LivesIn raw ns) :
    (∀ e, c.eventType raw = .ok e →
      Names (raw.dig ["spec", "reference"])
        version kind name →
      ∃ r, e.reference = some r ∧
        (r.key = p.key ↔
          p.IsNamedBy version kind ns name)) ∧
    (∀ s, Conversion.trigger raw = .ok s →
      raw.dig ["spec", "broker"] = .str name →
      (s.target = none ↔ name = "") ∧
      ∀ key, s.target = some key →
        (key = p.key ↔
          p.reference =
            ⟨Broker.apiGroup, Broker.apiKind, ns, name⟩)) ∧
    (∀ s, Conversion.channelSubscription raw = .ok s →
      Names (raw.dig ["spec", "channel"])
        version kind name →
      (s.target = none ↔ kind = "" ∨ name = "") ∧
      ∀ key, s.target = some key →
        (key = p.key ↔
          p.IsNamedBy version kind ns name)) := by
  have hKey (r : Reference) :
      r.key = p.key ↔ r = p.reference := by
    rw [← key_reference]
    exact hPlain.key_eq_iff
  have hNamed :
      Reference.key ⟨Key.groupOf version, kind, ns, name⟩ =
          p.key ↔
        p.IsNamedBy version kind ns name := by
    rw [isNamedBy_iff]
    exact hKey _
  refine ⟨?_, ?_, ?_⟩
  · intro e hOk hNames
    exact ⟨_, Conversion.eventType_reference_of_names hOk
      hNs hNames, hNamed⟩
  · intro s hOk hName
    apply target_iff
      (Conversion.trigger_target_of_text hOk hNs hName)
    rw [eq_comm (a := p.reference)]
    exact hKey ⟨_, _, _, _⟩
  · intro s hOk hNames
    apply target_iff
      (Conversion.channelSubscription_target_of_names hOk hNs
        hNames)
    exact hNamed

end Provider

------------------------------------------------------------
-- A Forger
------------------------------------------------------------

namespace Shop

/-
  What refers to a broker named main, subscribes to it, and
  also subscribes to it as if to a channel.
-/
def linked (ns kind : String) : Json :=
  resource ns "link"
    [("reference",
       reference "eventing.knative.dev/v1" kind "main"),
     ("broker", .str "main"),
     ("channel",
       reference "eventing.knative.dev/v1" kind "main")]

/- The broker of the shop. -/
def main : Provider :=
  .broker { name := "main", ns := "shop" }

theorem plain_main : main.reference.Plain where
  group := by decide
  kind := by decide
  ns := by decide
  name := by decide

/-
  Beside the broker its name is enough.  A slash moved out
  of the namespace into the kind does not help.
-/
theorem main_named :
    (∃ e t s,
      Conversion.eventType {} (linked "shop" "Broker") =
        .ok e ∧
      Conversion.trigger (linked "shop" "Broker") = .ok t ∧
      Conversion.channelSubscription
        (linked "shop" "Broker") = .ok s ∧
      (∃ r, e.reference = some r ∧ r.key = main.key) ∧
      t.target = some main.key ∧
      s.target = some main.key) ∧
    (∃ e t s,
      Conversion.eventType {} (linked "" "Broker/shop") =
        .ok e ∧
      Conversion.trigger (linked "" "Broker/shop") = .ok t ∧
      Conversion.channelSubscription
        (linked "" "Broker/shop") = .ok s ∧
      (∃ r, e.reference = some r ∧ r.key ≠ main.key) ∧
      t.target ≠ some main.key ∧
      s.target ≠ some main.key) := by
  constructor
  · have hNs :
        Resource.LivesIn (linked "shop" "Broker") "shop" :=
      ⟨_, rfl, rfl⟩
    have hNamed := Provider.key_eq_iff_named {}
      "eventing.knative.dev/v1" "Broker" "main"
      plain_main hNs
    have hIs : main.IsNamedBy "eventing.knative.dev/v1"
        "Broker" "shop" "main" :=
      Provider.isNamedBy_iff.mpr rfl
    rcases hNamed with ⟨hEvent, hTrigger, hChannel⟩
    rcases hEvent _ rfl ⟨rfl, rfl, rfl⟩ with
      ⟨r, hReference, hKey⟩
    have hTarget := (hTrigger _ rfl rfl).2 _ rfl
    have hTarget' := (hChannel _ rfl ⟨rfl, rfl, rfl⟩).2 _ rfl
    refine ⟨_, _, _, rfl, rfl, rfl, ?_, ?_, ?_⟩
    · exact ⟨r, hReference, hKey.mpr hIs⟩
    · exact congrArg some (hTarget.mpr rfl)
    · exact congrArg some (hTarget'.mpr hIs)
  · have hNs :
        Resource.LivesIn (linked "" "Broker/shop") "" :=
      ⟨_, rfl, rfl⟩
    have hNamed := Provider.key_eq_iff_named {}
      "eventing.knative.dev/v1" "Broker/shop" "main"
      plain_main hNs
    have hIsNot : ¬ main.IsNamedBy "eventing.knative.dev/v1"
        "Broker/shop" "" "main" := by
      intro hIs
      exact absurd hIs.kind (by decide)
    rcases hNamed with ⟨hEvent, hTrigger, hChannel⟩
    rcases hEvent _ rfl ⟨rfl, rfl, rfl⟩ with
      ⟨r, hReference, hKey⟩
    refine ⟨_, _, _, rfl, rfl, rfl, ?_, ?_, ?_⟩
    · exact ⟨r, hReference, mt hKey.mp hIsNot⟩
    · intro hSame
      have hIs := ((hTrigger _ rfl rfl).2 _ hSame).mp rfl
      exact absurd (congrArg Reference.ns hIs) (by decide)
    · intro hSame
      exact hIsNot
        (((hChannel _ rfl ⟨rfl, rfl, rfl⟩).2 _ hSame).mp rfl)

end Shop

end EventTopology
