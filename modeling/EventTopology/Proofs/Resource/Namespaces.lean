import EventTopology.Proofs.Build.Findings
import EventTopology.Proofs.Record

/-
  This file shows that conversion keeps namespaces: a record
  lives where its resource does, and so do the references of
  event types and the targets of subscriptions, whatever
  texts they are written with.

  Key definitions include:
    * `Resource.LivesIn`
    * `Resource.isIn`

  The main results are:
    * `Conversion.eventType_livesIn`
    * `Conversion.trigger_livesIn`
    * `Conversion.channelSubscription_livesIn`
-/

------------------------------------------------------------
-- Namespaces of Resources
------------------------------------------------------------

namespace EventTopology

namespace Resource

/- The namespace of a resource, which may be left out. -/
def LivesIn (raw : Json) (ns : String) : Prop :=
  ∃ md, metadata raw = .ok md ∧
    md.getText "namespace" = .ok (.str ns)

/- Does a resource live in a namespace? -/
def isIn (n : String) (raw : Json) : Bool :=
  match metadata raw with
  | .error _ => false
  | .ok md =>
      match md.getText "namespace" with
      | .error _ => false
      | .ok ns => ns.isText n

theorem isIn_eq
    {raw : Json}
    {ns : String}
    (hLives : LivesIn raw ns)
    (n : String) :
    isIn n raw = decide (ns = n) := by
  rcases hLives with ⟨md, hMd, hNs⟩
  unfold isIn
  rw [hMd]
  dsimp only
  rw [hNs]
  rfl

end Resource

------------------------------------------------------------
-- Outcomes of Conversions
------------------------------------------------------------

namespace Failure

variable {α : Type}

theorem lift_eq_ok_iff
    {e : Except Json.ShapeFault α}
    {a : α} :
    (liftM e : Except Failure α) = .ok a ↔ e = .ok a := by
  change ofShape e = .ok a ↔ _
  cases e <;> simp [ofShape]

theorem ofChecked_eq_ok_iff
    {record : String}
    {v : Record.Checked α}
    {a : α} :
    ofChecked record v = .ok a ↔ v = .valid a := by
  cases v <;> simp [ofChecked]

end Failure

/- Only a text is read as a namespace. -/
theorem Mesh.eq_of_readNs
    {path : List Record.Step}
    {d : Record.Draft}
    {name ns : String}
    {v : Json}
    (hValid : readNs path d = .valid ns)
    (hFind : d.find Mesh.Field.ns =
      some (name, .value v)) :
    v = .str ns := by
  have hRead := Record.read_of_required hValid hFind
  have hValue := Record.readText_eq_valid_iff.mp hRead
  cases hValue
  rfl

/- Only a text is read as a target. -/
theorem Subscription.eq_of_target
    {path : List Record.Step}
    {d : Record.Draft}
    {name key : String}
    {v : Json}
    (hValid :
      Record.withDefault path d (.plain "target")
        (Record.orNull Record.readText) none =
          .valid (some key))
    (hFind : d.find (.plain "target") =
      some (name, .value v)) :
    v = .str key := by
  have hRead := Record.read_of_orNull
    (Record.read_of_withDefault hValid hFind)
  have hValue := Record.readText_eq_valid_iff.mp hRead
  cases hValue
  rfl

------------------------------------------------------------
-- Providers and Sources
------------------------------------------------------------

namespace Conversion

open Resource

variable {c : Conversion} {raw : Json}

theorem broker_livesIn
    {b : Broker}
    (hOk : c.broker raw = .ok b) :
    LivesIn raw b.ns := by
  simp only [broker, Except.bind_eq_ok_iff,
    Failure.lift_eq_ok_iff, Failure.ofChecked_eq_ok_iff]
    at hOk
  rcases hOk with
    ⟨md, hMd, _, _, ns, hNs, _, _, _, _, _, _, hValid⟩
  have hText := Mesh.eq_of_readNs
    (Broker.meets_check _ _ _ hValid).1 rfl
  exact ⟨md, hMd, hText ▸ hNs⟩

theorem subscribable_livesIn
    {coords : KindCoordinates}
    {s : Subscribable}
    (hOk : c.subscribable coords raw = .ok s) :
    LivesIn raw s.ns := by
  simp only [subscribable, Except.bind_eq_ok_iff,
    Failure.lift_eq_ok_iff, Failure.ofChecked_eq_ok_iff]
    at hOk
  rcases hOk with
    ⟨md, hMd, _, _, ns, hNs, _, _, _, _, _, _, _, _,
      hValid⟩
  have hText := Mesh.eq_of_readNs
    (Subscribable.meets_check _ _ _ hValid).1 rfl
  exact ⟨md, hMd, hText ▸ hNs⟩

theorem source_livesIn
    {coords : KindCoordinates}
    {declared : Json}
    {s : Source}
    (hOk : c.source coords declared raw = .ok s) :
    LivesIn raw s.ns := by
  simp only [source, Except.bind_eq_ok_iff,
    Failure.lift_eq_ok_iff, Failure.ofChecked_eq_ok_iff]
    at hOk
  rcases hOk with
    ⟨md, hMd, _, _, ns, hNs, _, _, _, _, _, _, _, _, _, _,
      hValid⟩
  have hText := Mesh.eq_of_readNs
    (Source.meets_check _ _ _ hValid).1 rfl
  exact ⟨md, hMd, hText ▸ hNs⟩

end Conversion

------------------------------------------------------------
-- Event Types
------------------------------------------------------------

namespace Resource

theorem reference_ns
    {group kind ns name : Json}
    {r : Reference}
    (hOk : reference group kind ns name = .ok r) :
    ns = .str r.ns :=
  Mesh.eq_of_readNs
    (Reference.meets_check _ _ _
      (Failure.ofChecked_eq_ok_iff.mp hOk)) rfl

/- A provider is sought beside the event type. -/
theorem provider_ns
    {spec ns : Json}
    {r : Reference}
    (hOk : provider spec ns = .ok (some r)) :
    ns = .str r.ns := by
  simp only [provider, Except.bind_eq_ok_iff] at hOk
  rcases hOk with ⟨ref, _, hOk⟩
  split at hOk
  · cases hOk
  · simp only [Except.bind_eq_ok_iff] at hOk
    rcases hOk with
      ⟨_, _, _, _, _, _, _, _, r', hReference, hSome⟩
    cases hSome
    exact reference_ns hReference

end Resource

/- A reference in a draft is the one that was drafted. -/
theorem Reference.ns_of_draft
    {path : List Record.Step}
    {reference : Option Reference}
    {r : Reference}
    (hValid :
      Record.orNull
        (Record.readRecord Reference.recordName
          Reference.check)
        path
        (Resource.draftRecord Reference.toJson
          reference) = .valid (some r)) :
    ∃ r₀, reference = some r₀ ∧ r.ns = r₀.ns := by
  have hRead := Record.read_of_orNull hValid
  cases reference with
  | none => cases hRead
  | some r₀ =>
      have hText := Mesh.eq_of_readNs
        (Reference.meets_check _ _ _ hRead) rfl
      exact ⟨r₀, rfl, (Json.str.inj hText).symm⟩

namespace Conversion

open Resource

theorem eventType_livesIn
    {c : Conversion}
    {raw : Json}
    {e : EventType}
    (hOk : c.eventType raw = .ok e) :
    LivesIn raw e.ns ∧
      ∀ r, e.reference = some r → r.ns = e.ns := by
  simp only [eventType, Except.bind_eq_ok_iff,
    Failure.lift_eq_ok_iff, Failure.ofChecked_eq_ok_iff]
    at hOk
  rcases hOk with
    ⟨md, hMd, spec, _, ns, hNs, _, _, reference, hProvider,
      _, _, _, _, _, _, _, _, _, _, _, _, _, _, _, _,
      hValid⟩
  rcases EventType.meets_check _ _ _ hValid with
    ⟨hReadNs, hReference, -⟩
  have hText := Mesh.eq_of_readNs hReadNs rfl
  refine ⟨⟨md, hMd, hText ▸ hNs⟩, fun r hSome => ?_⟩
  rw [hSome] at hReference
  rcases Reference.ns_of_draft
      (Record.read_of_withDefault hReference rfl) with
    ⟨r₀, rfl, hSame⟩
  have hBeside := provider_ns hProvider
  rw [hText] at hBeside
  exact hSame.trans (Json.str.inj hBeside).symm

end Conversion

------------------------------------------------------------
-- Subscriptions
------------------------------------------------------------

namespace Resource

/- A broker is sought beside the trigger. -/
theorem brokerTarget_eq_ok
    {spec : Json}
    {ns key : String}
    (hOk : brokerTarget spec (.str ns) = .ok (.str key)) :
    ∃ name, key =
      Key.qualified Broker.apiGroup Broker.apiKind ns
        name := by
  simp only [brokerTarget, Except.bind_eq_ok_iff] at hOk
  rcases hOk with ⟨name, _, hOk⟩
  split at hOk
  · simp only [Except.bind_eq_ok_iff] at hOk
    rcases hOk with ⟨_, hNs, _, _, hOk⟩
    cases hNs
    cases hOk
    exact ⟨_, rfl⟩
  · cases hOk

/- A channel is sought beside the subscription. -/
theorem channelTarget_eq_ok
    {spec : Json}
    {ns key : String}
    (hOk : channelTarget spec (.str ns) = .ok (.str key)) :
    ∃ group kind name,
      key = Key.qualified group kind ns name := by
  simp only [channelTarget, Except.bind_eq_ok_iff] at hOk
  rcases hOk with ⟨_, _, name, _, hOk⟩
  split at hOk
  · cases hOk
  · simp only [Except.bind_eq_ok_iff] at hOk
    rcases hOk with ⟨kind, _, hOk⟩
    split at hOk
    · cases hOk
    · simp only [Except.bind_eq_ok_iff] at hOk
      rcases hOk with
        ⟨_, _, group, _, _, _, _, _, _, hNs, _, _, hOk⟩
      rw [Json.text?_str] at hNs
      cases hNs
      cases hOk
      exact ⟨_, _, _, rfl⟩

end Resource

namespace Conversion

open Resource

variable {raw : Json} {s : Subscription}

theorem trigger_livesIn (hOk : trigger raw = .ok s) :
    LivesIn raw s.ns ∧
      ∀ key, s.target = some key →
        ∃ group kind name,
          key = Key.qualified group kind s.ns name := by
  simp only [trigger, Except.bind_eq_ok_iff,
    Failure.lift_eq_ok_iff, Failure.ofChecked_eq_ok_iff]
    at hOk
  rcases hOk with
    ⟨md, hMd, spec, _, ns, hNs, target, hTarget, _, _, _, _,
      _, _, hValid⟩
  rcases Subscription.meets_check _ _ _ hValid with
    ⟨hReadNs, hRead⟩
  have hText := Mesh.eq_of_readNs hReadNs rfl
  refine ⟨⟨md, hMd, hText ▸ hNs⟩, fun key hSome => ?_⟩
  rw [hSome] at hRead
  have hKey := Subscription.eq_of_target hRead rfl
  rw [hKey, hText] at hTarget
  rcases brokerTarget_eq_ok hTarget with ⟨name, hEq⟩
  exact ⟨Broker.apiGroup, Broker.apiKind, name, hEq⟩

theorem channelSubscription_livesIn
    (hOk : channelSubscription raw = .ok s) :
    LivesIn raw s.ns ∧
      ∀ key, s.target = some key →
        ∃ group kind name,
          key = Key.qualified group kind s.ns name := by
  simp only [channelSubscription, Except.bind_eq_ok_iff,
    Failure.lift_eq_ok_iff, Failure.ofChecked_eq_ok_iff]
    at hOk
  rcases hOk with
    ⟨md, hMd, spec, _, ns, hNs, target, hTarget, _, _, _, _,
      hValid⟩
  rcases Subscription.meets_check _ _ _ hValid with
    ⟨hReadNs, hRead⟩
  have hText := Mesh.eq_of_readNs hReadNs rfl
  refine ⟨⟨md, hMd, hText ▸ hNs⟩, fun key hSome => ?_⟩
  rw [hSome] at hRead
  have hKey := Subscription.eq_of_target hRead rfl
  rw [hKey, hText] at hTarget
  exact channelTarget_eq_ok hTarget

end Conversion

end EventTopology
