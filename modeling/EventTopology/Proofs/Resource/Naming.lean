import EventTopology.Proofs.Cluster.Typing
import EventTopology.Proofs.Key
import EventTopology.Proofs.Mesh.Reading
import EventTopology.Proofs.Resource.Annotations

/-
  This file says how resources name one another.  What a
  record refers to, targets or sends to is what was read of
  its resource; and where a resource names another one by
  texts, these texts are what is read.

  Key definitions include:
    * `Key.IsGroupOf`
    * `Resource.Names`
    * `Resource.placeOf`
    * `Conversion.Subscribes`

  What conversions keep is described by:
    * `Conversion.eventType_links`
    * `Conversion.source_links`
    * `Conversion.trigger_links`
    * `Conversion.channelSubscription_links`

  What is read of texts that name is described by:
    * `Conversion.eventType_reference_of_names`
    * `Conversion.trigger_target_of_text`
    * `Conversion.channelSubscription_target_of_names`
    * `Conversion.Subscribes.subscriber_of_names`
    * `Conversion.source_sink_of_names`
-/

------------------------------------------------------------
-- Groups
------------------------------------------------------------

namespace EventTopology

namespace Key

/-
  The group of a version: the text before its first slash,
  or all of it when it has none.
-/
def IsGroupOf (group version : String) : Prop :=
  Plain group ∧
    (version = group ∨ ∃ rest, version = namespaced group rest)

theorem groupOf_eq_iff {group version : String} :
    groupOf version = group ↔ IsGroupOf group version := by
  unfold groupOf
  cases hSplit : Text.splitOnce '/' version with
  | none =>
      have hPlain : Plain version :=
        Text.splitOnce_eq_none_iff.mp hSplit
      constructor
      · intro hSame
        have hSame : version = group := hSame
        subst hSame
        exact ⟨hPlain, Or.inl rfl⟩
      · intro hGroup
        rcases hGroup with ⟨_, hSame | ⟨rest, hSlash⟩⟩
        · exact hSame
        · rw [hSlash] at hPlain
          exact (hPlain (by simp [namespaced])).elim
  | some parts =>
      rcases parts with ⟨head, rest⟩
      rcases Text.splitOnce_eq_some_iff.mp hSplit with
        ⟨hWhole, hHead⟩
      have hWhole : version = namespaced head rest := by
        apply String.toList_injective
        rw [hWhole, toList_namespaced]
      constructor
      · intro hSame
        have hSame : head = group := hSame
        subst hSame
        exact ⟨hHead, Or.inr ⟨rest, hWhole⟩⟩
      · intro hGroup
        rcases hGroup with ⟨hPlain, hSame | ⟨rest', hSlash⟩⟩
        · rw [← hSame, hWhole] at hPlain
          exact (hPlain (by simp [namespaced])).elim
        · rw [hWhole] at hSlash
          exact (namespaced_inj hHead hPlain hSlash).1

/- The group of a version that is a text. -/
theorem groupOfValue_eq (version : String) :
    groupOfValue (.str version) =
      .ok (.str (groupOf version)) := by
  have hSlash :
      Json.occursIn "/".toList version.toList = true ↔
        '/' ∈ version.toList := Json.occursIn_singleton
  simp only [groupOfValue, Json.contains]
  cases hOccurs : Json.occursIn "/".toList version.toList with
  | true => rfl
  | false =>
      have hPlain : Plain version := by
        rw [Plain, ← hSlash, hOccurs]
        exact Bool.false_ne_true
      have hSame : groupOf version = version :=
        groupOf_eq_iff.mpr ⟨hPlain, Or.inl rfl⟩
      rw [hSame]
      rfl

end Key

------------------------------------------------------------
-- Links of Records
------------------------------------------------------------

namespace Record

/- Null is read as nothing, and a text as it is. -/
theorem eq_of_readTextOrNull
    {path : List Step}
    {v : Json}
    {o : Option String}
    (hRead : orNull readText path (.value v) = .valid o) :
    v = .ofText? o := by
  cases v with
  | null =>
      cases hRead
      rfl
  | str s =>
      cases hRead
      rfl
  | _ => cases hRead

end Record

open Record

/- A drafted reference is read as it was drafted. -/
theorem Reference.read_draft
    (path : List Step)
    (r : Option Reference) :
    orNull (readRecord recordName check) path
      (Resource.draftRecord toJson r) = .valid r := by
  cases r with
  | none => rfl
  | some r => rfl

theorem ObjectReference.read_draft
    (path : List Step)
    (r : Option ObjectReference) :
    orNull (readRecord recordName check) path
      (Resource.draftRecord toJson r) = .valid r := by
  cases r with
  | none => rfl
  | some r => rfl

theorem Source.meets_links
    (path : List Step)
    (d : Draft) :
    (Source.check path d).Meets fun s =>
      withDefault path d Mesh.Field.declaredTypes
        (readList readText) [] = .valid s.declaredTypes ∧
      withDefault path d Mesh.Field.sink
        (orNull
          (readRecord Reference.recordName Reference.check))
        none = .valid s.sink := by
  unfold check
  iterate 9 apply Checked.meets_seq
  apply Checked.meets_map
  intro _ _ _ _ _ _ _ _ _ _ _ _ _ _ _ hDeclared _ _ _
    hSink
  exact ⟨hDeclared, hSink⟩

theorem Subscription.meets_links
    (path : List Step)
    (d : Draft) :
    (Subscription.check path d).Meets fun s =>
      withDefault path d (.plain "subscriber")
        (orNull
          (readRecord ObjectReference.recordName
            ObjectReference.check))
        none = .valid s.subscriber := by
  unfold check
  iterate 5 apply Checked.meets_seq
  apply Checked.meets_map
  intro _ _ _ _ _ _ _ _ _ hSubscriber _ _
  exact hSubscriber

/- What a draft says of its links, the record says too. -/
theorem Subscription.links_of_draft
    {d : Draft}
    {s : Subscription}
    {name name' name'' : String}
    {ns target : Json}
    {subscriber : Option ObjectReference}
    (hValid : Subscription.check [] d = .valid s)
    (hNs : d.find Mesh.Field.ns = some (name, .value ns))
    (hTarget : d.find (.plain "target") =
      some (name', .value target))
    (hSubscriber : d.find (.plain "subscriber") =
      some (name'',
        Resource.draftRecord ObjectReference.toJson
          subscriber)) :
    ns = .str s.ns ∧ target = .ofText? s.target ∧
      subscriber = s.subscriber := by
  rcases Subscription.meets_check _ _ _ hValid with
    ⟨hReadNs, hReadTarget⟩
  have hText := eq_of_readTextOrNull
    (read_of_withDefault hReadTarget hTarget)
  have hRead := read_of_withDefault
    (Subscription.meets_links _ _ _ hValid) hSubscriber
  rw [ObjectReference.read_draft] at hRead
  exact ⟨Mesh.eq_of_readNs hReadNs hNs, hText,
    Checked.valid.inj hRead⟩

------------------------------------------------------------
-- What Conversions Keep
------------------------------------------------------------

namespace Conversion

open Resource

variable {c : Conversion} {raw : Json}

/- An event type refers to what is read of its resource. -/
theorem eventType_links
    {e : EventType}
    (hOk : c.eventType raw = .ok e) :
    LivesIn raw e.ns ∧
      ∃ spec, Resource.spec raw = .ok spec ∧
        provider spec (.str e.ns) = .ok e.reference := by
  simp only [eventType, Except.bind_eq_ok_iff,
    Failure.lift_eq_ok_iff, Failure.ofChecked_eq_ok_iff]
    at hOk
  rcases hOk with
    ⟨md, hMd, spec, hSpec, ns, hNs, _, _, reference,
      hProvider, _, _, _, _, _, _, _, _, _, _, _, _, _, _, _,
      _, hValid⟩
  rcases EventType.meets_check _ _ _ hValid with
    ⟨hReadNs, hReference, -⟩
  have hText : ns = .str e.ns :=
    Mesh.eq_of_readNs hReadNs rfl
  have hRead := read_of_withDefault hReference rfl
  rw [Reference.read_draft] at hRead
  have hSame : reference = e.reference :=
    Checked.valid.inj hRead
  rw [hText] at hNs hProvider
  rw [hSame] at hProvider
  exact ⟨⟨md, hMd, hNs⟩, spec, hSpec, hProvider⟩

/-
  A source has the types of its kind and sends to what is
  read of its resource.
-/
theorem source_links
    {coords : KindCoordinates}
    {declared : List String}
    {s : Source}
    (hOk :
      c.source coords (.ofTexts declared) raw = .ok s) :
    s.declaredTypes = declared ∧ sink raw = .ok s.sink := by
  simp only [source, Except.bind_eq_ok_iff,
    Failure.lift_eq_ok_iff, Failure.ofChecked_eq_ok_iff]
    at hOk
  rcases hOk with
    ⟨_, _, _, _, _, _, _, _, _, _, _, _, _, _, sink, hSink,
      hValid⟩
  rcases Source.meets_links _ _ _ hValid with
    ⟨hReadDeclared, hReadSink⟩
  have hDeclared := read_of_withDefault hReadDeclared rfl
  rw [undoes_texts] at hDeclared
  have hRead := read_of_withDefault hReadSink rfl
  rw [Reference.read_draft] at hRead
  have hSame : sink = s.sink := Checked.valid.inj hRead
  rw [hSame] at hSink
  exact ⟨(Checked.valid.inj hDeclared).symm, hSink⟩

/-
  A trigger has the target and the subscriber that are read
  of its resource.
-/
theorem trigger_links
    {s : Subscription}
    (hOk : trigger raw = .ok s) :
    LivesIn raw s.ns ∧
      ∃ spec, Resource.spec raw = .ok spec ∧
        brokerTarget spec (.str s.ns) =
          .ok (.ofText? s.target) ∧
        subscriber spec (.str s.ns) =
          .ok s.subscriber := by
  simp only [trigger, Except.bind_eq_ok_iff,
    Failure.lift_eq_ok_iff, Failure.ofChecked_eq_ok_iff]
    at hOk
  rcases hOk with
    ⟨md, hMd, spec, hSpec, ns, hNs, target, hTarget, _, _, _,
      _, subscriber, hSubscriber, hValid⟩
  rcases Subscription.links_of_draft hValid rfl rfl rfl with
    ⟨rfl, rfl, rfl⟩
  exact ⟨⟨md, hMd, hNs⟩, spec, hSpec, hTarget,
    hSubscriber⟩

theorem channelSubscription_links
    {s : Subscription}
    (hOk : channelSubscription raw = .ok s) :
    LivesIn raw s.ns ∧
      ∃ spec, Resource.spec raw = .ok spec ∧
        channelTarget spec (.str s.ns) =
          .ok (.ofText? s.target) ∧
        subscriber spec (.str s.ns) =
          .ok s.subscriber := by
  simp only [channelSubscription, Except.bind_eq_ok_iff,
    Failure.lift_eq_ok_iff, Failure.ofChecked_eq_ok_iff]
    at hOk
  rcases hOk with
    ⟨md, hMd, spec, hSpec, ns, hNs, target, hTarget, _, _,
      subscriber, hSubscriber, hValid⟩
  rcases Subscription.links_of_draft hValid rfl rfl rfl with
    ⟨rfl, rfl, rfl⟩
  exact ⟨⟨md, hMd, hNs⟩, spec, hSpec, hTarget,
    hSubscriber⟩

end Conversion

------------------------------------------------------------
-- Members That Are Texts
------------------------------------------------------------

namespace Json

variable {v : Json} {name s : String}

/- Only objects have members that are not null. -/
theorem get_of_member
    (hSome : v.member name ≠ .null) :
    v.get name = .ok (v.member name) := by
  cases v with
  | obj ms => rfl
  | _ => exact (hSome rfl).elim

theorem get_of_text
    (hText : v.member name = .str s) :
    v.get name = .ok (.str s) := by
  rw [← hText]
  apply get_of_member
  rw [hText]
  exact Json.noConfusion

theorem getText_of_text
    (hText : v.member name = .str s) :
    v.getText name = .ok (.str s) := by
  cases v with
  | obj ms =>
      change Except.ok ((Table.lookup name ms).getD _) = _
      change (Table.lookup name ms).getD .null = _ at hText
      cases hFound : Table.lookup name ms with
      | none =>
          rw [hFound] at hText
          cases hText
      | some w =>
          rw [hFound] at hText
          exact congrArg Except.ok hText
  | _ => cases hText

/- A text or null tells which text it is of. -/
theorem ofText?_inj
    {o o' : Option String}
    (hSame : ofText? o = ofText? o') :
    o = o' := by
  cases o <;> cases o' <;> cases hSame <;> rfl

theorem dig_null (path : List String) :
    dig path .null = .null := by
  induction path with
  | nil => rfl
  | cons name path ih => exact ih

/- On the way to what is found nothing is missing. -/
theorem get_of_dig
    {path : List String}
    (hSome : v.dig (name :: path) ≠ .null) :
    v.get name = .ok (v.member name) := by
  apply get_of_member
  intro hNull
  apply hSome
  rw [dig, hNull, dig_null]

/- Nor does it matter that false values count as empty. -/
theorem orEmpty_get_of_dig
    {path : List String}
    (hSome : v.dig (name :: path) ≠ .null) :
    v.orEmpty.get name = .ok (v.member name) := by
  rw [← member_orEmpty]
  apply get_of_dig
  rwa [dig, member_orEmpty]

end Json

------------------------------------------------------------
-- Texts That Name
------------------------------------------------------------

namespace Resource

/- The texts by which a value names a resource. -/
structure Names
    (ref : Json)
    (version kind name : String) : Prop where
  version : ref.member "apiVersion" = .str version
  kind : ref.member "kind" = .str kind
  name : ref.member "name" = .str name

/-
  Where a named resource lives: in a namespace of its own,
  if one is named, and else where it is named from.
-/
def placeOf (own : Option String) (ns : String) : String :=
  (own.filter (· ≠ "")).getD ns

variable {raw spec ref : Json}
variable {version kind ns name : String}

/- Only an object with members names anything. -/
theorem Names.exists_members
    (hNames : Names ref version kind name) :
    ∃ ms, ref = .obj ms ∧ ref.truthy := by
  have hName := hNames.name
  cases ref with
  | obj ms =>
      cases ms with
      | nil => cases hName
      | cons m ms => exact ⟨_, rfl, rfl⟩
  | _ => cases hName

/- What stands in a resource is no null. -/
theorem Names.ne_null
    (hNames : Names ref version kind name) :
    ref ≠ .null := by
  rcases hNames.exists_members with ⟨ms, rfl, _⟩
  exact Json.noConfusion

/- What is found in a spec is found through the resource. -/
theorem dig_of_spec
    (hSpec : Resource.spec raw = .ok spec)
    (name : String)
    (path : List String) :
    spec.dig (name :: path) =
      raw.dig ("spec" :: name :: path) := by
  cases raw with
  | obj ms =>
      cases hSpec
      rw [Json.dig, Json.member_orEmpty]
      rfl
  | _ => cases hSpec

/- A resource lives in one namespace. -/
theorem LivesIn.unique
    {ns ns' : String}
    (hLives : LivesIn raw ns)
    (hLives' : LivesIn raw ns') :
    ns = ns' := by
  rcases hLives with ⟨md, hMd, hNs⟩
  rcases hLives' with ⟨md', hMd', hNs'⟩
  rw [hMd] at hMd'
  cases hMd'
  rw [hNs] at hNs'
  cases hNs'
  rfl

/- A resource in which something is found has that part. -/
theorem spec_of_dig
    {path : List String}
    (hSome : raw.dig ("spec" :: path) ≠ .null) :
    Resource.spec raw = .ok (raw.member "spec").orEmpty := by
  rw [Resource.spec, Json.get_of_dig hSome]
  rfl

/- A text is true if it is not empty. -/
theorem truthy_text (s : String) :
    (Json.str s).truthy = !decide (s = "") := by
  simp [Json.truthy]

/- The provider of an event type whose texts name one. -/
theorem provider_of_names
    (hNames :
      Names (spec.member "reference") version kind name) :
    provider spec (.str ns) =
      .ok (some ⟨Key.groupOf version, kind, ns, name⟩) := by
  rcases hNames.exists_members with ⟨_, _, hTruthy⟩
  unfold provider
  simp only [Json.get_of_member hNames.ne_null,
    Json.getText_of_text hNames.version,
    Json.getText_of_text hNames.kind,
    Json.getText_of_text hNames.name, hTruthy,
    Key.groupOfValue_eq, Failure.lift_ok_bind]
  rfl

/- The broker that a trigger names by a text. -/
theorem brokerTarget_of_text
    (hName : spec.member "broker" = .str name) :
    brokerTarget spec (.str ns) =
      .ok (.ofText?
        (if name = "" then none
          else some (Key.qualified Broker.apiGroup
            Broker.apiKind ns name))) := by
  unfold brokerTarget
  rw [Json.get_of_text hName]
  by_cases hEmpty : name = ""
  · subst hEmpty
    rfl
  · simp only [bind, Except.bind, truthy_text, hEmpty]
    rfl

/- The channel that a subscription names by texts. -/
theorem channelTarget_of_names
    (hNames :
      Names (spec.member "channel") version kind name) :
    channelTarget spec (.str ns) =
      .ok (.ofText?
        (if kind = "" ∨ name = "" then none
          else some (Key.qualified (Key.groupOf version)
            kind ns name))) := by
  have hSame :
      (spec.member "channel").orEmpty =
        spec.member "channel" := by
    rcases hNames.exists_members with ⟨_, _, hTruthy⟩
    exact if_pos hTruthy
  unfold channelTarget
  rw [Json.get_of_member hNames.ne_null]
  simp only [bind, Except.bind, hSame,
    Json.get_of_text hNames.name,
    Json.get_of_text hNames.kind, truthy_text,
    Json.getText_of_text hNames.version,
    Key.groupOfValue_eq]
  by_cases hName : name = ""
  · simp only [hName, or_true]
    rfl
  · by_cases hKind : kind = ""
    · simp only [hName, hKind, true_or]
      rfl
    · simp only [hName, hKind, or_self]
      rfl

/- The sink of a source whose texts name one. -/
theorem sink_of_names
    (hNames : Names (raw.dig ["spec", "sink", "ref"])
      version kind name)
    (hVersion : version ≠ "")
    (hKind : kind ≠ "")
    (hName : name ≠ "")
    (hNs : LivesIn raw ns) :
    sink raw =
      .ok (some ⟨Key.groupOf version, kind, ns, name⟩) := by
  have hSome := hNames.ne_null
  rcases hNs with ⟨md, hMd, hText⟩
  rcases hNames.exists_members with ⟨ms, hRef, _⟩
  have hFound :
      ((raw.member "spec").member "sink").member "ref" =
        .obj ms := hRef
  rw [hRef] at hNames
  have hIsVersion :
      Json.find "apiVersion" ms = .str version :=
    hNames.version
  have hIsKind : Json.find "kind" ms = .str kind :=
    hNames.kind
  have hIsName : Json.find "name" ms = .str name :=
    hNames.name
  unfold sink
  simp only [spec_of_dig hSome, hMd,
    Json.orEmpty_get_of_dig (v := raw.member "spec") hSome,
    Json.orEmpty_get_of_dig
      (v := (raw.member "spec").member "sink") hSome,
    Failure.lift_ok_bind, hFound, hText, hIsVersion,
    hIsKind, hIsName, truthy_text, Key.groupOfValue_eq,
    hVersion, hKind, hName]
  rfl

/- An empty namespace is none. -/
theorem orElse_eq_placeOf
    (own : Option String)
    (ns : String) :
    (Json.ofText? own).orElse (.str ns) =
      .str (placeOf own ns) := by
  cases own with
  | none => rfl
  | some s =>
      by_cases hEmpty : s = ""
      · subst hEmpty
        rfl
      · simp [Json.ofText?, Json.orElse, truthy_text,
          placeOf, Option.filter, hEmpty]

/- The subscriber that a spec names by texts. -/
theorem subscriber_of_names
    {own : Option String}
    (hNames : Names (spec.dig ["subscriber", "ref"])
      version kind name)
    (hKind : kind ≠ "")
    (hName : name ≠ "")
    (hOwn : (spec.dig ["subscriber", "ref"]).member
      "namespace" = .ofText? own) :
    subscriber spec (.str ns) =
      .ok (some ⟨version, kind, placeOf own ns, name⟩) := by
  have hSome := hNames.ne_null
  rcases hNames.exists_members with ⟨ms, hRef, hTruthy⟩
  have hGetNs :
      (spec.dig ["subscriber", "ref"]).get "namespace" =
        .ok (.ofText? own) := by
    rw [← hOwn, hRef]
    rfl
  have hFound :
      (spec.member "subscriber").member "ref" =
        spec.dig ["subscriber", "ref"] := rfl
  unfold subscriber
  simp only [Json.get_of_dig hSome,
    Json.orEmpty_get_of_dig (v := spec.member "subscriber")
      hSome,
    Failure.lift_ok_bind, hFound, hTruthy,
    Json.get_of_text hNames.name,
    Json.get_of_text hNames.kind, truthy_text, hName,
    hKind, hGetNs, Json.getText_of_text hNames.version,
    orElse_eq_placeOf]
  rfl

end Resource

------------------------------------------------------------
-- Links That Are Named
------------------------------------------------------------

namespace Conversion

open Resource

variable {c : Conversion} {raw : Json}
variable {version kind ns name : String}

/- The reference of an event type that names a provider. -/
theorem eventType_reference_of_names
    {e : EventType}
    (hOk : c.eventType raw = .ok e)
    (hNs : LivesIn raw ns)
    (hNames : Names (raw.dig ["spec", "reference"])
      version kind name) :
    e.reference =
      some ⟨Key.groupOf version, kind, ns, name⟩ := by
  rcases eventType_links hOk with
    ⟨hLives, spec, hSpec, hProvider⟩
  rw [hLives.unique hNs] at hProvider
  rw [← dig_of_spec hSpec] at hNames
  rw [provider_of_names hNames] at hProvider
  exact (Except.ok.inj hProvider).symm

/- The target of a trigger that names a broker. -/
theorem trigger_target_of_text
    {s : Subscription}
    (hOk : trigger raw = .ok s)
    (hNs : LivesIn raw ns)
    (hName : raw.dig ["spec", "broker"] = .str name) :
    s.target =
      if name = "" then none
      else some (Key.qualified Broker.apiGroup
        Broker.apiKind ns name) := by
  rcases trigger_links hOk with
    ⟨hLives, spec, hSpec, hTarget, _⟩
  rw [hLives.unique hNs] at hTarget
  rw [← dig_of_spec hSpec] at hName
  rw [brokerTarget_of_text hName] at hTarget
  exact Json.ofText?_inj (Except.ok.inj hTarget).symm

/- The target of a subscription that names a channel. -/
theorem channelSubscription_target_of_names
    {s : Subscription}
    (hOk : channelSubscription raw = .ok s)
    (hNs : LivesIn raw ns)
    (hNames : Names (raw.dig ["spec", "channel"])
      version kind name) :
    s.target =
      if kind = "" ∨ name = "" then none
      else some (Key.qualified (Key.groupOf version) kind
        ns name) := by
  rcases channelSubscription_links hOk with
    ⟨hLives, spec, hSpec, hTarget, _⟩
  rw [hLives.unique hNs] at hTarget
  rw [← dig_of_spec hSpec] at hNames
  rw [channelTarget_of_names hNames] at hTarget
  exact Json.ofText?_inj (Except.ok.inj hTarget).symm

/- A trigger or a channel subscription reads a resource. -/
def Subscribes (raw : Json) (s : Subscription) : Prop :=
  trigger raw = .ok s ∨ channelSubscription raw = .ok s

theorem Subscribes.links
    {s : Subscription}
    (hReads : Subscribes raw s) :
    LivesIn raw s.ns ∧
      ∃ spec, Resource.spec raw = .ok spec ∧
        subscriber spec (.str s.ns) =
          .ok s.subscriber := by
  rcases hReads with hTrigger | hChannel
  · rcases trigger_links hTrigger with
      ⟨hLives, spec, hSpec, _, hSubscriber⟩
    exact ⟨hLives, spec, hSpec, hSubscriber⟩
  · rcases channelSubscription_links hChannel with
      ⟨hLives, spec, hSpec, _, hSubscriber⟩
    exact ⟨hLives, spec, hSpec, hSubscriber⟩

/- The subscriber of a subscription that names one. -/
theorem Subscribes.subscriber_of_names
    {s : Subscription}
    {own : Option String}
    (hReads : Subscribes raw s)
    (hNs : LivesIn raw ns)
    (hNames :
      Names (raw.dig ["spec", "subscriber", "ref"])
        version kind name)
    (hKind : kind ≠ "")
    (hName : name ≠ "")
    (hOwn : (raw.dig ["spec", "subscriber", "ref"]).member
      "namespace" = .ofText? own) :
    s.subscriber =
      some ⟨version, kind, placeOf own ns, name⟩ := by
  rcases hReads.links with
    ⟨hLives, spec, hSpec, hSubscriber⟩
  rw [hLives.unique hNs] at hSubscriber
  rw [← dig_of_spec hSpec] at hNames hOwn
  rw [Resource.subscriber_of_names hNames hKind hName hOwn]
    at hSubscriber
  exact (Except.ok.inj hSubscriber).symm

/- The sink of a source that names one. -/
theorem source_sink_of_names
    {coords : KindCoordinates}
    {declared : List String}
    {s : Source}
    (hOk :
      c.source coords (.ofTexts declared) raw = .ok s)
    (hNs : LivesIn raw ns)
    (hNames : Names (raw.dig ["spec", "sink", "ref"])
      version kind name)
    (hVersion : version ≠ "")
    (hKind : kind ≠ "")
    (hName : name ≠ "") :
    s.sink = some ⟨Key.groupOf version, kind, ns, name⟩ := by
  have hSink := (source_links hOk).2
  rw [sink_of_names hNames hVersion hKind hName hNs] at hSink
  exact (Except.ok.inj hSink).symm

end Conversion

end EventTopology
