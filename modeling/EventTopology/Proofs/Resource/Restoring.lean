import EventTopology.Proofs.Cluster.Holding
import EventTopology.Proofs.Resource.Agreement
import EventTopology.Proofs.Resource.Coordinates
import EventTopology.Proofs.Resource.Making

/-
  This file shows that conversions undo manifests.  What a
  manifest was made of is what its conversion reads, up to
  what cannot be told apart: texts that are empty, missing
  namespaces, and annotations that are excluded.  An instance
  is of the kind that it names, or else of the kind that it
  is listed for.

  Key definitions include:
    * `Conversion.kindOf`
    * `Store.Files`
    * `Conversion.Restores`

  Each conversion is described by:
    * `Conversion.broker_of_bears`
    * `Conversion.subscribable_of_bears`
    * `Conversion.source_of_bears`
    * `Conversion.eventType_of_bears`
    * `Conversion.trigger_of_parts`
    * `Conversion.channelSubscription_of_parts`
    * `Definition.coordinates_of_parts`

  The main results are:
    * `Store.files_of_texts`
    * `Conversion.restores_manifests`
-/

------------------------------------------------------------
-- Providers
------------------------------------------------------------

namespace EventTopology

namespace Conversion

open Resource Record Record.Checked

variable {c : Conversion}
variable {raw md : Json}
variable {name ns uid : String}
variable {labels left : Option Labels}

/- A broker has the metadata of its resource. -/
theorem broker_of_bears
    (hMd : Resource.metadata raw = .ok md)
    (hBears : Bears c md name ns uid labels left) :
    c.broker raw =
      .ok
        { name := name
          ns := ns
          uid := uid
          labels := labels
          annotations := left } := by
  rcases hBears.labels with ⟨found, hFound, hLabels⟩
  rcases hBears.annotations with ⟨kept, hKept, hLeft⟩
  unfold broker
  simp only [hMd, hBears.name, hBears.ns, hBears.uid,
    hFound, hKept, Failure.lift_ok_bind,
    Failure.ofChecked_eq_ok_iff]
  -- The fields of the draft are read in the record's order.
  exact seq_valid (seq_valid (seq_valid (seq_valid
    (seq_valid (map_valid _ rfl) rfl) rfl) (hLabels _))
    (hLeft _)) rfl

/- The kind of an instance, or that of its definition. -/
def kindOf
    (coords : KindCoordinates)
    (kind : String) : String :=
  if kind = "" then coords.kind else kind

theorem orElse_kind
    (coords : KindCoordinates)
    (kind : String) :
    (Json.str kind).orElse (.str coords.kind) =
      .str (kindOf coords kind) := by
  unfold Json.orElse kindOf
  rw [truthy_text]
  by_cases hEmpty : kind = "" <;> simp [hEmpty]

theorem subscribable_of_bears
    {kind : String}
    (hMd : Resource.metadata raw = .ok md)
    (hBears : Bears c md name ns uid labels left)
    (hKind : raw.get "kind" = .ok (.str kind))
    (coords : KindCoordinates) :
    c.subscribable coords raw =
      .ok
        { name := name
          ns := ns
          uid := uid
          group := coords.group
          kind := kindOf coords kind
          labels := labels
          annotations := left } := by
  rcases hBears.labels with ⟨found, hFound, hLabels⟩
  rcases hBears.annotations with ⟨kept, hKept, hLeft⟩
  unfold subscribable
  simp only [hMd, hBears.name, hBears.ns, hBears.uid,
    hFound, hKept, hKind, orElse_kind,
    Failure.lift_ok_bind, Failure.ofChecked_eq_ok_iff]
  exact seq_valid (seq_valid (seq_valid (seq_valid
    (seq_valid (seq_valid (seq_valid (map_valid _ rfl) rfl)
      rfl) rfl) rfl) (hLabels _)) (hLeft _)) rfl

theorem source_of_bears
    {kind : String}
    {target : Option Reference}
    (hMd : Resource.metadata raw = .ok md)
    (hBears : Bears c md name ns uid labels left)
    (hKind : raw.get "kind" = .ok (.str kind))
    (hSink : sink raw = .ok target)
    (coords : KindCoordinates)
    (declared : List String) :
    c.source coords (.ofTexts declared) raw =
      .ok
        { name := name
          ns := ns
          uid := uid
          group := coords.group
          kind := kindOf coords kind
          labels := labels
          annotations := left
          declaredTypes := declared
          sink := target } := by
  rcases hBears.labels with ⟨found, hFound, hLabels⟩
  rcases hBears.annotations with ⟨kept, hKept, hLeft⟩
  unfold source
  simp only [hMd, hBears.name, hBears.ns, hBears.uid,
    hFound, hKept, hKind, hSink, orElse_kind,
    Failure.lift_ok_bind]
  apply Failure.ofChecked_eq_ok_iff.mpr
  exact seq_valid (seq_valid (seq_valid (seq_valid
    (seq_valid (seq_valid (seq_valid (seq_valid (seq_valid
      (map_valid _ rfl) rfl) rfl) rfl) rfl) (hLabels _))
      (hLeft _)) (undoes_texts _ _)) rfl)
      (Reference.read_draft _ _)

end Conversion

------------------------------------------------------------
-- Event Types
------------------------------------------------------------

namespace Record

theorem undoes_textOrNull (o : Option String) :
    Undoes (orNull readText) .ofText? o := by
  intro path
  cases o <;> rfl

end Record

namespace Conversion

open Resource Record Record.Checked

variable {c : Conversion}
variable {raw md : Json}
variable {spec : Json.Members}
variable {name ns uid type : String}
variable {labels left : Option Labels}
variable {description data url : Option String}
variable {ref : Option Reference}

/- An event type has what is read of its resource. -/
theorem eventType_of_bears
    (hMd : Resource.metadata raw = .ok md)
    (hBears : Bears c md name ns uid labels left)
    (hSpec : Resource.spec raw = .ok (.obj spec))
    (hType : typeAndSchema (.obj spec) =
      .ok ⟨.str type, .ofText? url⟩)
    (hRef : provider (.obj spec) (.str ns) = .ok ref)
    (hDescription :
      textOrNull (Json.find "description" spec) =
        .ok (.ofText? description))
    (hData :
      textOrNull (Json.find "schemaData" spec) =
        .ok (.ofText? data)) :
    c.eventType raw =
      .ok
        { name := name
          ns := ns
          type := type
          uid := uid
          description := description
          schemaData := data
          schemaUrl := url
          labels := labels
          annotations := left
          reference := ref } := by
  rcases hBears.labels with ⟨found, hFound, hLabels⟩
  rcases hBears.annotations with ⟨kept, hKept, hLeft⟩
  have hGet (name : String) :
      (Json.obj spec).get name =
        .ok (Json.find name spec) := rfl
  unfold eventType
  simp only [hMd, hSpec, hBears.name, hBears.ns, hBears.uid,
    hType, hRef, hFound, hKept, hGet, hDescription, hData,
    Failure.lift_ok_bind]
  apply Failure.ofChecked_eq_ok_iff.mpr
  rw [orElse_text]
  exact seq_valid (seq_valid (seq_valid (seq_valid
    (seq_valid (seq_valid (seq_valid (seq_valid (seq_valid
      (seq_valid (map_valid _ rfl) rfl) rfl) rfl)
      (undoes_textOrNull _ _)) (undoes_textOrNull _ _))
      (undoes_textOrNull _ _)) (hLabels _)) (hLeft _))
      (Reference.read_draft _ _)) rfl

end Conversion

------------------------------------------------------------
-- Subscriptions
------------------------------------------------------------

namespace Conversion

open Resource Record Record.Checked

variable {raw md spec : Json}
variable {name ns : String}
variable {target filter : Option String}
variable {found : Option ObjectReference}

/- A trigger has what is read of its resource. -/
theorem trigger_of_parts
    (hMd : Resource.metadata raw = .ok md)
    (hName : md.getText "name" = .ok (.str name))
    (hNs : md.getText "namespace" = .ok (.str ns))
    (hSpec : Resource.spec raw = .ok spec)
    (hTarget : brokerTarget spec (.str ns) =
      .ok (.ofText? target))
    (hSubscriber : subscriber spec (.str ns) = .ok found)
    (hFilter : typeFilter spec = .ok (.ofText? filter)) :
    trigger raw =
      .ok
        { name := name
          ns := ns
          origin := "Trigger"
          target := target
          subscriber := found
          typeFilter := filter } := by
  unfold trigger
  simp only [hMd, hName, hNs, hSpec, hTarget, hSubscriber,
    hFilter, Failure.lift_ok_bind]
  apply Failure.ofChecked_eq_ok_iff.mpr
  exact seq_valid (seq_valid (seq_valid (seq_valid
    (seq_valid (map_valid _ rfl) rfl) rfl)
    (undoes_textOrNull _ _))
    (ObjectReference.read_draft _ _))
    (undoes_textOrNull _ _)

/- So has a channel subscription, which has no filter. -/
theorem channelSubscription_of_parts
    (hMd : Resource.metadata raw = .ok md)
    (hName : md.getText "name" = .ok (.str name))
    (hNs : md.getText "namespace" = .ok (.str ns))
    (hSpec : Resource.spec raw = .ok spec)
    (hTarget : channelTarget spec (.str ns) =
      .ok (.ofText? target))
    (hSubscriber : subscriber spec (.str ns) = .ok found) :
    channelSubscription raw =
      .ok
        { name := name
          ns := ns
          origin := "Subscription"
          target := target
          subscriber := found } := by
  unfold channelSubscription
  simp only [hMd, hName, hNs, hSpec, hTarget, hSubscriber,
    Failure.lift_ok_bind]
  apply Failure.ofChecked_eq_ok_iff.mpr
  exact seq_valid (seq_valid (seq_valid (seq_valid
    (seq_valid (map_valid _ rfl) rfl) rfl)
    (undoes_textOrNull _ _))
    (ObjectReference.read_draft _ _)) rfl

end Conversion

------------------------------------------------------------
-- Definitions
------------------------------------------------------------

namespace Definition

open Resource

variable {raw md found : Json}
variable {spec names : Json.Members}
variable {version : String}

/- A version that is served is the first of a list. -/
theorem servedVersion_of_list
    {versions : List Json}
    {v : Json}
    (hVersions : Json.find "versions" spec = .arr versions)
    (hFirst : versions.findSome? servedName? = some v)
    (definition : Json) :
    servedVersion definition (.obj spec) = .ok v := by
  have hGet : (Json.obj spec).get "versions" =
      .ok (.arr versions) := congrArg Except.ok hVersions
  have hListed : (Json.arr versions).truthy = true := by
    cases versions with
    | nil => cases hFirst
    | cons w versions => rfl
  have hIterate :
      (Json.arr versions).iterate = .ok versions := rfl
  unfold servedVersion
  simp only [hGet, Failure.lift_ok_bind, Json.orElse,
    hListed, if_true, hIterate, hFirst, Bool.not_true,
    Bool.false_eq_true, if_false]
  rfl

/- The coordinates of an outline that is in a resource. -/
theorem coordinates_of_parts
    {o : Outline}
    (hMd : Resource.metadata raw = .ok md)
    (hSpec : Resource.spec raw = .ok (.obj spec))
    (hName : md.getText "name" = .ok (.str o.name))
    (hFound : md.get "annotations" = .ok found)
    (hAnnotations : found.orEmpty =
      Mesh.labelsJson (some o.annotations))
    (hGroup : Json.find "group" spec = .str o.group)
    (hGroupNe : o.group ≠ "")
    (hNames : Json.find "names" spec = .obj names)
    (hPlural : Json.find "plural" names = .str o.plural)
    (hPluralNe : o.plural ≠ "")
    (hKind : Table.lookup "kind" names = some (.str o.kind))
    (hVersion : servedVersion (.str o.name) (.obj spec) =
      .ok (.str version)) :
    coordinates raw = .ok (o.coordinates version) := by
  have hGet (name : String) (ms : Json.Members) :
      (Json.obj ms).get name =
        .ok (Json.find name ms) := rfl
  have hKind : (Json.obj names).getText "kind" =
      .ok (.str o.kind) :=
    congrArg (fun k : Option Json =>
      Except.ok (k.getD (.str ""))) hKind
  have hOrEmpty :
      (Json.obj names).orEmpty = .obj names := by
    cases names <;> rfl
  unfold coordinates
  simp only [hMd, hSpec, hName, hFound, hGet, hGroup,
    hNames, hOrEmpty, hPlural, hVersion, hKind, truthy_text,
    hGroupNe, hPluralNe, hAnnotations, Failure.lift_ok_bind]
  exact check_coordinates o version

end Definition

------------------------------------------------------------
-- Manifests in Stores
------------------------------------------------------------

namespace Store

/- Any store puts a resource at the end of a bucket. -/
def Files (b : Bucket) (raw : Json) : Prop :=
  ∀ s : Store, s.add [raw] = (s.put b raw, .ok ())

/- A resource is filed by the texts for version and kind. -/
theorem files_of_texts
    {ms : Json.Members}
    {version kind : String}
    {b : Bucket}
    (hVersion : Table.lookup "apiVersion" ms =
      some (.str version))
    (hKind : Json.find "kind" ms = .str kind)
    (hFor : bucketFor (Key.resourceGroupOf version)
      (.str kind) = b) :
    Files b (.obj ms) := by
  have hGroup : groupOf (.obj ms) =
      .ok (Key.resourceGroupOf version) := by
    rw [← Key.resourceGroupOfValue_of_text]
    exact congrArg (fun v : Option Json =>
      Key.resourceGroupOfValue (v.getD (.str ""))) hVersion
  have hBucket : bucketOf (.obj ms) = .ok b := by
    unfold bucketOf
    rw [hGroup, ← hFor, ← hKind]
    rfl
  intro s
  unfold add
  rw [hBucket]
  rfl

end Store

------------------------------------------------------------
-- Inverse Conversions
------------------------------------------------------------

namespace Conversion

open Manifest Resource
open Mesh (labelsJson)

/-
  Manifests are filed by what they are, and conversions give
  back what manifests were made of.
-/
structure Restores (c : Conversion) : Prop where
  broker : ∀ name ns uid labels annotations,
    let raw := Manifest.broker (.str name) (.ofText? ns)
      (.str uid) (labelsJson labels)
      (labelsJson annotations)
    Store.Files .brokers raw ∧
    c.broker raw =
      .ok
        { name := name
          ns := ns.getD ""
          uid := uid
          labels := labels
          annotations :=
            Annotations.remaining c.excluded annotations }
  eventType : ∀ name ns type ref uid description schema
      data labels annotations,
    let raw := Manifest.eventType (.str name) (.ofText? ns)
      (.str type) (Link.optional ref) (.str uid)
      (.str description) (.str schema) (.str data)
      (labelsJson labels) (labelsJson annotations)
    Store.Files .eventTypes raw ∧
    c.eventType raw =
      .ok
        { name := name
          ns := ns.getD ""
          type := type
          uid := uid
          description := Text.unlessEmpty description
          schemaData := Text.unlessEmpty data
          schemaUrl := Text.unlessEmpty schema
          labels := labels
          annotations :=
            Annotations.remaining c.excluded annotations
          reference := ref.map (Link.within (ns.getD "")) }
  /-
    An instance has the group of its coordinates, and their
    kind unless it names one itself.
  -/
  instances : ∀ version kind name ns sink labels
      annotations,
    let raw := instanceOf (.str version) (.str kind)
      (.str name) (.ofText? ns) (Link.optional sink)
      (labelsJson labels) (labelsJson annotations)
    let left :=
      Annotations.remaining c.excluded annotations
    ((Key.resourceGroupOf version, kind) ∉
        Store.listedKinds →
      Store.Files .objects raw) ∧
    (∀ coords,
      c.subscribable coords raw =
        .ok
          { name := name
            ns := ns.getD ""
            group := coords.group
            kind := kindOf coords kind
            labels := labels
            annotations := left }) ∧
    ∀ coords declared,
      c.source coords (.ofTexts declared) raw =
        .ok
          { name := name
            ns := ns.getD ""
            group := coords.group
            kind := kindOf coords kind
            labels := labels
            annotations := left
            declaredTypes := declared
            sink := sink.map (Link.within (ns.getD "")) }
  trigger : ∀ name ns broker subscriber filter,
    let raw := Manifest.trigger (.str name) (.ofText? ns)
      (.str broker) (Link.optional subscriber)
      (filter.map .str)
    Store.Files .triggers raw ∧
    Conversion.trigger raw =
      .ok
        { name := name
          ns := ns.getD ""
          origin := "Trigger"
          target :=
            if broker = "" then none
            else some (Key.qualified Broker.apiGroup
              Broker.apiKind (ns.getD "") broker)
          subscriber :=
            subscriber.map (Link.subscriber (ns.getD ""))
          typeFilter := filter }
  channelSubscription : ∀ name ns (channel : Link)
      subscriber,
    let raw := Manifest.channelSubscription (.str name)
      (.ofText? ns) channel.toJson
      (Link.optional subscriber)
    Store.Files .subscriptions raw ∧
    Conversion.channelSubscription raw =
      .ok
        { name := name
          ns := ns.getD ""
          origin := "Subscription"
          target := some (Key.qualified
            (Key.groupOf channel.version) channel.kind
            (ns.getD "") channel.name)
          subscriber :=
            subscriber.map (Link.subscriber (ns.getD "")) }
  /- The version is the first one served under a name. -/
  definition : ∀ group kind plural labels annotations vs
      v,
    group ≠ "" → plural ≠ "" →
    (offered vs).find? (fun v => v.2 && v.1 ≠ "") =
      some v →
    ∃ raw,
      Manifest.definition (.str group) (.str kind)
          (.str plural) (labelsJson labels)
          (labelsJson annotations) (versionsJson vs) =
        .ok raw ∧
      Store.Files .definitions raw ∧
      Definition.coordinates raw =
        .ok
          { definition := plural ++ "." ++ group
            group := group
            version := v.1
            resource := plural
            kind := kind
            annotations := annotations.getD [] }

/- All conversions do so, whatever annotations they drop. -/
theorem restores_manifests (c : Conversion) :
    c.Restores := by
  refine {
    broker := ?broker
    eventType := ?eventType
    instances := ?instances
    trigger := ?trigger
    channelSubscription := ?channelSubscription
    definition := ?definition }
  case broker =>
    intro name ns uid labels annotations
    refine ⟨Store.files_of_texts rfl rfl rfl, ?_⟩
    exact broker_of_bears rfl
      (bears_metadata c name ns uid labels annotations)
  case eventType =>
    intro name ns type ref uid description schema data
      labels annotations
    refine ⟨Store.files_of_texts rfl rfl rfl, ?_⟩
    exact eventType_of_bears rfl
      (bears_metadata c name ns uid labels annotations) rfl
      (typeAndSchema_eventTypeMembers _ _ _ _ _)
      (provider_of_lookup
        (lookup_reference_eventTypeMembers ref _ _ _ _) _)
      (textOrNull_description _ _ _ _ _)
      (textOrNull_schemaData _ _ _ _ _)
  case instances =>
    intro version kind name ns sink labels annotations
    have hBears := bears_metadata c name ns "" labels
      annotations
    refine ⟨?_, ?_, ?_⟩
    · intro hOther
      exact Store.files_of_texts rfl rfl
        ((Store.bucketFor_eq_objects_iff _ _).mpr hOther)
    · intro coords
      exact subscribable_of_bears rfl hBears rfl coords
    · intro coords declared
      refine source_of_bears rfl hBears rfl ?_ coords
        declared
      apply sink_of_lookup (spec_instanceOf _ _ _ _ _ _ sink)
        ⟨_, rfl, hBears.ns⟩
      cases sink <;> rfl
  case trigger =>
    intro name ns broker subscriber filter
    refine ⟨Store.files_of_texts rfl rfl rfl, ?_⟩
    refine trigger_of_parts rfl rfl
      (getText_namespace_metadata _ _ _ _ ns) rfl
      (brokerTarget_of_text rfl)
      (subscriber_of_lookup ?_ _) (typeFilter_of_lookup ?_)
    · cases subscriber <;> cases filter <;> rfl
    · cases subscriber <;> cases filter <;> rfl
  case channelSubscription =>
    intro name ns channel subscriber
    refine ⟨Store.files_of_texts rfl rfl rfl, ?_⟩
    refine channelSubscription_of_parts rfl rfl
      (getText_namespace_metadata _ _ _ _ ns) rfl
      (channelTarget_of_lookup rfl _)
      (subscriber_of_lookup ?_ _)
    cases subscriber <;> rfl
  case definition =>
    intro group kind plural labels annotations vs v hGroup
      hPlural hFirst
    refine ⟨_, definition_eq vs,
      Store.files_of_texts rfl rfl rfl, ?_⟩
    have hVersion := findSome?_servedName_of_find? hFirst
    -- The definition's outline has no version but the list's.
    exact Definition.coordinates_of_parts
      (o := ⟨plural ++ "." ++ group, group, plural, kind,
        annotations.getD [], "", []⟩)
      rfl rfl rfl (get_annotations_metadata _ _ _ _ _)
      (orEmpty_labelsJson annotations) rfl hGroup rfl rfl
      hPlural rfl
      (Definition.servedVersion_of_list rfl hVersion _)

/- The first version that is served under a name is read. -/
theorem feeds_restored :
    let vs := [("v1beta1", false), ("", true), ("v1", true)]
    let labels := [("duck.knative.dev/source", "true")]
    (offered (some vs)).find? (fun v => v.2 && v.1 ≠ "") =
      some ("v1", true) ∧
    ∃ raw,
      Manifest.definition (.str "sources.dev") (.str "Feed")
          (.str "feeds") (labelsJson (some labels))
          (labelsJson none) (versionsJson (some vs)) =
        .ok raw ∧
      Store.Files .definitions raw ∧
      Definition.coordinates raw = .ok Shop.feedKind := by
  intro vs labels
  have hFirst : (offered (some vs)).find?
      (fun v => v.2 && v.1 ≠ "") = some ("v1", true) := by
    decide
  refine ⟨hFirst, ?_⟩
  exact (restores_manifests {}).definition "sources.dev"
    "Feed" "feeds" (some labels) none (some vs) ("v1", true)
    (by decide) (by decide) hFirst

/-
  The empty kind of an instance is not given back: it is
  read as the kind that the instance is listed for.
-/
theorem unnamed_kind_replaced :
    let raw := instanceOf (.str "sources.dev/v1") (.str "")
      (.str "feed") (.str "shop") .null .null .null
    (∃ s, subscribable {} Shop.feedKind raw = .ok s ∧
      s.kind = "Feed" ∧ s.kind ≠ "") ∧
    ∃ s,
      source {} Shop.feedKind (.ofTexts []) raw = .ok s ∧
      s.kind = "Feed" ∧ s.kind ≠ "" := by
  intro raw
  have hBears := bears_metadata {} "feed" (some "shop") ""
    none none
  constructor
  · exact ⟨_,
      subscribable_of_bears rfl hBears rfl Shop.feedKind,
      rfl, by decide⟩
  · exact ⟨_,
      source_of_bears rfl hBears rfl rfl Shop.feedKind [],
      rfl, by decide⟩

end Conversion

end EventTopology
