import EventTopology.Proofs.Resource.Layouts
import EventTopology.Proofs.Resource.Naming
import EventTopology.Resource.Manifest

/-
  This file shows what stands in a manifest that was made of
  texts, maps and references.  What is left out when it is
  null or empty is missing there, and everything else is
  found as it was given.

  Key definitions include:
    * `Manifest.Link`
    * `Manifest.versionsJson`
    * `Annotations.remaining`
    * `Resource.Bears`
    * `Manifest.eventTypeMembers`

  The main results are:
    * `Manifest.bears_metadata`
    * `Manifest.typeAndSchema_eventTypeMembers`
    * `Resource.provider_of_lookup`
    * `Resource.subscriber_of_lookup`
    * `Resource.sink_of_lookup`
    * `Manifest.definition_eq`
-/

------------------------------------------------------------
-- What Manifests Are Made Of
------------------------------------------------------------

namespace EventTopology

namespace Manifest

/-
  A reference that a manifest is given.  It has a version, a
  kind and a name, and it may have a namespace.
-/
structure Link where
  version : String
  kind : String
  name : String
  ns : Option String := none
  version_ne : version ≠ ""
  kind_ne : kind ≠ ""
  name_ne : name ≠ ""

namespace Link

/- The value of a reference. -/
def toJson (r : Link) : Json :=
  reference (.str r.version) (.str r.kind) (.str r.name)
    (.ofText? r.ns)

/- A reference, or null where none is given. -/
def optional (r : Option Link) : Json :=
  (r.map toJson).getD .null

/- What is referred to, in the namespace of the referrer. -/
def within (ns : String) (r : Link) : Reference where
  group := Key.groupOf r.version
  kind := r.kind
  ns := ns
  name := r.name

/-
  What is referred to as a subscriber, in a namespace of its
  own if it has one.
-/
def subscriber
    (ns : String)
    (r : Link) : ObjectReference where
  apiVersion := r.version
  kind := r.kind
  ns := Resource.placeOf r.ns ns
  name := r.name

/- The texts of a reference name what it refers to. -/
theorem names (r : Link) :
    Resource.Names r.toJson r.version r.kind r.name where
  version := rfl
  kind := rfl
  name := rfl

theorem member_namespace (r : Link) :
    r.toJson.member "namespace" = .ofText? r.ns := by
  unfold toJson
  cases r.ns <;> rfl

end Link

/- The names of versions and whether these are served. -/
abbrev Versions := List (String × Bool)

/- The value of a list of versions, or null. -/
def versionsJson : Option Versions → Json
| none => .null
| some vs =>
    .arr (vs.map fun v => .arr [.str v.1, .bool v.2])

/- Versions that are not given are a single one. -/
def offered (vs : Option Versions) : Versions :=
  vs.getD [("v1", true)]

end Manifest

namespace Text

/- A text, if it is not empty. -/
def unlessEmpty (s : String) : Option String :=
  if s = "" then none else some s

end Text

namespace Annotations

/-
  The annotations that are not excluded.  If none are left,
  they are as good as missing.
-/
def remaining
    (excluded : List String)
    (given : Option Labels) : Option Labels :=
  match (given.getD []).filter (·.1 ∉ excluded) with
  | [] => none
  | left => some left

end Annotations

------------------------------------------------------------
-- Members That May Be Left Out
------------------------------------------------------------

namespace Json

/- A missing value is looked up as null. -/
theorem get_eq (v : Json) (name : String) :
    v.get name = (v.get? name).map (·.getD .null) := by
  cases v <;> rfl

end Json

namespace Manifest

/- A value that is not null. -/
def given? : Json → Option Json
| .null => none
| v => some v

@[simp] theorem lookup_unlessNull
    (key name : String)
    (v : Json) :
    Table.lookup key (unlessNull name v) =
      if name = key then given? v else none := by
  cases v <;> simp [unlessNull, given?, Table.lookup]

@[simp] theorem lookup_ifTruthy
    (key name : String)
    (v : Json) :
    Table.lookup key (ifTruthy name v) =
      if name = key ∧ v.truthy then some v else none := by
  unfold ifTruthy
  cases v.truthy <;> simp [Table.lookup]

theorem given?_labelsJson (ls : Option Labels) :
    (given? (Mesh.labelsJson ls)).getD .null =
      Mesh.labelsJson ls := by
  cases ls <;> rfl

end Manifest

------------------------------------------------------------
-- Metadata
------------------------------------------------------------

namespace Resource

open Record

/-
  Metadata are read as a name, a namespace and a uid, and as
  labels and annotations, less the excluded ones.
-/
structure Bears
    (c : Conversion)
    (md : Json)
    (name ns uid : String)
    (labels left : Option Labels) : Prop where
  name : md.getText "name" = .ok (.str name)
  ns : md.getText "namespace" = .ok (.str ns)
  uid : md.getText "uid" = .ok (.str uid)
  labels : ∃ input, Resource.labels md = .ok input ∧
    ∀ path, Mesh.readLabels path input = .valid labels
  annotations : ∃ input,
    Resource.annotations c md = .ok input ∧
    ∀ path, Mesh.readLabels path input = .valid left

end Resource

namespace Annotations

/- What is left of annotations is read as what remains. -/
theorem read_remaining
    (excluded : List String)
    (given : Option Labels) :
    ∃ left, sanitize excluded (Mesh.labelsJson given) =
        .ok left ∧
      ∀ path, Mesh.readLabels path (.value left) =
        .valid (remaining excluded given) := by
  have hEntries : entries? (Mesh.labelsJson given) =
      some
        ((given.getD []).map fun l => (l.1, .str l.2)) := by
    cases given <;> rfl
  refine ⟨_, sanitize_eq hEntries, ?_⟩
  unfold remaining
  rw [List.filter_map]
  intro path
  change Mesh.readLabels path (.value (orNull
    (((given.getD []).filter (·.1 ∉ excluded)).map _))) = _
  cases (given.getD []).filter (·.1 ∉ excluded) with
  | nil => rfl
  | cons l left =>
      exact Record.undoes_labels (some (l :: left)) path

end Annotations

namespace Manifest

open Resource

/- The members of metadata that may be left out. -/
theorem get?_metadata
    (key : String)
    (name ns uid labels annotations : Json) :
    (metadata name ns uid labels annotations).get? key =
      .ok
        (if key = "name" then some name
        else if key = "namespace" then given? ns
        else if key = "uid" then
          if uid.truthy then some uid else none
        else if key = "labels" then given? labels
        else if key = "annotations" then given? annotations
        else none) := by
  change Except.ok (Table.lookup key (_ :: (_ ++ _))) = _
  simp only [Table.lookup, Table.lookup_append,
    lookup_unlessNull, lookup_ifTruthy, @eq_comm _ _ key]
  congr 1
  split_ifs <;> simp_all

theorem getText_namespace_metadata
    (name uid labels annotations : Json)
    (ns : Option String) :
    (metadata name (.ofText? ns) uid labels
        annotations).getText "namespace" =
      .ok (.str (ns.getD "")) := by
  rw [Json.getText, get?_metadata]
  cases ns <;> rfl

theorem get_labels_metadata
    (name ns uid annotations : Json)
    (labels : Option Labels) :
    (metadata name ns uid (Mesh.labelsJson labels)
        annotations).get "labels" =
      .ok (Mesh.labelsJson labels) := by
  rw [Json.get_eq, get?_metadata]
  exact congrArg Except.ok (given?_labelsJson labels)

theorem get_annotations_metadata
    (name ns uid labels : Json)
    (annotations : Option Labels) :
    (metadata name ns uid labels
        (Mesh.labelsJson annotations)).get "annotations" =
      .ok (Mesh.labelsJson annotations) := by
  rw [Json.get_eq, get?_metadata]
  exact congrArg Except.ok (given?_labelsJson annotations)

/- Metadata that were made of these are read as these. -/
theorem bears_metadata
    (c : Conversion)
    (name : String)
    (ns : Option String)
    (uid : String)
    (labels annotations : Option Labels) :
    Bears c
      (metadata (.str name) (.ofText? ns) (.str uid)
        (Mesh.labelsJson labels)
        (Mesh.labelsJson annotations))
      name (ns.getD "") uid labels
      (Annotations.remaining c.excluded annotations) where
  name := rfl
  ns := getText_namespace_metadata _ _ _ _ ns
  uid := by
    rw [Json.getText, get?_metadata]
    by_cases hEmpty : uid = ""
    · subst hEmpty
      rfl
    · simp [Except.map, truthy_text, hEmpty]
  labels := by
    unfold Resource.labels
    rw [get_labels_metadata]
    cases labels with
    | none => exact ⟨_, rfl, fun path => rfl⟩
    | some ls =>
        refine ⟨_, rfl, fun path => ?_⟩
        exact Record.Checked.map_valid some
          (Record.undoes_map ls path)
  annotations := by
    rcases Annotations.read_remaining c.excluded annotations
      with ⟨left, hLeft, hRead⟩
    refine ⟨.value left, ?_, hRead⟩
    unfold Resource.annotations
    rw [get_annotations_metadata]
    change (do
      let kept ← Annotations.sanitize c.excluded _
      return Record.Input.value kept) = _
    rw [hLeft]
    rfl

end Manifest

------------------------------------------------------------
-- Specs of Event Types
------------------------------------------------------------

namespace Resource

/- A text that is left out when empty is read as it was. -/
theorem textOrNull_ifTruthy (s : String) :
    textOrNull
        ((if (Json.str s).truthy then some (Json.str s)
          else none).getD .null) =
      .ok (.ofText? (Text.unlessEmpty s)) := by
  unfold Text.unlessEmpty
  by_cases hEmpty : s = ""
  · subst hEmpty
    rfl
  · simp [truthy_text, textOrNull, Json.isUnset, hEmpty,
      Json.ofText?, Except.map]

/- The empty text is the one that stands for no text. -/
theorem orElse_text (s : String) :
    (Json.str s).orElse (.str "") = .str s := by
  unfold Json.orElse
  by_cases hEmpty : s = ""
  · subst hEmpty
    rfl
  · simp [truthy_text, hEmpty]

end Resource

namespace Manifest

open Resource

/- The members of an event type's spec. -/
def eventTypeMembers
    (type ref description schema schemaData : Json) :
    Json.Members :=
  ("type", type) ::
    (unlessNull "reference" ref ++
      ifTruthy "description" description ++
      ifTruthy "schema" schema ++
      ifTruthy "schemaData" schemaData)

theorem lookup_eventTypeMembers
    (key : String)
    (type ref description schema schemaData : Json) :
    Table.lookup key
        (eventTypeMembers type ref description schema
          schemaData) =
      if key = "type" then some type
      else if key = "reference" then given? ref
      else if key = "description" then
        if description.truthy then some description else none
      else if key = "schema" then
        if schema.truthy then some schema else none
      else if key = "schemaData" then
        if schemaData.truthy then some schemaData else none
      else none := by
  simp only [eventTypeMembers, Table.lookup,
    Table.lookup_append, lookup_unlessNull, lookup_ifTruthy,
    @eq_comm _ _ key]
  split_ifs <;> simp_all

/- The type and the schema are those that were given. -/
theorem typeAndSchema_eventTypeMembers
    (type schema : String)
    (ref description schemaData : Json) :
    typeAndSchema
        (.obj (eventTypeMembers (.str type) ref description
          (.str schema) schemaData)) =
      .ok
        ⟨.str type,
          .ofText? (Text.unlessEmpty schema)⟩ := by
  have hFlat : Table.lookup "attributes"
      (eventTypeMembers (.str type) ref description
        (.str schema) schemaData) = none :=
    lookup_eventTypeMembers _ _ _ _ _ _
  have hSchema : Table.lookup "schema"
      (eventTypeMembers (.str type) ref description
        (.str schema) schemaData) =
      if (Json.str schema).truthy then
        some (Json.str schema)
      else none :=
    lookup_eventTypeMembers _ _ _ _ _ _
  rw [typeAndSchema_of_flat hFlat, hSchema,
    textOrNull_ifTruthy]
  rfl

/- So are the description and the data of the schema. -/
theorem textOrNull_description
    (type ref schema schemaData : Json)
    (description : String) :
    textOrNull (Json.find "description"
        (eventTypeMembers type ref (.str description) schema
          schemaData)) =
      .ok (.ofText? (Text.unlessEmpty description)) := by
  rw [Json.find, lookup_eventTypeMembers]
  exact textOrNull_ifTruthy description

theorem textOrNull_schemaData
    (type ref description schema : Json)
    (schemaData : String) :
    textOrNull (Json.find "schemaData"
        (eventTypeMembers type ref description schema
          (.str schemaData))) =
      .ok (.ofText? (Text.unlessEmpty schemaData)) := by
  rw [Json.find, lookup_eventTypeMembers]
  exact textOrNull_ifTruthy schemaData

end Manifest

------------------------------------------------------------
-- References in Specs
------------------------------------------------------------

namespace Manifest

/- A value that holds a reference to something else. -/
def Link.holder (r : Link) : Json :=
  .obj [("ref", r.toJson)]

/- An event type holds a reference itself. -/
theorem lookup_reference_eventTypeMembers
    (ref : Option Link)
    (type description schema schemaData : Json) :
    Table.lookup "reference"
        (eventTypeMembers type (Link.optional ref)
          description schema schemaData) =
      ref.map Link.toJson := by
  rw [lookup_eventTypeMembers]
  cases ref <;> rfl

/- An instance holds its sink. -/
theorem spec_instanceOf
    (apiVersion kind name ns labels annotations : Json)
    (r : Option Link) :
    Resource.spec
        (instanceOf apiVersion kind name ns
          (Link.optional r) labels annotations) =
      .ok (.obj
        (r.map fun r => ("sink", r.holder)).toList) := by
  cases r <;> rfl

end Manifest

namespace Json

variable {ms : Members} {name : String}

theorem member_of_lookup
    {v : Json}
    (hFound : Table.lookup name ms = some v) :
    (Json.obj ms).member name = v :=
  congrArg (fun o : Option Json => o.getD .null) hFound

theorem get_of_lookup_none
    (hFound : Table.lookup name ms = none) :
    (Json.obj ms).get name = .ok .null := by
  rw [get_eq]
  change Except.ok ((Table.lookup name ms).getD .null) = _
  rw [hFound]
  rfl

end Json

namespace Resource

open Manifest

variable {spec : Json.Members}
variable {r : Option Link}

/- The provider is what is referred to, if anything is. -/
theorem provider_of_lookup
    (hFound : Table.lookup "reference" spec =
      r.map Link.toJson)
    (ns : String) :
    provider (.obj spec) (.str ns) =
      .ok (r.map (Link.within ns)) := by
  cases r with
  | none =>
      unfold provider
      rw [Json.get_of_lookup_none hFound]
      rfl
  | some r =>
      apply provider_of_names
      rw [Json.member_of_lookup hFound]
      exact r.names

/- The subscriber is what is held as one, if anything is. -/
theorem subscriber_of_lookup
    (hFound : Table.lookup "subscriber" spec =
      r.map Link.holder)
    (ns : String) :
    subscriber (.obj spec) (.str ns) =
      .ok (r.map (Link.subscriber ns)) := by
  cases r with
  | none =>
      unfold subscriber
      rw [Json.get_of_lookup_none hFound]
      rfl
  | some r =>
      have hDig : (Json.obj spec).dig ["subscriber", "ref"] =
          r.toJson :=
        congrArg (Json.member "ref")
          (Json.member_of_lookup hFound)
      refine subscriber_of_names ?_ r.kind_ne r.name_ne ?_
      · rw [hDig]
        exact r.names
      · rw [hDig]
        exact r.member_namespace

/- The channel that is subscribed to is the target. -/
theorem channelTarget_of_lookup
    {channel : Link}
    (hFound : Table.lookup "channel" spec =
      some channel.toJson)
    (ns : String) :
    channelTarget (.obj spec) (.str ns) =
      .ok (.ofText? (some (Key.qualified
        (Key.groupOf channel.version) channel.kind ns
        channel.name))) := by
  have hNames : Names ((Json.obj spec).member "channel")
      channel.version channel.kind channel.name := by
    rw [Json.member_of_lookup hFound]
    exact channel.names
  rw [channelTarget_of_names hNames, if_neg]
  rw [not_or]
  exact ⟨channel.kind_ne, channel.name_ne⟩

/- The sink is what is held as one, if anything is. -/
theorem sink_of_lookup
    {raw : Json}
    {ns : String}
    (hSpec : Resource.spec raw = .ok (.obj spec))
    (hNs : LivesIn raw ns)
    (hFound : Table.lookup "sink" spec =
      r.map Link.holder) :
    sink raw = .ok (r.map (Link.within ns)) := by
  cases r with
  | none =>
      unfold sink
      rw [hSpec, Failure.lift_ok_bind,
        Json.get_of_lookup_none hFound]
      rfl
  | some r =>
      have hDig : raw.dig ["spec", "sink", "ref"] =
          r.toJson := by
        rw [← dig_of_spec hSpec]
        exact congrArg (Json.member "ref")
          (Json.member_of_lookup hFound)
      refine sink_of_names ?_ r.version_ne r.kind_ne
        r.name_ne hNs
      rw [hDig]
      exact r.names

/- The type that is filtered by is the one that is held. -/
theorem typeFilter_of_lookup
    {filter : Option String}
    (hFound : Table.lookup "filter" spec =
      filter.map fun type =>
        .obj [("attributes", .obj [("type", .str type)])]) :
    typeFilter (.obj spec) = .ok (.ofText? filter) := by
  cases filter with
  | none =>
      unfold typeFilter
      rw [Json.get_of_lookup_none hFound]
      rfl
  | some type =>
      have hGet : (Json.obj spec).get "filter" =
          .ok (.obj
            [("attributes", .obj [("type", .str type)])]) :=
        congrArg Except.ok (Json.member_of_lookup hFound)
      unfold typeFilter
      rw [hGet]
      rfl

end Resource

------------------------------------------------------------
-- Versions of Definitions
------------------------------------------------------------

namespace Manifest

/- The object of a version, by its name. -/
def versionJson (v : String × Bool) : Json :=
  versionObject (.str v.1) (.bool v.2)

/- The versions of a definition are those that are given. -/
theorem mapM_versionOf (vs : Versions) (n : Nat) :
    ((vs.map fun v => Json.arr [.str v.1, .bool v.2]).zipIdx
      n).mapM versionOf = .ok (vs.map versionJson) := by
  induction vs generalizing n with
  | nil => rfl
  | cons v vs ih =>
      rw [List.map_cons, List.zipIdx_cons, List.mapM_cons,
        ih]
      rfl

variable {group kind plural : String}
variable {labels annotations : Json}

/- A definition that is made of texts and versions. -/
theorem definition_eq (vs : Option Versions) :
    definition (.str group) (.str kind) (.str plural) labels
        annotations (versionsJson vs) =
      .ok (.obj
        [("apiVersion", .str "apiextensions.k8s.io/v1"),
         ("kind", .str "CustomResourceDefinition"),
         ("metadata",
           metadata (.str (plural ++ "." ++ group)) .null
             (.str "") labels annotations),
         ("spec", .obj
           [("group", .str group),
            ("names", .obj
              [("kind", .str kind),
               ("listKind", .str (kind ++ "List")),
               ("plural", .str plural)]),
            ("versions",
              .arr ((offered vs).map versionJson))])]) := by
  cases vs with
  | none => rfl
  | some vs =>
      unfold definition
      change (List.mapM versionOf (List.zipIdx
        (vs.map fun v =>
          Json.arr [.str v.1, .bool v.2])) >>= _) = _
      rw [mapM_versionOf]
      rfl

/- A version counts if it is served under a name. -/
theorem servedName?_versionJson (v : String × Bool) :
    Definition.servedName? (versionJson v) =
      if v.2 && v.1 ≠ "" then some (.str v.1)
      else none := by
  rcases v with ⟨version, served⟩
  cases served with
  | false => rfl
  | true =>
      change (if (Json.str version).truthy then
        some (Json.str version) else none) = _
      rw [Resource.truthy_text]
      simp

/- The first of the versions that count is the one named. -/
theorem findSome?_servedName_of_find?
    {vs : Versions}
    {v : String × Bool}
    (hFirst :
      vs.find? (fun v => v.2 && v.1 ≠ "") = some v) :
    (vs.map versionJson).findSome? Definition.servedName? =
      some (.str v.1) := by
  induction vs with
  | nil => cases hFirst
  | cons w vs ih =>
      rw [List.map_cons, List.findSome?_cons,
        servedName?_versionJson]
      rw [List.find?_cons] at hFirst
      cases hCounts : (w.2 && decide (w.1 ≠ "")) with
      | false =>
          rw [hCounts] at hFirst
          exact ih hFirst
      | true =>
          rw [hCounts] at hFirst
          rw [Option.some.inj hFirst]
          rfl

/- Annotations that are missing are empty. -/
theorem orEmpty_labelsJson (annotations : Option Labels) :
    (Mesh.labelsJson annotations).orEmpty =
      Mesh.labelsJson (some (annotations.getD [])) := by
  cases annotations with
  | none => rfl
  | some ls => cases ls <;> rfl

end Manifest

end EventTopology
