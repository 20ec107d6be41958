import EventTopology.Proofs.Mesh.Reading

/-
  This file shows that meshes survive being written: a mesh
  is read back from its JSON object as it was, so that no two
  meshes are written alike.  It also says what is written:
  all names of a record, but for the few that are left out
  where there is nothing to say.

  Key definitions include:
    * `Mesh.HasTexts`
    * `Mesh.readJson`
    * `Mesh.Written`
    * `Shop.described`

  The main results are:
    * `Mesh.undoes_toJson`
    * `Mesh.written_toJson`
    * `Mesh.read_toJson`
-/

------------------------------------------------------------
-- Reading Meshes
------------------------------------------------------------

namespace EventTopology

open Record Record.Checked

namespace Mesh

/- All consumers in a mesh are texts. -/
def HasTexts (m : Mesh) : Prop :=
  ∀ e ∈ m.eventTypes, e.HasTexts

/- Read a mesh from a JSON value. -/
def readJson (v : Json) : Checked Mesh :=
  readRecord recordName check [] (.value v)

theorem undoes_toJson
    {m : Mesh}
    (hTexts : m.HasTexts) :
    Undoes (readRecord recordName check) toJson m := by
  rcases m with ⟨brokers, eventTypes, subscribables, sources⟩
  refine undoes_record rfl fun path => ?_
  unfold check
  refine seq_valid
    (seq_valid
      (seq_valid (map_valid _ ?brokers) ?eventTypes)
      ?subscribables)
    ?sources
  case brokers =>
    exact withDefault_of_member rfl
      (undoes_list fun b _ => b.undoes_toJson)
  case eventTypes =>
    exact withDefault_of_member rfl
      (undoes_list fun e hMem =>
        EventType.undoes_toJson (hTexts e hMem))
  case subscribables =>
    exact withDefault_of_member rfl
      (undoes_list fun s _ => s.undoes_toJson)
  case sources =>
    exact withDefault_of_member rfl
      (undoes_list fun s _ => s.undoes_toJson)

end Mesh

------------------------------------------------------------
-- Names in Objects
------------------------------------------------------------

/- The names of the members of an object, in order. -/
def Json.memberNames : Json → List String
| .obj ms => Table.keys ms
| _ => []

/- What stands under a name in an object. -/
def Json.member? (v : Json) (name : String) : Option Json :=
  match v with
  | .obj ms => Table.lookup name ms
  | _ => none

/- A value has labels under a name, null if there are none. -/
def Json.Labels
    (v : Json)
    (name : String)
    (ls : Option Labels) : Prop :=
  v.member? name = some (Mesh.labelsJson ls) ∧
    (v.member? name = some .null ↔ ls = none)

theorem Json.labels_of_member
    {v : Json}
    {name : String}
    {ls : Option EventTopology.Labels}
    (hMember : v.member? name = some (Mesh.labelsJson ls)) :
    v.Labels name ls := by
  refine ⟨hMember, ?_⟩
  rw [hMember]
  cases ls with
  | none => simp [Mesh.labelsJson]
  | some ls => simp [Mesh.labelsJson]

------------------------------------------------------------
-- Written Providers
------------------------------------------------------------

/- What is written of a reference. -/
def Reference.Written (v : Json) : Prop :=
  v.memberNames = ["group", "kind", "namespace", "name"]

/- What is written of a broker. -/
structure Broker.Written
    (b : Broker)
    (v : Json) : Prop where
  names : v.memberNames =
    ["name", "namespace", "uid", "labels", "annotations",
      "providedEventTypes"]
  labels : v.Labels "labels" b.labels
  annotations : v.Labels "annotations" b.annotations

theorem Broker.written_toJson (b : Broker) :
    b.Written b.toJson where
  names := rfl
  labels := Json.labels_of_member rfl
  annotations := Json.labels_of_member rfl

/- What is written of a subscribable. -/
structure Subscribable.Written
    (s : Subscribable)
    (v : Json) : Prop where
  names : v.memberNames =
    ["name", "namespace", "uid", "group", "kind", "labels",
      "annotations", "providedEventTypes"]
  labels : v.Labels "labels" s.labels
  annotations : v.Labels "annotations" s.annotations

theorem Subscribable.written_toJson (s : Subscribable) :
    s.Written s.toJson where
  names := rfl
  labels := Json.labels_of_member rfl
  annotations := Json.labels_of_member rfl

------------------------------------------------------------
-- Written Event Types and Sources
------------------------------------------------------------

/-
  What is written of an event type.  Description, schemas and
  reference are written where there are any.
-/
structure EventType.Written
    (e : EventType)
    (v : Json) : Prop where
  ordered : v.memberNames.Sublist
    ["name", "namespace", "type", "uid", "description",
      "schemaData", "schemaURL", "labels", "annotations",
      "reference", "consumedBy"]
  always : ∀ name ∈
    ["name", "namespace", "type", "uid", "labels",
      "annotations", "consumedBy"],
    name ∈ v.memberNames
  description :
    "description" ∈ v.memberNames ↔ e.description ≠ none
  schemaData :
    "schemaData" ∈ v.memberNames ↔ e.schemaData ≠ none
  schemaUrl :
    "schemaURL" ∈ v.memberNames ↔ e.schemaUrl ≠ none
  reference :
    "reference" ∈ v.memberNames ↔ e.reference ≠ none
  referred : ∀ w, v.member? "reference" = some w →
    Reference.Written w
  labels : v.Labels "labels" e.labels
  annotations : v.Labels "annotations" e.annotations

/- A member that may be left out has at most its own name. -/
theorem Mesh.keys_memberUnlessNone
    (f : Record.Field)
    (o : Option Json) :
    (Table.keys (memberUnlessNone f o)).Sublist
      [f.outer] := by
  cases o with
  | none => exact List.nil_sublist _
  | some v => exact List.Sublist.refl _

theorem EventType.names_toJson (e : EventType) :
    e.toJson.memberNames.Sublist
      ["name", "namespace", "type", "uid", "description",
        "schemaData", "schemaURL", "labels", "annotations",
        "reference", "consumedBy"] := by
  -- Each part has no other names than its own.
  have hOptional := Mesh.keys_memberUnlessNone
  have hParts : e.toJson.memberNames.Sublist
      (["name", "namespace", "type", "uid"] ++
        [Mesh.Field.description.outer] ++
        [Mesh.Field.schemaData.outer] ++
        [Mesh.Field.schemaUrl.outer] ++
        ["labels", "annotations"] ++
        [Mesh.Field.reference.outer] ++ ["consumedBy"]) := by
    simp only [toJson, Json.memberNames, Table.keys,
      List.map_append] at hOptional ⊢
    iterate 6 apply List.Sublist.append
    · exact List.Sublist.refl _
    · exact hOptional _ _
    · exact hOptional _ _
    · exact hOptional _ _
    · exact List.Sublist.refl _
    · exact hOptional _ _
    · exact List.Sublist.refl _
  exact hParts

theorem EventType.written_toJson (e : EventType) :
    e.Written e.toJson := by
  rcases e.lookup_toJson with ⟨ms, hWrite, hMember⟩
  have hFound (name : String) :
      e.toJson.member? name = e.member name := by
    rw [hWrite]
    exact hMember name
  have hNames (name : String) :
      name ∈ e.toJson.memberNames ↔ e.member name ≠ none := by
    rw [hWrite, ← hMember]
    exact Table.mem_keys_iff
  exact {
    ordered := e.names_toJson
    always := by simp [hNames, member]
    description := (hNames _).trans (by simp [member])
    schemaData := (hNames _).trans (by simp [member])
    schemaUrl := (hNames _).trans (by simp [member])
    reference := (hNames _).trans (by simp [member])
    referred := by
      intro w hSome
      rw [hFound] at hSome
      rcases Option.map_eq_some_iff.mp hSome with
        ⟨r, _, rfl⟩
      rfl
    labels := Json.labels_of_member (hFound _)
    annotations := Json.labels_of_member (hFound _) }

/-
  What is written of a source.  The sink is written where
  there is one.
-/
structure Source.Written
    (s : Source)
    (v : Json) : Prop where
  ordered : v.memberNames.Sublist
    ["name", "namespace", "uid", "group", "kind", "labels",
      "annotations", "providedEventTypeTypes",
      "providedEventTypes", "sink"]
  always : ∀ name ∈
    ["name", "namespace", "uid", "group", "kind", "labels",
      "annotations", "providedEventTypeTypes",
      "providedEventTypes"],
    name ∈ v.memberNames
  sink : "sink" ∈ v.memberNames ↔ s.sink ≠ none
  referred : ∀ w, v.member? "sink" = some w →
    Reference.Written w
  labels : v.Labels "labels" s.labels
  annotations : v.Labels "annotations" s.annotations

/- Only the sink may be left out, and it comes last. -/
theorem Source.names_toJson (s : Source) :
    s.toJson.memberNames =
      ["name", "namespace", "uid", "group", "kind", "labels",
        "annotations", "providedEventTypeTypes",
        "providedEventTypes"] ++
      (if s.sink = none then [] else ["sink"]) := by
  rcases s with
    ⟨name, ns, uid, group, kind, labels, annotations,
      declared, ids, sink⟩
  cases sink with
  | none => rfl
  | some r => rfl

theorem Source.written_toJson (s : Source) :
    s.Written s.toJson where
  ordered := by
    rw [s.names_toJson]
    split
    · exact List.sublist_append_left _ ["sink"]
    · exact List.Sublist.refl _
  always := by
    intro name hMem
    rw [s.names_toJson]
    exact List.mem_append_left _ hMem
  sink := by
    rw [s.names_toJson]
    by_cases hSink : s.sink = none <;> simp [hSink]
  referred := by
    intro w hSome
    cases hSink : s.sink with
    | none =>
        rw [toJson, hSink] at hSome
        cases hSome
    | some r =>
        rw [toJson, hSink] at hSome
        cases hSome
        rfl
  labels := Json.labels_of_member rfl
  annotations := Json.labels_of_member rfl

------------------------------------------------------------
-- Written Meshes
------------------------------------------------------------

/- What is written of a mesh, record by record. -/
structure Mesh.Written (m : Mesh) (v : Json) : Prop where
  names : v.memberNames =
    ["brokers", "eventTypes", "subscribables", "sources"]
  brokers : ∃ vs, v.member? "brokers" = some (.arr vs) ∧
    List.Forall₂ Broker.Written m.brokers vs
  eventTypes : ∃ vs, v.member? "eventTypes" = some (.arr vs) ∧
    List.Forall₂ EventType.Written m.eventTypes vs
  subscribables : ∃ vs,
    v.member? "subscribables" = some (.arr vs) ∧
    List.Forall₂ Subscribable.Written m.subscribables vs
  sources : ∃ vs, v.member? "sources" = some (.arr vs) ∧
    List.Forall₂ Source.Written m.sources vs

theorem Mesh.written_toJson (m : Mesh) :
    m.Written m.toJson := by
  have hEach {α : Type} {W : α → Json → Prop}
      {write : α → Json} (hWritten : ∀ a, W a (write a))
      (as : List α) :
      List.Forall₂ W as (as.map write) := by
    rw [List.forall₂_map_right_iff, List.forall₂_same]
    exact fun a _ => hWritten a
  exact {
    names := rfl
    brokers := ⟨_, rfl, hEach Broker.written_toJson _⟩
    eventTypes := ⟨_, rfl, hEach EventType.written_toJson _⟩
    subscribables :=
      ⟨_, rfl, hEach Subscribable.written_toJson _⟩
    sources := ⟨_, rfl, hEach Source.written_toJson _⟩ }

------------------------------------------------------------
-- Meshes and Their Documents
------------------------------------------------------------

namespace Mesh

/-
  A mesh with texts for consumers is read back from what is
  written of it, so that no other mesh is written alike; and
  all that may be missing is missing just where there is
  nothing to write.
-/
theorem read_toJson
    {m : Mesh}
    (hTexts : m.HasTexts) :
    readJson m.toJson = .valid m ∧
    (∀ m' : Mesh, m'.HasTexts → m'.toJson = m.toJson →
      m' = m) ∧
    m.Written m.toJson := by
  have hRead : readJson m.toJson = .valid m :=
    undoes_toJson hTexts []
  refine ⟨hRead, ?_, m.written_toJson⟩
  intro m' hTexts' hSame
  have hRead' : readJson m'.toJson = .valid m' :=
    undoes_toJson hTexts' []
  rw [hSame, hRead] at hRead'
  cases hRead'
  rfl

end Mesh

namespace Shop

/- An event type that says all there is to say. -/
def placed : EventType where
  name := "placed"
  ns := "shop"
  type := "order.placed"
  description := some "An order was placed."
  schemaData := some "{}"
  schemaUrl := some "https://shop.example/placed"
  labels := some [("team", "orders")]
  annotations := some []
  reference :=
    some ⟨"eventing.knative.dev", "Broker", "shop", "main"⟩
  consumedBy := [.str "billing"]

/- A mesh with and without what may be missing. -/
def described : Mesh where
  brokers :=
    [{ name := "main", ns := "shop"
       providedEventTypes := [placed.id] }]
  eventTypes := [placed, { name := "paid", ns := "shop" }]
  subscribables :=
    [{ name := "feed", ns := "shop"
       group := "messaging.knative.dev", kind := "Channel" }]
  sources :=
    [{ name := "till", ns := "shop"
       group := "sources.knative.dev", kind := "PingSource"
       sink := some ⟨"", "Service", "shop", "billing"⟩ },
     { name := "bell", ns := "shop"
       group := "sources.knative.dev", kind := "PingSource" }]

theorem hasTexts_described : described.HasTexts := by
  intro e hMem
  simp only [described, List.mem_cons, List.not_mem_nil,
    or_false] at hMem
  rcases hMem with rfl | rfl
  · exact ⟨["billing"], rfl⟩
  · exact ⟨[], rfl⟩

theorem read_described :
    described.HasTexts ∧
    Mesh.readJson described.toJson = .valid described ∧
    (∀ m : Mesh, m.HasTexts →
      m.toJson = described.toJson → m = described) ∧
    described.Written described.toJson :=
  ⟨hasTexts_described, Mesh.read_toJson hasTexts_described⟩

end Shop

end EventTopology
