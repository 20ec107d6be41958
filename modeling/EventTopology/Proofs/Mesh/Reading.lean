import EventTopology.Mesh.Document
import EventTopology.Proofs.Table

/-
  This file shows that reading undoes writing: a record that
  is written as a JSON object is read back as it was, field
  by field.  A field that is left out is read as missing, and
  one that is written is found under its outside name.

  Key definitions include:
    * `Record.Undoes`
    * `EventType.HasTexts`

  The main results are:
    * `Record.withDefault_of_optional`
    * `Broker.undoes_toJson`
    * `Subscribable.undoes_toJson`
    * `EventType.undoes_toJson`
    * `Source.undoes_toJson`
-/

------------------------------------------------------------
-- Values
------------------------------------------------------------

namespace EventTopology

namespace Record

namespace Checked

variable {α β : Type}

/- A record is valid when all its fields are. -/
theorem seq_valid
    {f : Checked (α → β)}
    {a : Checked α}
    {g : α → β}
    {x : α}
    (hFirst : f = .valid g)
    (hLast : a = .valid x) :
    f <*> a = .valid (g x) := by
  subst hFirst hLast
  rfl

theorem map_valid
    {a : Checked α}
    {x : α}
    (g : α → β)
    (hFirst : a = .valid x) :
    g <$> a = .valid (g x) :=
  seq_valid rfl hFirst

/- Elements that are all valid are so together. -/
theorem each_valid
    {f : α → Checked β}
    {as : List α}
    {bs : List β}
    (hEach : List.Forall₂ (fun a b => f a = .valid b)
      as bs) :
    each f as = .valid bs := by
  induction hEach with
  | nil => rfl
  | cons hFirst _ ih =>
      exact seq_valid (map_valid List.cons hFirst) ih

end Checked

/- Reading a value as it is written gives the value. -/
def Undoes
    {α : Type}
    (read : Reading α)
    (write : α → Json)
    (a : α) : Prop :=
  ∀ path, read path (.value (write a)) = .valid a

variable {α : Type}
variable {read : Reading α} {write : α → Json}

theorem undoes_text (s : String) :
    Undoes readText .str s :=
  fun _ => rfl

/- A list is read back if each of its elements is. -/
theorem undoes_list
    {as : List α}
    (hEach : ∀ a ∈ as, Undoes read write a) :
    Undoes (readList read)
      (fun as => .arr (as.map write)) as := by
  intro path
  -- The positions of the elements may start anywhere.
  have hAux (n : Nat) :
      Checked.each
          (fun e : Json × Nat =>
            read (path ++ [.position e.2]) (.value e.1))
          ((as.map write).zipIdx n) = .valid as := by
    induction as generalizing n with
    | nil => rfl
    | cons a as ih =>
        rw [List.forall_mem_cons] at hEach
        rw [List.map_cons, List.zipIdx_cons]
        exact Checked.seq_valid
          (Checked.map_valid List.cons (hEach.1 _))
          (ih hEach.2 (n + 1))
  exact hAux 0

theorem undoes_texts (ss : List String) :
    Undoes (readList readText) .ofTexts ss :=
  undoes_list fun s _ => undoes_text s

/- A map of texts is read back. -/
theorem undoes_map (ls : Labels) :
    Undoes readMap (fun ls => Mesh.labelsJson (some ls))
      ls := by
  intro path
  refine Checked.each_valid ?_
  rw [List.forall₂_map_left_iff, List.forall₂_map_left_iff,
    List.forall₂_same]
  exact fun _ _ => rfl

/- Labels are read back, also where there are none. -/
theorem undoes_labels (ls : Option Labels) :
    Undoes Mesh.readLabels Mesh.labelsJson ls := by
  intro path
  cases ls with
  | none => rfl
  | some ls =>
      exact Checked.map_valid some (undoes_map ls path)

/- A record is read back from the object it is written as. -/
theorem undoes_record
    {record : String}
    {check : List Step → Draft → Checked α}
    {ms : Json.Members}
    {a : α}
    (hWrite : write a = .obj ms)
    (hCheck : ∀ path,
      check path (Draft.ofMembers ms) = .valid a) :
    Undoes (readRecord record check) write a := by
  intro path
  rw [hWrite]
  exact hCheck path

/- Where null is allowed, all else is read as it was. -/
theorem undoes_orNull
    {a : α}
    (hUndoes : Undoes read write a)
    (hSome : write a ≠ .null)
    (path : List Step) :
    orNull read path (.value (write a)) =
      .valid (some a) := by
  unfold orNull
  split
  · rename_i hNull
    exact (hSome (Input.value.inj hNull)).elim
  · exact Checked.map_valid some (hUndoes _)

end Record

------------------------------------------------------------
-- Fields
------------------------------------------------------------

namespace Record

variable {α : Type}
variable {read : Reading α} {write : α → Json}
variable {ms : Json.Members} {f : Field}

/- What is found for a field of an object. -/
theorem Draft.find_ofMembers :
    (Draft.ofMembers ms).find f =
      match Table.lookup f.outer ms with
      | some v => some (f.outer, .value v)
      | none =>
          (Table.lookup f.name ms).map fun v =>
            (f.name, .value v) := by
  unfold Draft.find Draft.ofMembers
  rw [Table.lookup_map, Table.lookup_map]
  cases Table.lookup f.outer ms with
  | some v => rfl
  | none => rw [Option.map_map]; rfl

/- A field that is written is read back. -/
theorem required_of_member
    {a : α}
    {path : List Step}
    (hMember : Table.lookup f.outer ms = some (write a))
    (hUndoes : Undoes read write a) :
    required path (Draft.ofMembers ms) f read =
      .valid a := by
  unfold required
  rw [Draft.find_ofMembers, hMember]
  exact hUndoes _

theorem withDefault_of_member
    {a default : α}
    {path : List Step}
    (hMember : Table.lookup f.outer ms = some (write a))
    (hUndoes : Undoes read write a) :
    withDefault path (Draft.ofMembers ms) f read default =
      .valid a := by
  unfold withDefault
  rw [Draft.find_ofMembers, hMember]
  exact hUndoes _

/-
  A field that is left out where it has no value is read
  back, whether it is written or not.
-/
theorem withDefault_of_optional
    {o : Option α}
    {path : List Step}
    (hOuter : Table.lookup f.outer ms = o.map write)
    (hInner : o = none → Table.lookup f.name ms = none)
    (hUndoes : ∀ a, o = some a → Undoes read write a)
    (hSome : ∀ a, write a ≠ .null) :
    withDefault path (Draft.ofMembers ms) f (orNull read)
        none =
      .valid o := by
  unfold withDefault
  rw [Draft.find_ofMembers, hOuter]
  cases o with
  | none =>
      rw [hInner rfl]
      rfl
  | some a => exact undoes_orNull (hUndoes a rfl) (hSome a) _

end Record

/- A member that may be left out is found if it is not. -/
theorem Mesh.lookup_memberUnlessNone
    (f : Record.Field)
    (o : Option Json)
    (key : String) :
    Table.lookup key (memberUnlessNone f o) =
      if f.outer = key then o else none := by
  cases o with
  | none => simp [memberUnlessNone, Table.lookup]
  | some v => simp [memberUnlessNone, Table.lookup]

------------------------------------------------------------
-- References and Providers
------------------------------------------------------------

open Record Record.Checked

theorem Reference.undoes_toJson (r : Reference) :
    Undoes (readRecord recordName check) toJson r := by
  rcases r with ⟨group, kind, ns, name⟩
  refine undoes_record rfl fun path => ?_
  unfold check
  refine seq_valid
    (seq_valid
      (seq_valid (map_valid _ ?group) ?kind) ?ns) ?name
  case group =>
    exact required_of_member rfl (undoes_text group)
  case kind =>
    exact required_of_member rfl (undoes_text kind)
  case ns => exact required_of_member rfl (undoes_text ns)
  case name =>
    exact required_of_member rfl (undoes_text name)

theorem Broker.undoes_toJson (b : Broker) :
    Undoes (readRecord recordName check) toJson b := by
  rcases b with ⟨name, ns, uid, labels, annotations, ids⟩
  refine undoes_record rfl fun path => ?_
  unfold check
  refine seq_valid
    (seq_valid
      (seq_valid
        (seq_valid
          (seq_valid (map_valid _ ?name) ?ns) ?uid)
        ?labels)
      ?annotations)
    ?ids
  case name =>
    exact required_of_member rfl (undoes_text name)
  case ns => exact required_of_member rfl (undoes_text ns)
  case uid =>
    exact withDefault_of_member rfl (undoes_text uid)
  case labels =>
    exact withDefault_of_member rfl (undoes_labels labels)
  case annotations =>
    exact withDefault_of_member rfl
      (undoes_labels annotations)
  case ids =>
    exact withDefault_of_member rfl (undoes_texts ids)

theorem Subscribable.undoes_toJson (s : Subscribable) :
    Undoes (readRecord recordName check) toJson s := by
  rcases s with
    ⟨name, ns, uid, group, kind, labels, annotations, ids⟩
  refine undoes_record rfl fun path => ?_
  unfold check
  refine seq_valid
    (seq_valid
      (seq_valid
        (seq_valid
          (seq_valid
            (seq_valid
              (seq_valid (map_valid _ ?name) ?ns) ?uid)
            ?group)
          ?kind)
        ?labels)
      ?annotations)
    ?ids
  case name =>
    exact required_of_member rfl (undoes_text name)
  case ns => exact required_of_member rfl (undoes_text ns)
  case uid =>
    exact withDefault_of_member rfl (undoes_text uid)
  case group =>
    exact required_of_member rfl (undoes_text group)
  case kind =>
    exact required_of_member rfl (undoes_text kind)
  case labels =>
    exact withDefault_of_member rfl (undoes_labels labels)
  case annotations =>
    exact withDefault_of_member rfl
      (undoes_labels annotations)
  case ids =>
    exact withDefault_of_member rfl (undoes_texts ids)

------------------------------------------------------------
-- Event Types and Sources
------------------------------------------------------------

/-
  The consumers of an event type are texts, as its record
  declares them.
-/
def EventType.HasTexts (e : EventType) : Prop :=
  ∃ ss : List String, e.consumedBy = ss.map .str

/- What is written of an event type, name by name. -/
def EventType.member (e : EventType) : String → Option Json
| "name" => some (.str e.name)
| "namespace" => some (.str e.ns)
| "type" => some (.str e.type)
| "uid" => some (.str e.uid)
| "description" => e.description.map .str
| "schemaData" => e.schemaData.map .str
| "schemaURL" => e.schemaUrl.map .str
| "labels" => some (Mesh.labelsJson e.labels)
| "annotations" => some (Mesh.labelsJson e.annotations)
| "reference" => e.reference.map (·.toJson)
| "consumedBy" => some (.arr e.consumedBy)
| _ => none

theorem EventType.lookup_toJson (e : EventType) :
    ∃ ms, e.toJson = .obj ms ∧
      ∀ key, Table.lookup key ms = e.member key := by
  refine ⟨_, rfl, fun key => ?_⟩
  simp only [Table.lookup_append,
    Mesh.lookup_memberUnlessNone, Mesh.Field.description,
    Mesh.Field.schemaData, Mesh.Field.schemaUrl,
    Mesh.Field.reference, Field.plain, Table.lookup]
  fun_cases member e key with
  | case12 hName hNs hType hUid hDescription hSchemaData
      hSchemaUrl hLabels hAnnotations hReference
      hConsumedBy =>
      simp_all [eq_comm]
  | _ => simp

theorem EventType.undoes_toJson
    {e : EventType}
    (hTexts : e.HasTexts) :
    Undoes (readRecord recordName check) toJson e := by
  rcases e.lookup_toJson with ⟨ms, hWrite, hMember⟩
  rcases e with
    ⟨name, ns, type, uid, description, schemaData, schemaUrl,
      labels, annotations, reference, consumedBy⟩
  rcases hTexts with ⟨ss, hSame⟩
  cases hSame
  refine undoes_record hWrite fun path => ?_
  unfold check
  refine seq_valid
    (seq_valid
      (seq_valid
        (seq_valid
          (seq_valid
            (seq_valid
              (seq_valid
                (seq_valid
                  (seq_valid
                    (seq_valid (map_valid _ ?name) ?ns)
                    ?type)
                  ?uid)
                ?description)
              ?schemaData)
            ?schemaUrl)
          ?labels)
        ?annotations)
      ?reference)
    (map_valid _ ?consumedBy)
  case name =>
    exact required_of_member (hMember _) (undoes_text name)
  case ns =>
    exact required_of_member (hMember _) (undoes_text ns)
  case type =>
    exact withDefault_of_member (hMember _)
      (undoes_text type)
  case uid =>
    exact withDefault_of_member (hMember _)
      (undoes_text uid)
  case description =>
    refine withDefault_of_optional (hMember _) ?_
      (fun s _ => undoes_text s) nofun
    rintro rfl
    exact hMember _
  case schemaData =>
    exact withDefault_of_optional (hMember _)
      (fun _ => hMember _) (fun s _ => undoes_text s) nofun
  case schemaUrl =>
    exact withDefault_of_optional (hMember _)
      (fun _ => hMember _) (fun s _ => undoes_text s) nofun
  case labels =>
    exact withDefault_of_member (hMember _)
      (undoes_labels labels)
  case annotations =>
    exact withDefault_of_member (hMember _)
      (undoes_labels annotations)
  case reference =>
    refine withDefault_of_optional (hMember _) ?_
      (fun r _ => r.undoes_toJson) nofun
    rintro rfl
    exact hMember _
  case consumedBy =>
    exact withDefault_of_member (hMember _)
      (undoes_texts ss)

theorem Source.undoes_toJson (s : Source) :
    Undoes (readRecord recordName check) toJson s := by
  rcases s with
    ⟨name, ns, uid, group, kind, labels, annotations,
      declared, ids, sink⟩
  refine undoes_record rfl fun path => ?_
  unfold check
  refine seq_valid
    (seq_valid
      (seq_valid
        (seq_valid
          (seq_valid
            (seq_valid
              (seq_valid
                (seq_valid
                  (seq_valid (map_valid _ ?name) ?ns)
                  ?uid)
                ?group)
              ?kind)
            ?labels)
          ?annotations)
        ?declared)
      ?ids)
    ?sink
  case name =>
    exact required_of_member rfl (undoes_text name)
  case ns => exact required_of_member rfl (undoes_text ns)
  case uid =>
    exact withDefault_of_member rfl (undoes_text uid)
  case group =>
    exact required_of_member rfl (undoes_text group)
  case kind =>
    exact required_of_member rfl (undoes_text kind)
  case labels =>
    exact withDefault_of_member rfl (undoes_labels labels)
  case annotations =>
    exact withDefault_of_member rfl
      (undoes_labels annotations)
  case declared =>
    exact withDefault_of_member rfl (undoes_texts declared)
  case ids =>
    exact withDefault_of_member rfl (undoes_texts ids)
  case sink =>
    -- Only the sink may be left out, and it comes last.
    cases sink with
    | none => rfl
    | some r =>
        exact withDefault_of_optional (o := some r) rfl
          nofun (fun r _ => r.undoes_toJson) nofun

end EventTopology
