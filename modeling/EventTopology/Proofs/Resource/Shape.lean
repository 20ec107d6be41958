import EventTopology.Proofs.Ending

/-
  This file says which shape resources should have: which
  of their parts are objects, and which are texts.  Where a
  resource has that shape, looking into it never fails.

  Key definitions include:
    * `Json.Shape`
    * `Json.dig`
    * `Resource.shape`
    * `Resource.eventTypeShape`
    * `Resource.IsWritten`

  Looking into values is described by:
    * `Json.Shape.get`
    * `Json.Shape.getText`
    * `Resource.metadata_of_shape`
    * `Resource.spec_of_shape`
-/

------------------------------------------------------------
-- Shapes
------------------------------------------------------------

namespace EventTopology

namespace Json

/- A test of the sort and of the parts of a value. -/
abbrev Shape := Json → Bool

namespace Shape

/- A text. -/
def text : Shape
| .str _ => true
| _ => false

/- An array whose elements have a shape. -/
def array (element : Shape) : Shape
| .arr es => es.all element
| _ => false

/- An object that gives texts to all but the free names. -/
def texts (free : List String) : Shape
| .obj ms => ms.all fun m => free.contains m.1 || text m.2
| _ => false

/-
  An object in which the named members have shapes where
  they are there.  Other members may be anything.
-/
def object (fields : Table Shape) : Shape
| .obj ms =>
    fields.all fun f =>
      match Table.lookup f.1 ms with
      | none => true
      | some v => f.2 v
| _ => false

/- Null, or a value of a shape. -/
def optional (shape : Shape) : Shape
| .null => true
| v => shape v

end Shape

/- The value under a name, or null where there is none. -/
def member (name : String) : Json → Json
| .obj ms => find name ms
| _ => .null

/- The value at the end of a path of names, or null. -/
def dig : List String → Json → Json
| [], v => v
| name :: path, v => dig path (v.member name)

/- The members of an object, as far as they are texts. -/
def textMembers : Json → EventTopology.Labels
| .obj ms => ms.map fun m => (m.1, m.2.text)
| _ => []

/- An empty object has no more members than a false value. -/
@[simp] theorem member_orEmpty (name : String) (v : Json) :
    v.orEmpty.member name = v.member name := by
  unfold orEmpty
  split
  · rfl
  · rename_i hFalse
    cases v with
    | obj ms =>
        cases ms with
        | nil => rfl
        | cons m ms => exact (hFalse rfl).elim
    | _ => rfl

/- An empty object holds no more texts than a false value. -/
@[simp] theorem textMembers_orEmpty (v : Json) :
    v.orEmpty.textMembers = v.textMembers := by
  unfold orEmpty
  split
  · rfl
  · rename_i hFalse
    cases v with
    | obj ms =>
        cases ms with
        | nil => rfl
        | cons m ms => exact (hFalse rfl).elim
    | _ => rfl

end Json

------------------------------------------------------------
-- Looking into Shapes
------------------------------------------------------------

namespace Json.Shape

variable {fields : Table Shape}
variable {shape : Shape}
variable {free : List String}
variable {v : Json}
variable {name : String}

theorem exists_text (hText : text v) : ∃ s, v = .str s := by
  cases v with
  | str s => exact ⟨s, rfl⟩
  | _ => cases hText

theorem exists_elements
    (hArray : array shape v) :
    ∃ es, v = .arr es ∧ ∀ e ∈ es, shape e := by
  cases v with
  | arr es => exact ⟨es, rfl, List.all_eq_true.mp hArray⟩
  | _ => cases hArray

theorem exists_members
    (hObject : object fields v) :
    ∃ ms, v = .obj ms := by
  cases v with
  | obj ms => exact ⟨ms, rfl⟩
  | _ => cases hObject

/- An object of texts is written as the labels it holds. -/
theorem eq_labelsJson (hTexts : texts [] v) :
    v = Mesh.labelsJson (some v.textMembers) := by
  cases v with
  | obj ms =>
      have hEach : ∀ m ∈ ms,
          (m.1, Json.str m.2.text) = m := by
        rintro ⟨name, v⟩ hMem
        have hText := List.all_eq_true.mp hTexts _ hMem
        rcases exists_text (by simpa using hText) with
          ⟨s, rfl⟩
        rfl
      have hSame : ms.map (fun m =>
          (m.1, Json.str m.2.text)) = ms :=
        (List.map_congr_left hEach).trans (List.map_id ms)
      simp only [Mesh.labelsJson, textMembers, List.map_map]
      exact congrArg Json.obj hSame.symm
  | _ => cases hTexts

theorem exists_texts
    (hTexts : texts free v) :
    ∃ ms, v = .obj ms ∧
      ∀ m ∈ ms, m.1 ∉ free → text m.2 := by
  cases v with
  | obj ms =>
      refine ⟨ms, rfl, ?_⟩
      intro m hMem hBound
      have hEither := List.all_eq_true.mp hTexts m hMem
      simpa [hBound] using hEither
  | _ => cases hTexts

/- A member with a field's name has the field's shape. -/
theorem of_lookup
    {ms : Members}
    {w : Json}
    (hObject : object fields (.obj ms))
    (hField : Table.lookup name fields = some shape)
    (hMember : Table.lookup name ms = some w) :
    shape w := by
  unfold object at hObject
  rw [List.all_eq_true] at hObject
  induction fields with
  | nil => cases hField
  | cons f fields ih =>
      rcases f with ⟨other, shape'⟩
      unfold Table.lookup at hField
      split at hField
      · rename_i hName
        subst hName
        cases hField
        have hFirst := hObject _ List.mem_cons_self
        dsimp only at hFirst
        rw [hMember] at hFirst
        exact hFirst
      · refine ih ?_ hField
        intro f hMem
        exact hObject f (List.mem_cons_of_mem _ hMem)

/- Where there is no value, there is nothing amiss. -/
theorem optional_iff :
    optional shape v ↔ v = .null ∨ shape v := by
  cases v with
  | null => simp [optional]
  | _ => simp [optional]

/- Null may be allowed twice. -/
theorem optional_optional
    (hOptional : optional (optional shape) v) :
    optional shape v := by
  rcases optional_iff.mp hOptional with rfl | hShape
  · rfl
  · exact hShape

/- The member of a name has the shape of its field. -/
theorem optional_member
    (hObject : object fields v)
    (hField : Table.lookup name fields = some shape) :
    optional shape (v.member name) := by
  rcases exists_members hObject with ⟨ms, rfl⟩
  change optional shape ((Table.lookup name ms).getD .null)
  cases hMember : Table.lookup name ms with
  | none => rfl
  | some w =>
      rw [optional_iff]
      right
      exact of_lookup hObject hField hMember

/- Any member of an object can be asked for. -/
theorem get_any
    (hObject : object fields v)
    (name : String) :
    (v.get name).Succeeds fun w => w = v.member name := by
  rcases exists_members hObject with ⟨ms, rfl⟩
  rfl

/- A member that is asked for has its field's shape. -/
theorem get
    (hObject : object fields v)
    (hField : Table.lookup name fields = some shape) :
    (v.get name).Succeeds fun w =>
      w = v.member name ∧ optional shape w := by
  refine (get_any hObject name).mono ?_ fun _ h => h
  rintro w rfl
  exact ⟨rfl, optional_member hObject hField⟩

/- Where a text is left out, the empty text is had. -/
theorem getText
    (hObject : object fields v)
    (hField : Table.lookup name fields = some text) :
    (v.getText name).Succeeds fun w =>
      ∃ s, w = .str s := by
  rcases exists_members hObject with ⟨ms, rfl⟩
  change ∃ s, (Table.lookup name ms).getD (.str "") = .str s
  cases hMember : Table.lookup name ms with
  | none => exact ⟨"", rfl⟩
  | some w =>
      exact exists_text (of_lookup hObject hField hMember)

/- An object that is left out is an empty one. -/
theorem object_orEmpty
    (hOptional : optional (object fields) v) :
    object fields v.orEmpty := by
  have hEmpty : object fields (.obj []) := by
    simp [object, Table.lookup]
  rcases optional_iff.mp hOptional with rfl | hObject
  · exact hEmpty
  · unfold orEmpty
    split
    · exact hObject
    · exact hEmpty

theorem texts_orEmpty
    (hOptional : optional (texts free) v) :
    texts free v.orEmpty := by
  rcases optional_iff.mp hOptional with rfl | hTexts
  · rfl
  · unfold orEmpty
    split
    · exact hTexts
    · rfl

/- What is true is not null. -/
theorem of_truthy
    (hOptional : optional shape v)
    (hTruthy : v.truthy = true) :
    shape v := by
  rcases optional_iff.mp hOptional with rfl | hShape
  · cases hTruthy
  · exact hShape

/- One of two texts is a text. -/
theorem exists_text_orElse
    (hOptional : optional text v)
    (s : String) :
    ∃ t, v.orElse (.str s) = .str t := by
  unfold orElse
  split
  · rename_i hTruthy
    exact exists_text (of_truthy hOptional hTruthy)
  · exact ⟨s, rfl⟩

/- An array that is left out is an empty one. -/
theorem iterate_orElse
    (hOptional : optional (array shape) v) :
    (v.orElse (.arr [])).iterate.Succeeds fun es =>
      ∀ e ∈ es, shape e := by
  have hEmpty : ∀ e ∈ ([] : List Json), shape e := by simp
  rcases optional_iff.mp hOptional with rfl | hArray
  · exact hEmpty
  · rcases exists_elements hArray with ⟨es, rfl, hElements⟩
    unfold orElse
    split
    · exact hElements
    · exact hEmpty

end Json.Shape

------------------------------------------------------------
-- Shapes of Resources
------------------------------------------------------------

namespace Resource

open Json.Shape

/- The shape of a reference. -/
def referenceShape : Json.Shape :=
  object
    [("apiVersion", text), ("kind", text),
     ("namespace", text), ("name", text)]

/- The shape of what holds a reference. -/
def holderShape : Json.Shape :=
  object [("ref", referenceShape)]

/- The shape of metadata, with labels that are free. -/
def metadataShape (free : List String) : Json.Shape :=
  object
    [("name", text), ("namespace", text), ("uid", text),
     ("labels", texts free), ("annotations", texts [])]

/- The members of a spec, whatever the kind. -/
def specFields : Table Json.Shape :=
  [("type", text), ("broker", text), ("group", text),
   ("version", text),
   ("filter",
     object [("attributes", object [("type", text)])]),
   ("subscriber", holderShape),
   ("channel", referenceShape),
   ("reference", referenceShape),
   ("sink", holderShape),
   ("names", object [("plural", text), ("kind", text)]),
   ("versions", array (object [("name", text)]))]

/- The shape of a spec with more members. -/
def specShape (more : Table Json.Shape) : Json.Shape :=
  object (specFields ++ more)

/-
  The shape of a resource, with labels that are free and
  with more members in its spec.
-/
def shapeWith
    (free : List String)
    (more : Table Json.Shape) : Json.Shape :=
  object
    [("apiVersion", text), ("kind", text),
     ("metadata", metadataShape free),
     ("spec", specShape more)]

/- The shape of a resource, with labels that are free. -/
def shape (free : List String) : Json.Shape :=
  shapeWith free []

/- The shape of an attribute. -/
def attributeShape : Json.Shape :=
  object [("name", text), ("value", text)]

/- The members that only the specs of event types have. -/
def eventTypeFields : Table Json.Shape :=
  [("attributes", array attributeShape)]

/- The shape of an event type, which may have attributes. -/
def eventTypeShape : Json.Shape :=
  shapeWith [] eventTypeFields

/-
  What an event type says of itself in any form can be
  written: no whole number in it is too long for a text.
-/
def IsWritten (raw : Json) : Prop :=
  ∀ name ∈ ["schema", "description", "schemaData"],
    (raw.dig ["spec", name]).HasText

instance (raw : Json) : Decidable (IsWritten raw) :=
  inferInstanceAs (Decidable (∀ name ∈ _, _))

end Resource

------------------------------------------------------------
-- Looking into Resources
------------------------------------------------------------

namespace Resource

open Json.Shape

variable {free : List String}
variable {more : Table Json.Shape}
variable {raw : Json}

/- Metadata that is an object is looked into. -/
theorem metadata_of_object
    {fields inner : Table Json.Shape}
    (hObject : object fields raw)
    (hField : Table.lookup "metadata" fields =
      some (object inner)) :
    (metadata raw).Succeeds fun md =>
      md = (raw.member "metadata").orEmpty ∧
        object inner md := by
  refine (Json.Shape.get hObject hField).map ?_
  intro md hMd
  rcases hMd with ⟨rfl, hMetadata⟩
  exact ⟨rfl, object_orEmpty hMetadata⟩

theorem metadata_of_shape (hShape : shapeWith free more raw) :
    (metadata raw).Succeeds fun md =>
      md = (raw.member "metadata").orEmpty ∧
        metadataShape free md :=
  metadata_of_object hShape rfl

/- A spec that is an object is looked into. -/
theorem spec_of_object
    {fields inner : Table Json.Shape}
    (hObject : object fields raw)
    (hField : Table.lookup "spec" fields =
      some (object inner)) :
    (spec raw).Succeeds fun spec =>
      spec = (raw.member "spec").orEmpty ∧
        object inner spec := by
  refine (Json.Shape.get hObject hField).map ?_
  intro spec hSpec
  rcases hSpec with ⟨rfl, hSpec⟩
  exact ⟨rfl, object_orEmpty hSpec⟩

theorem spec_of_shape (hShape : shapeWith free more raw) :
    (spec raw).Succeeds fun spec =>
      spec = (raw.member "spec").orEmpty ∧
        specShape more spec :=
  spec_of_object hShape rfl

/- Labels can be looked into, and so can each of them. -/
theorem labelsOf_of_shape (hShape : shapeWith free more raw) :
    (labelsOf raw).Succeeds fun labels =>
      labels = (raw.dig ["metadata", "labels"]).orEmpty ∧
        ∃ ms, labels = .obj ms := by
  refine (metadata_of_shape hShape).bind ?_
  intro md hMd
  rcases hMd with ⟨rfl, hMetadata⟩
  refine (Json.Shape.get hMetadata rfl).bind ?_
  intro labels hLabels
  rcases hLabels with ⟨rfl, hLabels⟩
  refine ⟨by simp [Json.dig], ?_⟩
  rcases exists_texts (texts_orEmpty hLabels) with
    ⟨ms, hMembers, -⟩
  exact ⟨ms, hMembers⟩

end Resource

end EventTopology
