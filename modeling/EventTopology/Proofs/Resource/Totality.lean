import EventTopology.Proofs.Json.Writing
import EventTopology.Proofs.Record
import EventTopology.Proofs.Resource.Shape

/-
  This file shows that conversion is total on resources of
  the proper shape: records can be read from all of them,
  but for event types that hold numbers too long to be
  written.  Where labels are free, the only other failures
  are records that are not valid.

  Key definitions include:
    * `Record.Checked.IsValid`
    * `Failure.IsInvalid`

  The main results are:
    * `Conversion.broker_of_shape`
    * `Conversion.subscribable_of_shape`
    * `Conversion.eventType_of_shape`
    * `Conversion.source_of_shape`
    * `Conversion.trigger_of_shape`
    * `Conversion.channelSubscription_of_shape`
-/

------------------------------------------------------------
-- Valid Records
------------------------------------------------------------

namespace EventTopology

namespace Record

namespace Checked

variable {α β : Type}

/- There is a value and no fault. -/
def IsValid (v : Checked α) : Prop :=
  ∃ a, v = .valid a

theorem IsValid.seq
    {f : Checked (α → β)}
    {a : Checked α}
    (hFirst : f.IsValid)
    (hLast : a.IsValid) :
    (f <*> a).IsValid := by
  rcases hFirst with ⟨g, rfl⟩
  rcases hLast with ⟨x, rfl⟩
  exact ⟨g x, rfl⟩

theorem IsValid.map
    {a : Checked α}
    (f : α → β)
    (hFirst : a.IsValid) :
    (f <$> a).IsValid :=
  IsValid.seq ⟨f, rfl⟩ hFirst

theorem isValid_each
    {f : α → Checked β}
    {as : List α}
    (hEach : ∀ a ∈ as, (f a).IsValid) :
    (each f as).IsValid := by
  induction as with
  | nil => exact ⟨[], rfl⟩
  | cons a as ih =>
      have hFirst := hEach a List.mem_cons_self
      have hRest := ih fun a' hMem =>
        hEach a' (List.mem_cons_of_mem a hMem)
      exact (hFirst.map List.cons).seq hRest

end Checked

open Checked

/- Texts are read from members of maps that are texts. -/
theorem isValid_readEntries
    {ms : Json.Members}
    (path : List Step)
    (hTexts : ∀ m ∈ ms, Json.Shape.text m.2) :
    (each (readEntry path)
      (ms.map fun m => (.str m.1, m.2))).IsValid := by
  apply isValid_each
  intro e hMem
  rcases List.mem_map.mp hMem with ⟨⟨name, v⟩, hMember, rfl⟩
  rcases Json.Shape.exists_text (hTexts _ hMember) with
    ⟨s, hText⟩
  have hText : v = .str s := hText
  subst hText
  exact ⟨(name, s), rfl⟩

/- A map of texts is read from an object of texts. -/
theorem isValid_readMap
    {v : Json}
    (path : List Step)
    (hTexts : Json.Shape.texts [] v) :
    (readMap path (.value v)).IsValid := by
  rcases Json.Shape.exists_texts hTexts with
    ⟨ms, rfl, hMembers⟩
  exact isValid_readEntries path fun m hMem =>
    hMembers m hMem List.not_mem_nil

/- Null and texts are read where null is allowed. -/
theorem isValid_textOrNull
    {v : Json}
    (path : List Step)
    (hOptional : Json.Shape.optional Json.Shape.text v) :
    (orNull readText path (.value v)).IsValid := by
  rcases Json.Shape.optional_iff.mp hOptional with
    rfl | hText
  · exact ⟨none, rfl⟩
  · rcases Json.Shape.exists_text hText with ⟨s, rfl⟩
    exact ⟨some s, rfl⟩

/- An array of texts is read. -/
theorem isValid_readTexts
    (path : List Step)
    (ss : List String) :
    (readList readText path
      (.value (.ofTexts ss))).IsValid := by
  apply isValid_each
  intro e hMem
  rcases e with ⟨v, i⟩
  have hIn : v ∈ ss.map Json.str :=
    (List.mem_zipIdx' hMem).2 ▸ List.getElem_mem _
  rcases List.mem_map.mp hIn with ⟨s, _, rfl⟩
  exact ⟨s, rfl⟩

end Record

------------------------------------------------------------
-- Invalid Records
------------------------------------------------------------

open Record.Checked (IsValid)

namespace Failure

variable {α : Type}
variable {record : String}
variable {v : Record.Checked α}

/- A record is not valid. -/
def IsInvalid (f : Failure) : Prop :=
  ∃ record faults, f = .invalid record faults

theorem succeeds_ofChecked (hValid : v.IsValid) :
    (ofChecked record v).Succeeds fun _ => True := by
  rcases hValid with ⟨a, rfl⟩
  trivial

/- A record that is valid without freedom fails only so. -/
theorem ends_ofChecked
    {free : List String}
    (hValid : free = [] → v.IsValid) :
    (ofChecked record v).Ends (fun _ => True)
      fun f => free ≠ [] ∧ f.IsInvalid := by
  cases v with
  | valid a => trivial
  | faulty faults =>
      refine ⟨?_, record, faults, rfl⟩
      intro hBound
      rcases hValid hBound with ⟨a, hFaulty⟩
      cases hFaulty

end Failure

------------------------------------------------------------
-- Parts of Resources
------------------------------------------------------------

namespace Resource

open Json.Shape

variable {free : List String}
variable {more : Table Json.Shape}
variable {raw md v : Json}

/- What is read as labels is valid unless labels are free. -/
theorem labels_of_shape (hMetadata : metadataShape free md) :
    (labels md).Succeeds fun input =>
      free = [] →
        ∀ path, (Mesh.readLabels path input).IsValid := by
  refine (Json.Shape.get hMetadata rfl).bind ?_
  intro labels hLabels
  rcases hLabels with ⟨-, hLabels⟩
  rcases optional_iff.mp hLabels with rfl | hTexts
  · intro _ path
    exact ⟨none, rfl⟩
  · rcases exists_texts hTexts with ⟨ms, rfl, hMembers⟩
    rintro rfl path
    have hRead := Record.isValid_readEntries path
      fun m hMem => hMembers m hMem List.not_mem_nil
    exact hRead.map some

/- What remains of texts is texts. -/
theorem sanitize_of_texts
    (excluded : List String)
    (hTexts : optional (texts []) v) :
    (Annotations.sanitize excluded v).Succeeds fun w =>
      optional (texts []) w := by
  rcases optional_iff.mp hTexts with rfl | hTexts
  · rfl
  · rcases exists_texts hTexts with ⟨ms, rfl, hMembers⟩
    have hKept : texts []
        (.obj (Annotations.kept excluded ms)) := by
      refine List.all_eq_true.mpr ?_
      intro m hMem
      have hIn := (Annotations.mem_kept_iff.mp hMem).1
      simpa using hMembers m hIn List.not_mem_nil
    unfold Annotations.sanitize
    refine Except.Ends.bind (P := fun ms' => ms' = ms)
      rfl ?_
    intro ms' hSame
    subst hSame
    split
    · rfl
    · exact hKept

/- Annotations are valid, whichever are dropped. -/
theorem annotations_of_shape
    (c : Conversion)
    (hMetadata : metadataShape free md) :
    (annotations c md).Succeeds fun input =>
      ∀ path, (Mesh.readLabels path input).IsValid := by
  refine (Json.Shape.get hMetadata rfl).bind ?_
  intro found hFound
  rcases hFound with ⟨-, hFound⟩
  refine (sanitize_of_texts c.excluded hFound).bind ?_
  intro w hKept path
  rcases optional_iff.mp hKept with rfl | hTexts
  · exact ⟨none, rfl⟩
  · have hRead := Record.isValid_readMap path hTexts
    rcases exists_texts hTexts with ⟨ms, rfl, -⟩
    exact hRead.map some

end Resource

------------------------------------------------------------
-- Values in Texts
------------------------------------------------------------

namespace Json

/- Texts and null have texts. -/
theorem hasText_of_optional
    {v : Json}
    (hOptional : Shape.optional Shape.text v) :
    v.HasText := by
  rcases Shape.optional_iff.mp hOptional with rfl | hText
  · exact hasText_null
  · rcases Shape.exists_text hText with ⟨s, rfl⟩
    exact hasText_str s

end Json

namespace Resource

open Json.Shape

/- A value becomes a text or null, if it can be written. -/
theorem textOrNull_ends (v : Json) :
    (textOrNull v).Ends
      (fun w => optional text w)
      (fun e => ¬ v.HasText ∧ e = .tooLong) := by
  unfold textOrNull
  split
  · rfl
  · exact (Json.text?_ends v).map fun _ _ => rfl

end Resource

------------------------------------------------------------
-- Steps of Conversions
------------------------------------------------------------

namespace Resource

open Json.Shape

variable {α : Type}
variable {free : List String}
variable {more : Table Json.Shape}
variable {fields : Table Json.Shape}
variable {shape : Json.Shape}
variable {raw v : Json}
variable {name : String}
variable {f : Json → Except Failure α}
variable {P : α → Prop}
variable {E : Failure → Prop}

/- What follows a text that is looked up has a text. -/
theorem getText_bind
    (hObject : object fields v)
    (hField : Table.lookup name fields = some text)
    (hRest : ∀ s, (f (.str s)).Ends P E) :
    (liftM (v.getText name) >>= f).Ends P E := by
  refine (getText hObject hField).lift.bind ?_
  intro w hText
  rcases hText with ⟨s, rfl⟩
  exact hRest s

theorem get_bind
    (hObject : object fields v)
    (hField : Table.lookup name fields = some shape)
    (hRest : ∀ w, optional shape w → (f w).Ends P E) :
    (liftM (v.get name) >>= f).Ends P E := by
  refine (Json.Shape.get hObject hField).lift.bind ?_
  intro w hMember
  exact hRest w hMember.2

theorem metadata_bind
    (hShape : shapeWith free more raw)
    (hRest : ∀ md, metadataShape free md →
      (f md).Ends P E) :
    (liftM (metadata raw) >>= f).Ends P E := by
  refine (metadata_of_shape hShape).lift.bind ?_
  intro md hMetadata
  exact hRest md hMetadata.2

theorem spec_bind
    (hShape : shapeWith free more raw)
    (hRest : ∀ spec, specShape more spec →
      (f spec).Ends P E) :
    (liftM (spec raw) >>= f).Ends P E := by
  refine (spec_of_shape hShape).lift.bind ?_
  intro spec hSpec
  exact hRest spec hSpec.2

end Resource

------------------------------------------------------------
-- References
------------------------------------------------------------

namespace Key

/- The group of a text is a text. -/
theorem groupOfValue_of_text (s : String) :
    (groupOfValue (.str s)).Succeeds fun v =>
      ∃ group, v = .str group := by
  simp only [groupOfValue, Json.contains]
  cases Json.occursIn "/".toList s.toList with
  | true => exact ⟨groupOf s, rfl⟩
  | false => exact ⟨s, rfl⟩

theorem groupOfValue_bind
    {α : Type}
    {f : Json → Except Failure α}
    {P : α → Prop}
    {E : Failure → Prop}
    (s : String)
    (hRest : ∀ group, (f (.str group)).Ends P E) :
    (liftM (groupOfValue (.str s)) >>= f).Ends P E := by
  refine (groupOfValue_of_text s).lift.bind ?_
  intro v hText
  rcases hText with ⟨group, rfl⟩
  exact hRest group

end Key

namespace Resource

open Json.Shape

variable {free : List String}
variable {more : Table Json.Shape}
variable {raw s : Json}

/- Drafts of references are read as they were written. -/
theorem isValid_draftReference
    (path : List Record.Step)
    (r : Option Reference) :
    (Record.orNull
      (Record.readRecord Reference.recordName
        Reference.check)
      path (draftRecord Reference.toJson r)).IsValid := by
  cases r with
  | none => exact ⟨none, rfl⟩
  | some r => exact ⟨some r, rfl⟩

theorem isValid_draftSubscriber
    (path : List Record.Step)
    (r : Option ObjectReference) :
    (Record.orNull
      (Record.readRecord ObjectReference.recordName
        ObjectReference.check)
      path
      (draftRecord ObjectReference.toJson r)).IsValid := by
  cases r with
  | none => exact ⟨none, rfl⟩
  | some r => exact ⟨some r, rfl⟩

/- The provider of an event type can be read. -/
theorem provider_of_shape
    (hSpec : specShape more s)
    (ns : String) :
    (provider s (.str ns)).Succeeds fun _ => True := by
  refine get_bind hSpec rfl ?_
  intro ref hOptional
  split
  case isTrue => trivial
  case isFalse hFound =>
    have hTruthy : ref.truthy = true := by simpa using hFound
    have hRef := of_truthy hOptional hTruthy
    refine getText_bind hRef rfl ?_
    intro apiVersion
    refine Key.groupOfValue_bind apiVersion ?_
    intro group
    refine getText_bind hRef rfl ?_
    intro kind
    refine getText_bind hRef rfl ?_
    intro name
    trivial

/- The reference of a holder has the shape of one. -/
theorem ref_of_holder
    {v : Json}
    (hHolder : optional holderShape v) :
    (v.orEmpty.get "ref").Succeeds
      fun ref => optional referenceShape ref := by
  refine (Json.Shape.get (object_orEmpty hHolder) rfl).mono
    ?_ fun _ h => h
  intro ref hRef
  exact hRef.2

/- The sink of a source can be read. -/
theorem sink_of_shape (hShape : shapeWith free more raw) :
    (sink raw).Succeeds fun _ => True := by
  refine spec_bind hShape ?_
  intro spec hSpec
  refine get_bind hSpec rfl ?_
  intro holder hHolder
  refine (ref_of_holder hHolder).lift.bind ?_
  intro ref hOptional
  rcases optional_iff.mp hOptional with rfl | hRef
  · trivial
  · rcases exists_members hRef with ⟨ms, rfl⟩
    have hVersion :
        optional text (Json.find "apiVersion" ms) :=
      optional_member hRef rfl
    have hKind : optional text (Json.find "kind" ms) :=
      optional_member hRef rfl
    have hName : optional text (Json.find "name" ms) :=
      optional_member hRef rfl
    dsimp only
    split
    case isFalse => trivial
    case isTrue hAll =>
      simp only [Bool.and_eq_true] at hAll
      rcases hAll with ⟨⟨hTrueVersion, hTrueKind⟩, hTrueName⟩
      rcases exists_text (of_truthy hVersion hTrueVersion)
        with ⟨apiVersion, hVersion⟩
      rcases exists_text (of_truthy hKind hTrueKind)
        with ⟨kind, hKind⟩
      rcases exists_text (of_truthy hName hTrueName)
        with ⟨name, hName⟩
      rw [hVersion, hKind, hName]
      refine Key.groupOfValue_bind apiVersion ?_
      intro group
      refine metadata_bind hShape ?_
      intro md hMetadata
      refine getText_bind hMetadata rfl ?_
      intro ns
      trivial

/- The subscriber of a subscription can be read. -/
theorem subscriber_of_shape
    (hSpec : specShape more s)
    (ns : String) :
    (subscriber s (.str ns)).Succeeds fun _ => True := by
  refine get_bind hSpec rfl ?_
  intro holder hHolder
  refine (ref_of_holder hHolder).lift.bind ?_
  intro ref hOptional
  split
  case isTrue => trivial
  case isFalse hFound =>
    have hTruthy : ref.truthy = true := by simpa using hFound
    have hRef := of_truthy hOptional hTruthy
    refine get_bind hRef rfl ?_
    intro name hName
    split
    case isTrue => trivial
    case isFalse hNamed =>
      refine get_bind hRef rfl ?_
      intro kind hKind
      split
      case isTrue => trivial
      case isFalse hOfKind =>
        rcases exists_text
            (of_truthy hName (by simpa using hNamed))
          with ⟨name, rfl⟩
        rcases exists_text
            (of_truthy hKind (by simpa using hOfKind))
          with ⟨kind, rfl⟩
        refine getText_bind hRef rfl ?_
        intro apiVersion
        refine get_bind hRef rfl ?_
        intro ownNs hOwnNs
        rcases exists_text_orElse hOwnNs ns
          with ⟨_, hBeside⟩
        rw [hBeside]
        trivial

end Resource

------------------------------------------------------------
-- Targets and Types
------------------------------------------------------------

namespace Resource

open Json.Shape

variable {more : Table Json.Shape}
variable {s : Json}

/- The key of a broker is a text. -/
theorem brokerTarget_of_shape
    (hSpec : specShape more s)
    (ns : String) :
    (brokerTarget s (.str ns)).Succeeds fun key =>
      optional text key := by
  refine (Json.Shape.get hSpec rfl).bind ?_
  intro v hName
  split
  case isTrue hTruthy =>
    rcases exists_text (of_truthy hName.2 hTruthy) with
      ⟨name, rfl⟩
    simp only [Json.text?_str]
    rfl
  case isFalse => rfl

/- The key of a channel is a text. -/
theorem channelTarget_of_shape
    (hSpec : specShape more s)
    (ns : String) :
    (channelTarget s (.str ns)).Succeeds fun key =>
      optional text key := by
  refine (Json.Shape.get hSpec rfl).bind ?_
  intro channel hChannel
  rcases hChannel with ⟨-, hOptional⟩
  have hChannel := object_orEmpty hOptional
  refine (Json.Shape.get hChannel rfl).bind ?_
  intro v hName
  split
  case isTrue => rfl
  case isFalse hNamed =>
    refine (Json.Shape.get hChannel rfl).bind ?_
    intro w hKind
    split
    case isTrue => rfl
    case isFalse hOfKind =>
      rcases exists_text
          (of_truthy hName.2 (by simpa using hNamed))
        with ⟨name, rfl⟩
      rcases exists_text
          (of_truthy hKind.2 (by simpa using hOfKind))
        with ⟨kind, rfl⟩
      refine (getText hChannel rfl).bind ?_
      intro v hText
      rcases hText with ⟨apiVersion, rfl⟩
      refine (Key.groupOfValue_of_text apiVersion).bind ?_
      intro v hText
      rcases hText with ⟨group, rfl⟩
      simp only [Json.text?_str]
      rfl

/- A filter by type is one by a text. -/
theorem typeFilter_of_shape (hSpec : specShape more s) :
    (typeFilter s).Succeeds fun type =>
      optional text type := by
  refine (Json.Shape.get hSpec rfl).bind ?_
  intro filter hFilter
  rcases hFilter with ⟨-, hFilter⟩
  refine (Json.Shape.get (object_orEmpty hFilter) rfl).bind ?_
  intro attributes hAttributes
  rcases hAttributes with ⟨-, hAttributes⟩
  have hObject := object_orEmpty hAttributes
  rcases exists_members hObject with ⟨ms, hMembers⟩
  rw [hMembers] at hObject ⊢
  change (if Table.has "type" ms then
    (.ok (Json.find "type" ms) : Except _ Json)
    else .ok .null).Succeeds _
  split
  · have hType :
        optional text ((Json.obj ms).member "type") :=
      optional_member hObject rfl
    exact hType
  · rfl

/- The type is a text, and so is a schema. -/
def TypeAndSchema.AreTexts (found : TypeAndSchema) : Prop :=
  (∃ type, found.type = .str type) ∧
    optional text found.schema

/- An attribute of the proper shape brings in texts. -/
theorem addAttribute_of_shape
    {found : TypeAndSchema}
    {a : Json}
    (hTexts : found.AreTexts)
    (hShape : attributeShape a) :
    (found.addAttribute a).Succeeds
      TypeAndSchema.AreTexts := by
  refine (get_any hShape "name").bind ?_
  intro name _
  split
  · refine (getText hShape rfl).bind ?_
    intro type hType
    exact ⟨hType, hTexts.2⟩
  · split
    · refine (Json.Shape.get hShape rfl).bind ?_
      intro v hValue
      have hWritten := Json.hasText_of_optional hValue.2
      refine ((textOrNull_ends v).mono (fun _ h => h)
        fun _ h => h.1 hWritten).bind ?_
      intro schema hSchema
      exact ⟨hTexts.1, hSchema⟩
    · exact hTexts

/- Only the schema beside the attributes may be too long. -/
theorem typeAndSchema_of_shape
    (hSpec : specShape eventTypeFields s) :
    (typeAndSchema s).Ends TypeAndSchema.AreTexts
      (fun e =>
        ¬ (s.member "schema").HasText ∧ e = .tooLong) := by
  refine (getText hSpec rfl).ends.bind ?_
  intro v hText
  rcases hText with ⟨type, rfl⟩
  refine (get_any hSpec "schema").ends.bind ?_
  rintro v rfl
  refine (textOrNull_ends _).bind ?_
  intro schema hSchema
  refine (Json.Shape.get hSpec rfl).ends.bind ?_
  intro attributes hAttributes
  rcases hAttributes with ⟨-, hOptional⟩
  refine (iterate_orElse hOptional).ends.bind ?_
  intro es hElements
  apply Except.ends_foldlM
  · intro found hTexts a hMem
    exact (addAttribute_of_shape hTexts
      (hElements a hMem)).ends
  · exact ⟨⟨type, rfl⟩, hSchema⟩

end Resource

------------------------------------------------------------
-- Entities
------------------------------------------------------------

namespace Conversion

open Resource Json.Shape

variable {free : List String}
variable {more : Table Json.Shape}
variable {raw : Json}
variable {c : Conversion}

/- A broker is read from every resource of its shape. -/
theorem broker_of_shape (hShape : shape [] raw) :
    (c.broker raw).Succeeds fun _ => True := by
  refine metadata_bind hShape ?_
  intro md hMetadata
  refine getText_bind hMetadata rfl ?_
  intro name
  refine getText_bind hMetadata rfl ?_
  intro ns
  refine getText_bind hMetadata rfl ?_
  intro uid
  refine (labels_of_shape hMetadata).lift.bind ?_
  intro labels hLabels
  refine (annotations_of_shape c hMetadata).lift.bind ?_
  intro annotations hAnnotations
  apply Failure.succeeds_ofChecked
  unfold Broker.check
  iterate 5 apply IsValid.seq
  apply IsValid.map
  exacts [⟨name, rfl⟩, ⟨ns, rfl⟩, ⟨uid, rfl⟩,
    hLabels rfl _, hAnnotations _, ⟨[], rfl⟩]

/-
  A subscribable is read as well, but with free labels it
  may turn out not to be valid.
-/
theorem subscribable_of_shape
    (coords : KindCoordinates)
    (hShape : shape free raw) :
    (c.subscribable coords raw).Ends (fun _ => True)
      fun f => free ≠ [] ∧ f.IsInvalid := by
  refine metadata_bind hShape ?_
  intro md hMetadata
  refine getText_bind hMetadata rfl ?_
  intro name
  refine getText_bind hMetadata rfl ?_
  intro ns
  refine getText_bind hMetadata rfl ?_
  intro uid
  refine get_bind hShape rfl ?_
  intro kind hKind
  rcases exists_text_orElse hKind coords.kind with
    ⟨own, hOwn⟩
  refine (labels_of_shape hMetadata).lift.bind ?_
  intro labels hLabels
  refine (annotations_of_shape c hMetadata).lift.bind ?_
  intro annotations hAnnotations
  apply Failure.ends_ofChecked
  intro hBound
  rw [hOwn]
  unfold Subscribable.check
  iterate 7 apply IsValid.seq
  apply IsValid.map
  exacts [⟨name, rfl⟩, ⟨ns, rfl⟩, ⟨uid, rfl⟩,
    ⟨coords.group, rfl⟩, ⟨own, rfl⟩, hLabels hBound _,
    hAnnotations _, ⟨[], rfl⟩]

/-
  An event type is read from every resource of its shape, if
  all that it says of itself can be written.
-/
theorem eventType_of_shape (hShape : eventTypeShape raw) :
    (c.eventType raw).Ends (fun _ => True)
      fun f => ¬ IsWritten raw ∧ f = .shape .tooLong := by
  refine metadata_bind hShape ?_
  intro md hMetadata
  refine (spec_of_shape hShape).lift.bind ?_
  rintro s ⟨hIs, hSpec⟩
  have hLong : ∀ name,
      name ∈ ["schema", "description", "schemaData"] →
      ∀ f : Failure, (∃ e, (¬ (s.member name).HasText ∧
          e = .tooLong) ∧ f = .shape e) →
        ¬ IsWritten raw ∧ f = .shape .tooLong := by
    rintro name hName f ⟨e, ⟨hNone, rfl⟩, rfl⟩
    refine ⟨fun hWritten => hNone ?_, rfl⟩
    rw [hIs, Json.member_orEmpty]
    exact hWritten name hName
  refine getText_bind hMetadata rfl ?_
  intro ns
  refine ((typeAndSchema_of_shape hSpec).lift.mono
    (fun _ h => h) (hLong "schema" (by simp))).bind ?_
  rintro ⟨_, schema⟩ ⟨⟨type, rfl⟩, hSchema⟩
  refine (provider_of_shape hSpec ns).ends.bind ?_
  intro reference _
  refine getText_bind hMetadata rfl ?_
  intro name
  refine getText_bind hMetadata rfl ?_
  intro uid
  refine (get_any hSpec "description").lift.bind ?_
  rintro v rfl
  refine ((textOrNull_ends _).lift.mono (fun _ h => h)
    (hLong "description" (by simp))).bind ?_
  intro description hDescription
  refine (get_any hSpec "schemaData").lift.bind ?_
  rintro v rfl
  refine ((textOrNull_ends _).lift.mono (fun _ h => h)
    (hLong "schemaData" (by simp))).bind ?_
  intro schemaData hSchemaData
  refine (labels_of_shape hMetadata).lift.bind ?_
  intro labels hLabels
  refine (annotations_of_shape c hMetadata).lift.bind ?_
  intro annotations hAnnotations
  refine Except.Succeeds.ends (Failure.succeeds_ofChecked ?_)
  have hType : Json.Shape.optional text (.str type) := rfl
  rcases exists_text_orElse hType "" with ⟨own, hOwn⟩
  rw [hOwn]
  unfold EventType.check
  iterate 10 apply IsValid.seq
  apply IsValid.map
  exacts [⟨name, rfl⟩, ⟨ns, rfl⟩, ⟨own, rfl⟩, ⟨uid, rfl⟩,
    Record.isValid_textOrNull _ hDescription,
    Record.isValid_textOrNull _ hSchemaData,
    Record.isValid_textOrNull _ hSchema,
    hLabels rfl _, hAnnotations _,
    isValid_draftReference _ reference, ⟨[], rfl⟩]

/- A source is read as a subscribable is. -/
theorem source_of_shape
    (coords : KindCoordinates)
    (declared : List String)
    (hShape : shape free raw) :
    (c.source coords (.ofTexts declared) raw).Ends
      (fun _ => True)
      fun f => free ≠ [] ∧ f.IsInvalid := by
  refine metadata_bind hShape ?_
  intro md hMetadata
  refine getText_bind hMetadata rfl ?_
  intro name
  refine getText_bind hMetadata rfl ?_
  intro ns
  refine getText_bind hMetadata rfl ?_
  intro uid
  refine get_bind hShape rfl ?_
  intro kind hKind
  rcases exists_text_orElse hKind coords.kind with
    ⟨own, hOwn⟩
  refine (labels_of_shape hMetadata).lift.bind ?_
  intro labels hLabels
  refine (annotations_of_shape c hMetadata).lift.bind ?_
  intro annotations hAnnotations
  refine (sink_of_shape hShape).ends.bind ?_
  intro sink _
  apply Failure.ends_ofChecked
  intro hBound
  rw [hOwn]
  unfold Source.check
  iterate 9 apply IsValid.seq
  apply IsValid.map
  exacts [⟨name, rfl⟩, ⟨ns, rfl⟩, ⟨uid, rfl⟩,
    ⟨coords.group, rfl⟩, ⟨own, rfl⟩, hLabels hBound _,
    hAnnotations _, Record.isValid_readTexts _ declared,
    ⟨[], rfl⟩, isValid_draftReference _ sink]

end Conversion

------------------------------------------------------------
-- Subscriptions
------------------------------------------------------------

namespace Conversion

open Resource Json.Shape

variable {raw : Json}

/- A trigger is read from every resource of its shape. -/
theorem trigger_of_shape (hShape : shape [] raw) :
    (trigger raw).Succeeds fun _ => True := by
  refine metadata_bind hShape ?_
  intro md hMetadata
  refine spec_bind hShape ?_
  intro s hSpec
  refine getText_bind hMetadata rfl ?_
  intro ns
  refine (brokerTarget_of_shape hSpec _).lift.bind ?_
  intro target hTarget
  refine (typeFilter_of_shape hSpec).lift.bind ?_
  intro filter hFilter
  refine getText_bind hMetadata rfl ?_
  intro name
  refine (subscriber_of_shape hSpec ns).ends.bind ?_
  intro subscriber _
  apply Failure.succeeds_ofChecked
  unfold Subscription.check
  iterate 5 apply IsValid.seq
  apply IsValid.map
  exacts [⟨name, rfl⟩, ⟨ns, rfl⟩, ⟨"Trigger", rfl⟩,
    Record.isValid_textOrNull _ hTarget,
    isValid_draftSubscriber _ subscriber,
    Record.isValid_textOrNull _ hFilter]

/- A channel subscription is read likewise. -/
theorem channelSubscription_of_shape (hShape : shape [] raw) :
    (channelSubscription raw).Succeeds fun _ => True := by
  refine metadata_bind hShape ?_
  intro md hMetadata
  refine spec_bind hShape ?_
  intro s hSpec
  refine getText_bind hMetadata rfl ?_
  intro ns
  refine (channelTarget_of_shape hSpec _).lift.bind ?_
  intro target hTarget
  refine getText_bind hMetadata rfl ?_
  intro name
  refine (subscriber_of_shape hSpec ns).ends.bind ?_
  intro subscriber _
  apply Failure.succeeds_ofChecked
  unfold Subscription.check
  iterate 5 apply IsValid.seq
  apply IsValid.map
  exacts [⟨name, rfl⟩, ⟨ns, rfl⟩, ⟨"Subscription", rfl⟩,
    Record.isValid_textOrNull _ hTarget,
    isValid_draftSubscriber _ subscriber, ⟨none, rfl⟩]

end Conversion

end EventTopology
