import EventTopology.Cluster.Store
import EventTopology.Proofs.Build.Ending
import EventTopology.Proofs.Resource.Resolving
import EventTopology.Proofs.Text

/-
  This file is about stores that are well typed: their
  resources have the shapes of their buckets.  Such a store
  answers every request with a listing or a value, or with
  an error that it was made to give.

  Key definitions include:
    * `Resource.groupIn`
    * `ObjectReference.names`
    * `Store.WellTyped`
    * `Store.Written`
    * `Store.refuses`
    * `Store.announced`
    * `Store.Discovers`

  The main results are:
    * `Store.steady_cluster`
    * `Store.list_of_listing`
    * `Store.kinds_of_wellTyped`
    * `Store.findNamed_of_shape`
    * `Store.identity_of_wellTyped`
-/

------------------------------------------------------------
-- Well-Typed Stores
------------------------------------------------------------

namespace EventTopology

namespace Store

/-
  The shape of the resources in a bucket.  On instances the
  labels with some names are free.
-/
def Bucket.shape (free : List String) : Bucket → Json.Shape
| .eventTypes => Resource.eventTypeShape
| .objects => Resource.shape free
| _ => Resource.shape []

/- All resources have the shapes of their buckets. -/
def WellTyped (s : Store) (free : List String) : Prop :=
  ∀ b : Bucket, ∀ raw ∈ s.contents b, b.shape free raw

/- What event types say of themselves can be written. -/
def Written (s : Store) : Prop :=
  ∀ raw ∈ s.eventTypes, Resource.IsWritten raw

instance (s : Store) : Decidable s.Written :=
  inferInstanceAs (Decidable (∀ raw ∈ s.eventTypes, _))

end Store

------------------------------------------------------------
-- Buckets of Resources
------------------------------------------------------------

namespace Json

/- A character is sought in a text. -/
theorem occursIn_singleton
    {c : Char}
    {cs : List Char} :
    occursIn [c] cs = true ↔ c ∈ cs := by
  induction cs with
  | nil => simp [occursIn]
  | cons d cs ih => simp [occursIn, ih]

end Json

namespace Key

/- The group of a text is what stands before a slash. -/
theorem resourceGroupOfValue_of_text (s : String) :
    resourceGroupOfValue (.str s) =
      .ok (resourceGroupOf s) := by
  have hSlash :
      Json.occursIn "/".toList s.toList = true ↔
        '/' ∈ s.toList := Json.occursIn_singleton
  simp only [resourceGroupOfValue, Json.contains]
  cases hOccurs : Json.occursIn "/".toList s.toList with
  | true =>
      rw [hOccurs, eq_self, true_iff] at hSlash
      unfold resourceGroupOf groupOf
      cases hSplit : Text.splitOnce '/' s with
      | none =>
          exact (Text.splitOnce_eq_none_iff.mp hSplit
            hSlash).elim
      | some parts => rfl
  | false =>
      have hNone : Text.splitOnce '/' s = none := by
        rw [Text.splitOnce_eq_none_iff, ← hSlash, hOccurs]
        exact Bool.false_ne_true
      unfold resourceGroupOf
      rw [hNone]
      rfl

end Key

namespace Resource

/- The group of a resource, by its version. -/
def groupIn (raw : Json) : String :=
  match raw.member "apiVersion" with
  | .str version => Key.resourceGroupOf version
  | _ => ""

end Resource

namespace Store

open Json.Shape Resource

variable {free : List String}
variable {more : Table Json.Shape}
variable {raw : Json}

theorem groupOf_of_shape (hShape : shapeWith free more raw) :
    (groupOf raw).Succeeds fun group =>
      group = groupIn raw := by
  rcases exists_members hShape with ⟨ms, rfl⟩
  change ((Key.resourceGroupOfValue
    ((Table.lookup "apiVersion" ms).getD
      (.str ""))).Succeeds fun group => group =
        match (Table.lookup "apiVersion" ms).getD .null with
        | .str version => Key.resourceGroupOf version
        | _ => "")
  cases hVersion : Table.lookup "apiVersion" ms with
  | none => rfl
  | some v =>
      rcases exists_text (of_lookup hShape rfl hVersion)
        with ⟨version, rfl⟩
      rw [Option.getD_some,
        Key.resourceGroupOfValue_of_text]
      rfl

/- A resource of the proper shape belongs to a bucket. -/
theorem bucketOf_of_shape
    (hShape : shapeWith free more raw) :
    (bucketOf raw).Succeeds fun b =>
      b = bucketFor (groupIn raw) (raw.member "kind") := by
  refine (groupOf_of_shape hShape).bind ?_
  rintro group rfl
  refine (get_any hShape "kind").bind ?_
  rintro kind rfl
  rfl

end Store

------------------------------------------------------------
-- Selecting Resources
------------------------------------------------------------

namespace Selector

/- Labels that are an object can be selected by. -/
theorem selects_of_object
    (selector : String)
    (ms : Json.Members) :
    (selects selector (.obj ms)).Succeeds
      fun _ => True := by
  unfold selects
  induction parse selector with
  | nil => trivial
  | cons r rs ih =>
      have hHolds :
          (r.holds (.obj ms)).Succeeds fun _ => True := by
        cases r <;> trivial
      refine hHolds.bind ?_
      intro b _
      cases b with
      | true => exact ih
      | false => trivial

end Selector

namespace Store

open Json.Shape Resource

variable {free : List String}
variable {more : Table Json.Shape}
variable {raw : Json}

theorem tagged_of_shape
    (tag : String)
    (hShape : shapeWith free more raw) :
    (tagged tag raw).Succeeds fun _ => True := by
  refine (labelsOf_of_shape hShape).bind ?_
  intro labels hLabels
  rcases hLabels with ⟨-, ms, rfl⟩
  exact Selector.selects_of_object tag ms

theorem isOfKind_of_shape
    (group kind : String)
    (hShape : shapeWith free more raw) :
    (isOfKind group kind raw).Succeeds fun b =>
      b = (groupIn raw = group &&
        (raw.member "kind").isText kind) := by
  refine (groupOf_of_shape hShape).bind ?_
  rintro own rfl
  refine (get_any hShape "kind").bind ?_
  rintro ownKind rfl
  rfl

end Store

------------------------------------------------------------
-- Replies of Stores
------------------------------------------------------------

namespace Store

/- What a store replies to each request. -/
def replies (s : Store) : Replies :=
  fun r => (s.answer r).1

/- A store is not changed by being asked. -/
theorem after_cluster (s : Store) (rs : List Request) :
    cluster.after s rs = s := by
  induction rs with
  | nil => rfl
  | cons r rs ih => exact ih

theorem steady_cluster (s : Store) :
    cluster.Steady s s.replies := by
  intro rs r
  rw [after_cluster]
  rfl

/- Does a listing fail, other than by not being found? -/
def refuses (s : Store) (name : String) : Bool :=
  match Table.lookup name s.listingErrors with
  | some (.failed _ _) => true
  | _ => false

/- The definitions with a tag, as far as they are listed. -/
def announced (s : Store) (tag : String) : List Json :=
  match Table.lookup "definitions" s.listingErrors with
  | some _ => []
  | none =>
      s.definitions.filter fun raw => (tagged tag raw).holds

/- A kind is defined under a tag. -/
def Discovers
    (s : Store)
    (tag : String)
    (coords : KindCoordinates) : Prop :=
  ∃ raw ∈ s.announced tag,
    Definition.coordinates raw = .ok coords

/- The instances of a kind. -/
def instances
    (s : Store)
    (coords : KindCoordinates) : List Json :=
  s.objects.filter fun raw =>
    (isOfKind coords.group coords.kind raw).holds

variable {s : Store} {free : List String}

/- A listing gives what is found, or it is refused. -/
theorem list_of_listing
    {name : String}
    {r : Request}
    {found : List Json}
    (told : String)
    (hReply : s.replies r = s.listing name found) :
    (s.replies.list told r).Ends
      (fun raws =>
        s.refuses name = false ∧ ∀ raw ∈ raws, raw ∈ found)
      (fun f =>
        s.refuses name = true ∧ f.IsDocumented) := by
  unfold Replies.list refuses
  rw [hReply]
  unfold listing
  cases Table.lookup name s.listingErrors with
  | none => exact ⟨rfl, fun _ hMem => hMem⟩
  | some e =>
      cases e with
      | notFound m => exact ⟨rfl, by simp⟩
      | failed m status =>
          refine ⟨rfl, ?_⟩
          simp [Failure.IsDocumented, Failure.typeName]

theorem replies_instances
    (hTyped : s.WellTyped free)
    (coords : KindCoordinates) :
    s.replies (.instances coords) =
      s.listing coords.resource (s.instances coords) := by
  have hEach : ∀ raw ∈ s.objects,
      (isOfKind coords.group coords.kind raw).Succeeds
        fun _ => True := by
    intro raw hMem
    exact (isOfKind_of_shape _ _
      (hTyped .objects raw hMem)).mono
        (fun _ _ => trivial) fun _ h => h
  change s.listInstances coords = _
  unfold listInstances
  rw [Except.filterM_eq hEach]
  rfl

theorem replies_definitions
    (hTyped : s.WellTyped free)
    (tag : String) :
    s.replies (.definitions tag) =
      s.listing "definitions" (s.definitions.filter
        fun raw => (tagged tag raw).holds) := by
  have hEach : ∀ raw ∈ s.definitions,
      (tagged tag raw).Succeeds fun _ => True := by
    intro raw hMem
    exact tagged_of_shape tag
      (hTyped .definitions raw hMem)
  change s.listDefinitions tag = _
  unfold listDefinitions
  rw [Except.filterM_eq hEach]
  rfl

/-
  Discovery gives the coordinates of the definitions that
  are announced, unless one of them cannot be resolved.
-/
theorem kinds_of_wellTyped
    (hTyped : s.WellTyped free)
    (tag : String) :
    (s.replies.kinds tag).Ends
      (fun kinds =>
        s.refuses "definitions" = false ∧
        (∀ raw ∈ s.announced tag,
          Definition.resolvable raw = true) ∧
        ∀ coords, coords ∈ kinds ↔
          s.Discovers tag coords)
      (fun f =>
        (s.refuses "definitions" = true ∨
          ∃ raw ∈ s.announced tag,
            Definition.resolvable raw = false) ∧
        f.IsDocumented) := by
  unfold Replies.kinds Discovers
  rw [replies_definitions hTyped tag]
  unfold listing refuses announced
  cases Table.lookup "definitions" s.listingErrors with
  | some e =>
      cases e with
      | notFound m => exact ⟨rfl, by simp⟩
      | failed m status =>
          refine ⟨Or.inl rfl, ?_⟩
          simp [Failure.IsDocumented, Failure.typeName]
  | none =>
      refine (Definition.mapM_of_shape ?_).mono ?_ ?_
      · intro raw hMem
        exact hTyped .definitions raw
          (List.mem_filter.mp hMem).1
      · intro kinds hKinds
        exact ⟨rfl, hKinds⟩
      · intro f hFault
        exact ⟨Or.inr hFault.1, hFault.2⟩

end Store

------------------------------------------------------------
-- Lookups in Stores
------------------------------------------------------------

namespace ObjectReference

/- Does a reference name a resource, by all its parts? -/
def names (ref : ObjectReference) (raw : Json) : Bool :=
  Resource.groupIn raw = ref.group &&
  (raw.member "kind").isText ref.kind &&
  (raw.dig ["metadata", "namespace"]).isText ref.ns &&
  (raw.dig ["metadata", "name"]).isText ref.name

end ObjectReference

namespace Store

open Json.Shape Resource

variable {s : Store} {free : List String}
variable {raw : Json}

/- A test of all four parts is the test of a reference. -/
theorem isNamedBy_of_shape
    {more : Table Json.Shape}
    (ref : ObjectReference)
    (hShape : shapeWith free more raw) :
    (isNamedBy ref raw).Succeeds fun b =>
      b = ref.names raw := by
  refine (metadata_of_shape hShape).bind ?_
  rintro md ⟨rfl, hMetadata⟩
  refine (isOfKind_of_shape _ _ hShape).bind ?_
  intro b hKind
  unfold ObjectReference.names
  rw [← hKind]
  cases b with
  | false => rfl
  | true =>
      refine (get_any hMetadata "namespace").bind ?_
      rintro ns rfl
      rw [Json.member_orEmpty]
      simp only [Json.dig, Bool.true_and]
      cases Json.isText _ ref.ns with
      | false => rfl
      | true =>
          refine (get_any hMetadata "name").bind ?_
          rintro name rfl
          rw [Json.member_orEmpty]
          rfl

/- What is found is the first resource that is named. -/
theorem findNamed_of_shape
    (ref : ObjectReference)
    {raws : List Json}
    (hShapes : ∀ raw ∈ raws, Resource.shape free raw) :
    (findNamed ref raws).Succeeds fun found =>
      found = raws.find? ref.names := by
  induction raws with
  | nil => rfl
  | cons raw raws ih =>
      refine (isNamedBy_of_shape ref
        (hShapes raw List.mem_cons_self)).bind ?_
      intro b hNames
      have hRest := ih fun raw' hMem =>
        hShapes raw' (List.mem_cons_of_mem raw hMem)
      rw [List.find?_cons, ← hNames]
      cases b with
      | true => rfl
      | false => exact hRest

/- A label that is looked up is what stands under it. -/
theorem getLabel_of_shape
    (label : String)
    (hShape : Resource.shape free raw) :
    (do (← labelsOf raw).get label :
      Except Json.ShapeFault Json).Succeeds fun v =>
        v = raw.dig ["metadata", "labels", label] := by
  refine (labelsOf_of_shape hShape).bind ?_
  intro labels hLabels
  rcases hLabels with ⟨hIs, ms, rfl⟩
  change Json.member label (.obj ms) = _
  rw [hIs, Json.member_orEmpty]
  rfl

/-
  The lookup of an identity gives null or what an instance
  has under the label, or the error it was made to give.
-/
theorem identity_of_wellTyped
    (hTyped : s.WellTyped free)
    (ref : ObjectReference)
    (label : String) :
    (s.replies (.identity ref label)).Ends
      (fun v => v = .null ∨ ∃ raw ∈ s.objects,
        v = raw.dig ["metadata", "labels", label])
      (fun f => ∃ e, f = .cluster e) := by
  change (s.resolveIdentity ref label).1.Ends _ _
  unfold resolveIdentity
  cases Table.lookup ref.key s.lookupErrors with
  | some e => exact ⟨e, rfl⟩
  | none =>
      have hFind := findNamed_of_shape ref fun raw hMem =>
        hTyped .objects raw hMem
      rcases hFind.exists_ok with ⟨found, hFound, hFirst⟩
      change findNamed ref s.objects = .ok found at hFound
      dsimp only
      rw [hFound]
      cases found with
      | none => exact Or.inl rfl
      | some raw =>
          have hMem : raw ∈ s.objects :=
            List.mem_of_find?_eq_some hFirst.symm
          have hLabel :=
            getLabel_of_shape label (hTyped .objects raw hMem)
          refine hLabel.ofShape.mono ?_ fun _ h => h
          intro v hIs
          exact Or.inr ⟨raw, hMem, hIs⟩

end Store

end EventTopology
