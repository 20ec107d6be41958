import EventTopology.Proofs.Build.Findings
import EventTopology.Proofs.Resource.Totality
import EventTopology.Resource.Definition

/-
  This file says when a schema definition can be resolved:
  it has a group, a plural name and a version.  Definitions
  of the proper shape give coordinates just then.

  Key definitions include:
    * `Definition.resolvable`
    * `Failure.IsDocumented`

  The main results are:
    * `Definition.coordinates_of_shape`
    * `Definition.mapM_of_shape`
-/

------------------------------------------------------------
-- Resolvable Definitions
------------------------------------------------------------

namespace EventTopology

namespace Definition

/- Is a version served, and does it have a name? -/
def isServed (version : Json) : Bool :=
  match version.member "served" with
  | .bool true => (version.member "name").truthy
  | _ => false

/-
  Does a spec have a version?  One of those that it lists is
  served, or it lists none and has a single version.
-/
def hasVersion (spec : Json) : Bool :=
  match spec.member "versions" with
  | .arr (v :: vs) => (v :: vs).any isServed
  | _ => (spec.member "version").truthy

/- Does a definition say where its kind is listed? -/
def resolvable (raw : Json) : Bool :=
  (raw.dig ["spec", "group"]).truthy &&
    (raw.dig ["spec", "names", "plural"]).truthy &&
    hasVersion (raw.member "spec")

end Definition

/- The classes of failures that end a build as documented. -/
def Failure.IsDocumented (f : Failure) : Prop :=
  f.typeName ∈
    ["ListingError", "DiscoveryError", "NotServedError"]

------------------------------------------------------------
-- Versions
------------------------------------------------------------

namespace Definition

open Json.Shape Resource

variable {more : Table Json.Shape}
variable {raw spec : Json}

/- The name of a version that is served is what is found. -/
theorem servedName?_eq (version : Json) :
    servedName? version =
      if isServed version then some (version.member "name")
      else none := by
  cases version with
  | obj ms =>
      cases hServed : Json.find "served" ms with
      | bool b =>
          cases b <;>
            simp [servedName?, isServed, Json.member,
              hServed]
      | _ =>
          simp [servedName?, isServed, Json.member, hServed]
  | _ => rfl

/- A version that is served has a name. -/
theorem truthy_of_isServed
    {version : Json}
    (hServed : isServed version = true) :
    (version.member "name").truthy = true := by
  unfold isServed at hServed
  split at hServed
  · exact hServed
  · cases hServed

/- The name that is found is that of a served version. -/
theorem exists_served
    {versions : List Json}
    {name : Json}
    (hSome : versions.findSome? servedName? = some name) :
    ∃ version ∈ versions, isServed version = true ∧
      name = version.member "name" := by
  rcases List.exists_of_findSome?_eq_some hSome with
    ⟨version, hMem, hName⟩
  rw [servedName?_eq, Option.ite_none_right_eq_some] at hName
  rcases hName with ⟨hServed, hName⟩
  exact ⟨version, hMem, hServed, (Option.some.inj hName).symm⟩

/- Where no name is found, no version is served. -/
theorem none_served
    {versions : List Json}
    (hNone : versions.findSome? servedName? = none) :
    versions.any isServed = false := by
  refine List.any_eq_false.mpr ?_
  intro version hMem hServed
  have hName :=
    List.findSome?_eq_none_iff.mp hNone version hMem
  rw [servedName?_eq, if_pos hServed] at hName
  cases hName

/- A definition that is named by a text is reported on. -/
@[simp]
theorem report_of_text
    {α : Type}
    (definition : String)
    (f : Failure) :
    (report (.str definition) f : Except Failure α) =
      .error f := by
  rw [report, Json.text?_str]
  rfl

/- The only version of an older definition is a text. -/
theorem singleVersion_of_shape
    (definition : String)
    (hSpec : specShape more spec)
    (hSingle :
      hasVersion spec = (spec.member "version").truthy) :
    (do
      let version ← spec.get "version"
      if version.truthy then return version
      else
        report (.str definition)
          (.missingPart .version (.str definition)) :
        Except Failure Json).Ends
      (fun version =>
        hasVersion spec = true ∧ ∃ s, version = .str s)
      (fun f =>
        hasVersion spec = false ∧ f.IsDocumented) := by
  refine (Json.Shape.get hSpec rfl).lift.bind ?_
  intro version hVersion
  rcases hVersion with ⟨hIs, hOptional⟩
  rw [← hIs] at hSingle
  split
  case isTrue hTruthy =>
    exact ⟨hSingle.trans hTruthy,
      exists_text (of_truthy hOptional hTruthy)⟩
  case isFalse hFalse =>
    rw [report_of_text]
    refine ⟨hSingle.trans (by simpa using hFalse), ?_⟩
    simp [Failure.IsDocumented, Failure.typeName]

/- A version is found just where there is one. -/
theorem servedVersion_of_shape
    (definition : String)
    (hSpec : specShape more spec) :
    (servedVersion (.str definition) spec).Ends
      (fun version =>
        hasVersion spec = true ∧ ∃ s, version = .str s)
      (fun f =>
        hasVersion spec = false ∧ f.IsDocumented) := by
  refine (Json.Shape.get hSpec rfl).lift.bind ?_
  intro versions hVersions
  rcases hVersions with ⟨hIs, hOptional⟩
  rcases optional_iff.mp hOptional with rfl | hArray
  · refine singleVersion_of_shape definition hSpec ?_
    unfold hasVersion
    rw [← hIs]
  · rcases exists_elements hArray with ⟨es, rfl, hElements⟩
    cases es with
    | nil =>
        refine singleVersion_of_shape definition hSpec ?_
        unfold hasVersion
        rw [← hIs]
    | cons v vs =>
        have hListed :
            hasVersion spec = (v :: vs).any isServed := by
          unfold hasVersion
          rw [← hIs]
        rw [hListed]
        refine Except.Ends.bind (P := fun es => es = v :: vs)
          rfl ?_
        intro es hSame
        subst hSame
        split
        · rename_i name hSome
          rcases exists_served hSome with
            ⟨version, hMem, hServed, rfl⟩
          have hText :
              optional text (version.member "name") :=
            optional_member (hElements version hMem) rfl
          have hName :=
            of_truthy hText (truthy_of_isServed hServed)
          exact ⟨List.any_eq_true.mpr
            ⟨version, hMem, hServed⟩, exists_text hName⟩
        · rename_i hNone
          rw [report_of_text]
          refine ⟨none_served hNone, ?_⟩
          simp [Failure.IsDocumented, Failure.typeName]

end Definition

------------------------------------------------------------
-- Coordinates
------------------------------------------------------------

namespace Definition

open Json.Shape Resource

variable {raw : Json}

/- Coordinates are read from texts. -/
theorem isValid_coordinates
    {annotations : Json}
    (definition group version plural kind : String)
    (hTexts : texts [] annotations) :
    (KindCoordinates.check []
      [("definition", .value (.str definition)),
       ("group", .value (.str group)),
       ("version", .value (.str version)),
       ("resource", .value (.str plural)),
       ("kind", .value (.str kind)),
       ("annotations", .value annotations)]).IsValid := by
  unfold KindCoordinates.check
  iterate 5 apply Record.Checked.IsValid.seq
  apply Record.Checked.IsValid.map
  exacts [⟨definition, rfl⟩, ⟨group, rfl⟩, ⟨version, rfl⟩,
    ⟨plural, rfl⟩, ⟨kind, rfl⟩,
    Record.isValid_readMap _ hTexts]

/-
  A definition of the proper shape gives coordinates just
  when it is resolvable.
-/
theorem coordinates_of_shape (hShape : shape [] raw) :
    (coordinates raw).Ends
      (fun _ => resolvable raw = true)
      (fun f => resolvable raw = false ∧ f.IsDocumented) := by
  refine metadata_bind hShape ?_
  intro md hMetadata
  refine (spec_of_shape hShape).lift.bind ?_
  intro spec hSpec
  rcases hSpec with ⟨hIs, hSpec⟩
  refine getText_bind hMetadata rfl ?_
  intro definition
  have hResolvable :
      resolvable raw =
        ((spec.member "group").truthy &&
          ((spec.member "names").member "plural").truthy &&
          hasVersion spec) := by
    simp [resolvable, hasVersion, Json.dig, hIs]
  rw [hResolvable]
  refine (Json.Shape.get hSpec rfl).lift.bind ?_
  intro group hGroup
  rcases hGroup with ⟨rfl, hGroup⟩
  split
  case isTrue hNot =>
    rw [report_of_text]
    refine ⟨by simp_all, ?_⟩
    simp [Failure.IsDocumented, Failure.typeName]
  case isFalse hHasGroup =>
    have hTrueGroup :
        (spec.member "group").truthy = true := by
      simpa using hHasGroup
    refine (Json.Shape.get hSpec rfl).lift.bind ?_
    intro names hNames
    rcases hNames with ⟨rfl, hOptional⟩
    have hNames := object_orEmpty hOptional
    refine (Json.Shape.get hNames rfl).lift.bind ?_
    intro plural hPlural
    rcases hPlural with ⟨hIsPlural, hPlural⟩
    rw [Json.member_orEmpty] at hIsPlural
    rw [← hIsPlural]
    split
    case isTrue hNot =>
      rw [report_of_text]
      refine ⟨by simp_all, ?_⟩
      simp [Failure.IsDocumented, Failure.typeName]
    case isFalse hHasPlural =>
      have hTruePlural : plural.truthy = true := by
        simpa using hHasPlural
      rw [hTrueGroup, hTruePlural, Bool.true_and,
        Bool.true_and]
      rcases exists_text (of_truthy hGroup hTrueGroup) with
        ⟨group, hGroup⟩
      rcases exists_text (of_truthy hPlural hTruePlural) with
        ⟨plural, rfl⟩
      refine (servedVersion_of_shape _ hSpec).bind ?_
      intro v hVersion
      rcases hVersion with ⟨hHasVersion, version, rfl⟩
      refine getText_bind hNames rfl ?_
      intro kind
      refine get_bind hMetadata rfl ?_
      intro annotations hAnnotations
      rw [hGroup]
      have hValid := isValid_coordinates definition group
        version plural kind (texts_orEmpty hAnnotations)
      exact (Failure.succeeds_ofChecked hValid).mono
        (fun _ _ => hHasVersion) fun _ hNone => hNone.elim

/-
  A list of definitions gives the coordinates of each, or
  one of them cannot be resolved.
-/
theorem mapM_of_shape
    {raws : List Json}
    (hShapes : ∀ raw ∈ raws, shape [] raw) :
    (raws.mapM coordinates).Ends
      (fun kinds =>
        (∀ raw ∈ raws, resolvable raw = true) ∧
        ∀ coords, coords ∈ kinds ↔
          ∃ raw ∈ raws, coordinates raw = .ok coords)
      (fun f =>
        (∃ raw ∈ raws, resolvable raw = false) ∧
          f.IsDocumented) := by
  have hEach : ∀ raw ∈ raws, (coordinates raw).Ends
      (fun coords => coordinates raw = .ok coords ∧
        resolvable raw = true)
      (fun f => (∃ raw ∈ raws, resolvable raw = false) ∧
        f.IsDocumented) := by
    intro raw hMem
    have hOne := coordinates_of_shape (hShapes raw hMem)
    refine hOne.self.mono (fun _ h => h) ?_
    intro f hFault
    exact ⟨⟨raw, hMem, hFault.1⟩, hFault.2⟩
  refine (Except.ends_mapM hEach).mono ?_ fun _ h => h
  intro kinds hAll
  have hPartner : ∀ raw ∈ raws, ∃ coords ∈ kinds,
      coordinates raw = .ok coords ∧
        resolvable raw = true := fun raw hMem =>
    hAll.flip.exists_left_of_mem hMem
  refine ⟨?_, ?_⟩
  · intro raw hMem
    rcases hPartner raw hMem with ⟨_, _, _, hResolvable⟩
    exact hResolvable
  · intro coords
    constructor
    · intro hKind
      rcases hAll.exists_left_of_mem hKind with
        ⟨raw, hMem, hCoords, _⟩
      exact ⟨raw, hMem, hCoords⟩
    · intro hDefined
      rcases hDefined with ⟨raw, hMem, hCoords⟩
      rcases hPartner raw hMem with
        ⟨coords', hKind, hCoords', _⟩
      rw [hCoords] at hCoords'
      cases hCoords'
      exact hKind

end Definition

end EventTopology
