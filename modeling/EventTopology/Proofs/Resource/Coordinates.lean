import EventTopology.Proofs.Mesh.Reading
import EventTopology.Proofs.Resource.Resolving

/-
  This file shows how a schema definition is resolved, be it
  to coordinates or to a failure.  What counts is the
  definition's outline: a few texts, its annotations, and
  those versions in its list that are served.

  Key definitions include:
    * `Definition.outlineShape`
    * `Definition.Outline`
    * `Definition.Outline.resolve`
    * `Definition.Resolves`

  The main results are:
    * `Definition.coordinates_eq_resolve`
    * `Definition.Outline.chosen_eq_of_head`
    * `Definition.resolves_of_shape`
-/

------------------------------------------------------------
-- Texts under Paths
------------------------------------------------------------

namespace EventTopology

namespace Json

/- The text under a path; empty where there is none. -/
def textAt (path : List String) (v : Json) : String :=
  match v.dig path with
  | .str s => s
  | _ => ""

/- The elements under a path; none without an array. -/
def elementsAt (path : List String) (v : Json) : List Json :=
  match v.dig path with
  | .arr es => es
  | _ => []

namespace Shape

variable {fields : Table Shape}
variable {v : Json}
variable {name : String}

/- A text is false just when it is empty. -/
theorem truthy_eq (hOptional : optional text v) :
    v.truthy = decide (v.textAt [] ≠ "") := by
  rcases optional_iff.mp hOptional with rfl | hText
  · simp [truthy, textAt, dig]
  · rcases exists_text hText with ⟨s, rfl⟩
    rfl

theorem eq_text_of_truthy
    (hOptional : optional text v)
    (hTruthy : v.truthy = true) :
    v = .str (v.textAt []) := by
  rcases exists_text (of_truthy hOptional hTruthy) with
    ⟨s, rfl⟩
  rfl

/- A text that is asked for is the one that stands there. -/
theorem getText_eq
    (hObject : object fields v)
    (hField : Table.lookup name fields = some text) :
    (v.getText name).Succeeds fun w =>
      w = .str (v.textAt [name]) := by
  rcases exists_members hObject with ⟨ms, rfl⟩
  change (Table.lookup name ms).getD (.str "") =
    .str ((Json.obj ms).textAt [name])
  unfold textAt
  change _ = Json.str
    (match (Table.lookup name ms).getD .null with
    | .str s => s
    | _ => "")
  cases hMember : Table.lookup name ms with
  | none => rfl
  | some w =>
      rcases exists_text (of_lookup hObject hField hMember)
        with ⟨s, rfl⟩
      rfl

end Shape

end Json

------------------------------------------------------------
-- Outlines of Definitions
------------------------------------------------------------

namespace Definition

open Json.Shape

/-
  The shape of one of the listed versions: it may be any
  value, but an object names itself by a text, if at all.
-/
def versionShape : Json.Shape
| .obj ms => object [("name", text)] (.obj ms)
| _ => true

/- The shape of a definition, with any list of versions. -/
def outlineShape : Json.Shape :=
  object
    [("metadata",
      object [("name", text), ("annotations", texts [])]),
     ("spec",
      object
        [("group", text), ("version", text),
         ("names",
          object [("plural", text), ("kind", text)]),
         ("versions", array versionShape)])]

/- What of a definition can matter to its coordinates. -/
structure Outline where
  name : String
  group : String
  plural : String
  kind : String
  annotations : Labels
  /- The only version of an older definition. -/
  version : String
  versions : List Json

/- The outline of a definition. -/
def outline (raw : Json) : Outline where
  name := raw.textAt ["metadata", "name"]
  group := raw.textAt ["spec", "group"]
  plural := raw.textAt ["spec", "names", "plural"]
  kind := raw.textAt ["spec", "names", "kind"]
  annotations :=
    (raw.dig ["metadata", "annotations"]).textMembers
  version := raw.textAt ["spec", "version"]
  versions := raw.elementsAt ["spec", "versions"]

namespace Outline

/- The coordinates with a version. -/
def coordinates
    (o : Outline)
    (version : String) : KindCoordinates where
  definition := o.name
  group := o.group
  version := version
  resource := o.plural
  kind := o.kind
  annotations := o.annotations

/- The version: the first that is served, or the only one. -/
def chosen (o : Outline) : Except Failure String :=
  match o.versions with
  | [] =>
      if o.version = "" then
        .error (.missingPart .version (.str o.name))
      else .ok o.version
  | versions =>
      match versions.find? isServed with
      | none => .error (.notServed (.str o.name))
      | some version => .ok (version.textAt ["name"])

/- What an outline is resolved to. -/
def resolve (o : Outline) : Except Failure KindCoordinates :=
  if o.group = "" then
    .error (.missingPart .group (.str o.name))
  else if o.plural = "" then
    .error (.missingPart .plural (.str o.name))
  else o.chosen.map o.coordinates

end Outline

end Definition

------------------------------------------------------------
-- Resolving Outlines
------------------------------------------------------------

namespace Except

variable {ε α : Type}

/- An outcome that ends like another one is that one. -/
theorem eq_of_ends
    {o p : Except ε α}
    (hEnds : o.Ends (fun a => p = .ok a)
      (fun e => p = .error e)) :
    o = p := by
  cases o with
  | ok a => exact hEnds.symm
  | error e => exact hEnds.symm

end Except

namespace Definition

open Json.Shape Resource Record Record.Checked

variable {raw spec : Json}

/- The shape of a spec in an outline. -/
def outlineSpecShape : Json.Shape :=
  object
    [("group", text), ("version", text),
     ("names", object [("plural", text), ("kind", text)]),
     ("versions", array versionShape)]

/- The first name that is found is that of the first served. -/
theorem findSome?_servedName
    {versions : List Json}
    (hEach : ∀ v ∈ versions, versionShape v) :
    versions.findSome? servedName? =
      (versions.find? isServed).map fun v =>
        .str (v.textAt ["name"]) := by
  induction versions with
  | nil => rfl
  | cons v versions ih =>
      rw [List.forall_mem_cons] at hEach
      rw [List.findSome?_cons, List.find?_cons,
        servedName?_eq]
      cases hServed : isServed v with
      | false => exact ih hEach.2
      | true =>
          have hName : v.member "name" =
              .str (v.textAt ["name"]) := by
            cases v with
            | obj ms =>
                have hShape :
                    object [("name", text)] (.obj ms) :=
                  hEach.1
                exact eq_text_of_truthy
                  (optional_member hShape rfl)
                  (truthy_of_isServed hServed)
            | _ => cases hServed
          simp [hName]

/- An outline with a list chooses the first one served. -/
theorem Outline.chosen_of_ne_nil
    {o : Outline}
    (hNe : o.versions ≠ []) :
    o.chosen =
      match o.versions.find? isServed with
      | none => .error (.notServed (.str o.name))
      | some version => .ok (version.textAt ["name"]) := by
  unfold chosen
  split
  · rename_i hNil
    exact (hNe hNil).elim
  · rfl

/- Without a list, the only version is chosen. -/
theorem Outline.chosen_of_nil
    {o : Outline}
    (hNil : o.versions = []) :
    o.chosen =
      if o.version = "" then
        .error (.missingPart .version (.str o.name))
      else .ok o.version := by
  unfold chosen
  rw [hNil]

/- The only version is taken where there is no list. -/
theorem onlyVersion_of_outline
    {o : Outline}
    (hSpec : outlineSpecShape spec)
    (hOnly : o.version = spec.textAt ["version"])
    (hNil : o.versions = []) :
    (do
      let version ← spec.get "version"
      if version.truthy then return version
      else throw (.missingPart .version (.str o.name)) :
        Except Failure Json).Ends
      (fun v => ∃ version, v = .str version ∧
        o.chosen = .ok version)
      (fun f => o.chosen = .error f) := by
  rw [Outline.chosen_of_nil hNil]
  refine (Json.Shape.get hSpec rfl).lift.bind ?_
  rintro version ⟨rfl, hOptional⟩
  have hSame : (spec.member "version").textAt [] =
      o.version := hOnly.symm
  split
  case isTrue hTruthy =>
    have hSome : o.version ≠ "" := by
      simpa [truthy_eq hOptional, hSame] using hTruthy
    refine ⟨o.version, ?_, if_neg hSome⟩
    rw [← hSame]
    exact eq_text_of_truthy hOptional hTruthy
  case isFalse hFalse =>
    have hNone : o.version = "" := by
      simpa [truthy_eq hOptional, hSame] using hFalse
    exact if_pos hNone

/- A version is found as the outline chooses it. -/
theorem servedVersion_of_outline
    {o : Outline}
    (hSpec : outlineSpecShape spec)
    (hOnly : o.version = spec.textAt ["version"])
    (hListed : o.versions = spec.elementsAt ["versions"]) :
    (servedVersion (.str o.name) spec).Ends
      (fun v => ∃ version, v = .str version ∧
        o.chosen = .ok version)
      (fun f => o.chosen = .error f) := by
  refine (Json.Shape.get hSpec rfl).lift.bind ?_
  rintro versions ⟨hIs, hOptional⟩
  have hListed : o.versions = versions.elementsAt [] := by
    rw [hListed, hIs]
    rfl
  rcases optional_iff.mp hOptional with rfl | hArray
  · exact onlyVersion_of_outline hSpec hOnly hListed
  · rcases exists_elements hArray with ⟨es, rfl, hEach⟩
    cases es with
    | nil => exact onlyVersion_of_outline hSpec hOnly hListed
    | cons v vs =>
        have hListed : o.versions = v :: vs := hListed
        have hNe : o.versions ≠ [] := by simp [hListed]
        rw [Outline.chosen_of_ne_nil hNe, hListed]
        refine Except.Ends.bind (P := fun es => es = v :: vs)
          rfl ?_
        rintro es rfl
        rw [findSome?_servedName hEach]
        cases (v :: vs).find? isServed with
        | none => rfl
        | some version => exact ⟨_, rfl, rfl⟩

/- The texts of an outline are read as coordinates. -/
theorem check_coordinates
    (o : Outline)
    (version : String) :
    Failure.ofChecked KindCoordinates.recordName
      (KindCoordinates.check []
        [("definition", .value (.str o.name)),
         ("group", .value (.str o.group)),
         ("version", .value (.str version)),
         ("resource", .value (.str o.plural)),
         ("kind", .value (.str o.kind)),
         ("annotations",
           .value (Mesh.labelsJson (some o.annotations)))]) =
      .ok (o.coordinates version) := by
  have hRead : KindCoordinates.check []
      (Record.Draft.ofMembers
        [("definition", .str o.name), ("group", .str o.group),
         ("version", .str version),
         ("resource", .str o.plural), ("kind", .str o.kind),
         ("annotations",
           Mesh.labelsJson (some o.annotations))]) =
      .valid (o.coordinates version) := by
    unfold KindCoordinates.check
    refine seq_valid (seq_valid (seq_valid (seq_valid
      (seq_valid (map_valid _ ?definition) ?group) ?version)
      ?resource) ?kind) ?annotations
    case annotations =>
      exact withDefault_of_member rfl
        (undoes_map o.annotations)
    case kind =>
      exact withDefault_of_member rfl (undoes_text o.kind)
    all_goals
      exact required_of_member rfl (undoes_text _)
  exact congrArg
    (Failure.ofChecked KindCoordinates.recordName) hRead

/- A text that a definition cannot lack is there, or not. -/
theorem part_ends
    {α : Type}
    {v : Json}
    {s : String}
    {f : Failure}
    {o : Except Failure α}
    {P : α → Prop}
    {E : Failure → Prop}
    (hOptional : optional text v)
    (hHeld : v.textAt [] = s)
    (hLacking : s = "" → E f)
    (hGiven : s ≠ "" → v = .str s → o.Ends P E) :
    (if !v.truthy then throw f else o).Ends P E := by
  have hTruthy := truthy_eq hOptional
  rw [hHeld] at hTruthy
  rw [hTruthy]
  by_cases hNone : s = ""
  · rw [if_pos (by simpa using hNone)]
    exact hLacking hNone
  · rw [if_neg (by simpa using hNone)]
    refine hGiven hNone ?_
    rw [← hHeld]
    exact eq_text_of_truthy hOptional (by simpa [hTruthy])

/-
  A definition is resolved to what its outline is resolved
  to.
-/
theorem coordinates_eq_resolve (hShape : outlineShape raw) :
    coordinates raw = (outline raw).resolve := by
  apply Except.eq_of_ends
  refine (metadata_of_object hShape rfl).lift.bind ?_
  rintro md ⟨hMd, hMetadata⟩
  refine (spec_of_object hShape rfl).lift.bind ?_
  rintro spec ⟨hIs, hSpec⟩
  refine (getText_eq hMetadata rfl).lift.bind ?_
  rintro name rfl
  have hName : md.textAt ["name"] = (outline raw).name := by
    simp [outline, Json.textAt, Json.dig, hMd]
  rw [hName]
  refine (Json.Shape.get hSpec rfl).lift.bind ?_
  rintro group ⟨hGroup, hGroupText⟩
  have hGroup : group.textAt [] = (outline raw).group := by
    simp [outline, Json.textAt, Json.dig, hGroup, hIs]
  refine part_ends hGroupText hGroup ?_ ?_
  · intro hLacking
    exact if_pos hLacking
  · rintro hGiven rfl
    rw [Outline.resolve, if_neg hGiven]
    refine (Json.Shape.get hSpec rfl).lift.bind ?_
    rintro names ⟨hNames, hOptional⟩
    have hNamesShape := object_orEmpty hOptional
    refine (Json.Shape.get hNamesShape rfl).lift.bind ?_
    rintro plural ⟨hPlural, hPluralText⟩
    have hPlural :
        plural.textAt [] = (outline raw).plural := by
      simp [outline, Json.textAt, Json.dig, hPlural, hNames,
        hIs]
    refine part_ends hPluralText hPlural ?_ ?_
    · intro hLacking
      exact if_pos hLacking
    · rintro hGiven rfl
      rw [if_neg hGiven]
      have hOnly : (outline raw).version =
          spec.textAt ["version"] := by
        simp [outline, Json.textAt, Json.dig, hIs]
      have hListed : (outline raw).versions =
          spec.elementsAt ["versions"] := by
        simp [outline, Json.elementsAt, Json.dig, hIs]
      refine ((servedVersion_of_outline hSpec hOnly
        hListed).mono (fun _ h => h)
          fun f hChosen => ?_).bind ?_
      · rw [hChosen]
        rfl
      · rintro v ⟨version, rfl, hChosen⟩
        refine (getText_eq hNamesShape rfl).lift.bind ?_
        rintro kind rfl
        have hKind : names.orEmpty.textAt ["kind"] =
            (outline raw).kind := by
          simp [outline, Json.textAt, Json.dig, hNames, hIs]
        refine (Json.Shape.get hMetadata rfl).lift.bind ?_
        rintro annotations ⟨hAnnotations, hTexts⟩
        have hWritten := eq_labelsJson (texts_orEmpty hTexts)
        have hHeld : annotations.textMembers =
            (outline raw).annotations := by
          simp [outline, Json.dig, hAnnotations, hMd]
        rw [Json.textMembers_orEmpty, hHeld] at hWritten
        rw [hKind, hWritten, check_coordinates, hChosen]
        rfl

end Definition

------------------------------------------------------------
-- Reasons and Choices
------------------------------------------------------------

namespace Definition

/-
  An outline chooses a version: the name of the first one
  that is served, or the only one where none are listed.
-/
inductive Outline.Chooses (o : Outline) : String → Prop where
| served
    {before after : List Json}
    {v : Json} :
    o.versions = before ++ v :: after →
    (∀ w ∈ before, isServed w = false) →
    isServed v = true →
    Chooses o (v.textAt ["name"])
| only :
    o.versions = [] →
    o.version ≠ "" →
    Chooses o o.version

namespace Outline

variable {o : Outline}

theorem chosen_eq_ok_iff
    {version : String} :
    o.chosen = .ok version ↔ o.Chooses version := by
  by_cases hNil : o.versions = []
  · rw [chosen_of_nil hNil]
    constructor
    · intro hOk
      split at hOk
      · cases hOk
      · cases hOk
        exact .only hNil ‹_›
    · rintro (⟨hListed, _, _⟩ | ⟨_, hSome⟩)
      · simp [hNil] at hListed
      · exact if_neg hSome
  · rw [chosen_of_ne_nil hNil]
    constructor
    · intro hOk
      split at hOk
      · cases hOk
      · rename_i v hFirst
        cases hOk
        rcases List.find?_eq_some_iff_append.mp hFirst with
          ⟨hServed, before, after, hListed, hBefore⟩
        exact .served hListed (by simpa using hBefore)
          hServed
    · rintro (⟨hListed, hBefore, hServed⟩ | ⟨hNone, _⟩)
      · have hFirst : o.versions.find? isServed = some _ :=
          List.find?_eq_some_iff_append.mpr
            ⟨hServed, _, _, hListed, by simpa using hBefore⟩
        rw [hFirst]
      · exact (hNil hNone).elim

theorem chosen_eq_error_iff
    {f : Failure} :
    o.chosen = .error f ↔
      (o.versions = [] ∧ o.version = "" ∧
        f = .missingPart .version (.str o.name)) ∨
      (o.versions ≠ [] ∧
        (∀ v ∈ o.versions, isServed v = false) ∧
        f = .notServed (.str o.name)) := by
  by_cases hNil : o.versions = []
  · simp only [chosen_of_nil hNil, hNil, ne_eq, true_and,
      not_true_eq_false, false_and, or_false]
    by_cases hNone : o.version = ""
    · rw [if_pos hNone, Except.error.injEq]
      exact ⟨fun h => ⟨hNone, h.symm⟩, fun h => h.2.symm⟩
    · rw [if_neg hNone]
      exact ⟨nofun, fun h => (hNone h.1).elim⟩
  · simp only [chosen_of_ne_nil hNil, hNil, ne_eq,
      false_and, false_or, not_false_eq_true, true_and]
    cases hFirst : o.versions.find? isServed with
    | none =>
        have hNone : ∀ v ∈ o.versions, isServed v = false := by
          simpa using hFirst
        rw [Except.error.injEq]
        exact ⟨fun h => ⟨hNone, h.symm⟩, fun h => h.2.symm⟩
    | some v =>
        have hServed := List.find?_some hFirst
        have hMem := List.mem_of_find?_eq_some hFirst
        refine ⟨nofun, ?_⟩
        rintro ⟨hNone, _⟩
        rw [hNone v hMem] at hServed
        cases hServed

/-
  Two lists choose alike when their first served versions
  are the same, whatever else is in them.
-/
theorem chosen_eq_of_head
    {version : String}
    {versions : List Json}
    (hNe : o.versions ≠ [])
    (hNe' : versions ≠ [])
    (hHead : (versions.filter isServed).head? =
      (o.versions.filter isServed).head?) :
    ({ o with version := version, versions := versions } :
      Outline).chosen = o.chosen := by
  rw [List.head?_filter, List.head?_filter] at hHead
  rw [chosen_of_ne_nil hNe, chosen_of_ne_nil hNe', hHead]

theorem resolve_eq_of_head
    {version : String}
    {versions : List Json}
    (hNe : o.versions ≠ [])
    (hNe' : versions ≠ [])
    (hHead : (versions.filter isServed).head? =
      (o.versions.filter isServed).head?) :
    ({ o with version := version, versions := versions } :
      Outline).resolve = o.resolve := by
  unfold resolve
  rw [chosen_eq_of_head hNe hNe' hHead]
  rfl

/- With a group and a plural name, the version decides. -/
theorem resolve_of_named
    (hGroup : o.group ≠ "")
    (hPlural : o.plural ≠ "") :
    o.resolve = o.chosen.map o.coordinates := by
  unfold resolve
  rw [if_neg hGroup, if_neg hPlural]

theorem resolve_eq_ok_iff
    {coords : KindCoordinates} :
    o.resolve = .ok coords ↔
      o.group ≠ "" ∧ o.plural ≠ "" ∧
        ∃ version, o.Chooses version ∧
          coords = o.coordinates version := by
  by_cases hGroup : o.group = ""
  · simp [resolve, hGroup]
  · by_cases hPlural : o.plural = ""
    · simp [resolve, hGroup, hPlural]
    · rw [resolve_of_named hGroup hPlural]
      simp only [ne_eq, hGroup, hPlural, not_false_eq_true,
        true_and, ← chosen_eq_ok_iff]
      cases o.chosen with
      | ok version => simp [Except.map, eq_comm]
      | error f => simp [Except.map]

/- A missing group counts first, and the version last. -/
theorem resolve_eq_error_iff
    {f : Failure} :
    o.resolve = .error f ↔
      (o.group = "" ∧
        f = .missingPart .group (.str o.name)) ∨
      (o.group ≠ "" ∧ o.plural = "" ∧
        f = .missingPart .plural (.str o.name)) ∨
      (o.group ≠ "" ∧ o.plural ≠ "" ∧
        o.chosen = .error f) := by
  by_cases hGroup : o.group = ""
  · simp only [resolve, hGroup, if_true, Except.error.injEq]
    simp [@eq_comm _ f]
  · by_cases hPlural : o.plural = ""
    · simp only [resolve, hGroup, hPlural, if_true, if_false,
        Except.error.injEq]
      simp [hGroup, @eq_comm _ f]
    · rw [resolve_of_named hGroup hPlural]
      simp only [ne_eq, hGroup, hPlural, not_false_eq_true,
        true_and, false_and, false_or]
      cases o.chosen with
      | ok version => simp [Except.map]
      | error f => simp [Except.map]

end Outline

/-
  How a definition is resolved.  Each failure has its cause,
  and no cause is reported while an earlier one stands.
-/
structure Resolves (raw : Json) : Prop where
  noGroup :
    ∀ name,
      coordinates raw = .error (.missingPart .group name) ↔
        (outline raw).group = "" ∧
          name = .str (outline raw).name
  noPlural :
    ∀ name,
      coordinates raw = .error (.missingPart .plural name) ↔
        (outline raw).group ≠ "" ∧
          (outline raw).plural = "" ∧
          name = .str (outline raw).name
  noVersion :
    ∀ name,
      coordinates raw = .error (.missingPart .version name) ↔
        (outline raw).group ≠ "" ∧
          (outline raw).plural ≠ "" ∧
          (outline raw).versions = [] ∧
          (outline raw).version = "" ∧
          name = .str (outline raw).name
  /- A list of versions is of no use if none is served. -/
  notServed :
    ∀ name,
      coordinates raw = .error (.notServed name) ↔
        (outline raw).group ≠ "" ∧
          (outline raw).plural ≠ "" ∧
          (outline raw).versions ≠ [] ∧
          (∀ v ∈ (outline raw).versions,
            isServed v = false) ∧
          name = .str (outline raw).name
  resolved :
    ∀ coords,
      coordinates raw = .ok coords ↔
        (outline raw).group ≠ "" ∧
          (outline raw).plural ≠ "" ∧
          ∃ version, (outline raw).Chooses version ∧
            coords = (outline raw).coordinates version
  /- There is no other way to fail. -/
  settled :
    ∀ f, coordinates raw = .error f →
      (∃ part name, f = .missingPart part name) ∨
        ∃ name, f = .notServed name
  /-
    While some version is listed, those that are not served,
    and those after the first that is, make no difference;
    nor does the only version of an older definition.
  -/
  steady :
    ∀ raw' version versions,
      outlineShape raw' →
      outline raw' =
        { outline raw with
          version := version
          versions := versions } →
      (outline raw).versions ≠ [] →
      versions ≠ [] →
      (versions.filter isServed).head? =
        ((outline raw).versions.filter isServed).head? →
      coordinates raw' = coordinates raw

/- Every definition of the shape is resolved in this way. -/
theorem resolves_of_shape
    (hShape : outlineShape raw) :
    Resolves raw where
  noGroup name := by
    simp [coordinates_eq_resolve hShape,
      Outline.resolve_eq_error_iff,
      Outline.chosen_eq_error_iff]
  noPlural name := by
    simp [coordinates_eq_resolve hShape,
      Outline.resolve_eq_error_iff,
      Outline.chosen_eq_error_iff]
  noVersion name := by
    simp [coordinates_eq_resolve hShape,
      Outline.resolve_eq_error_iff,
      Outline.chosen_eq_error_iff]
  notServed name := by
    simp [coordinates_eq_resolve hShape,
      Outline.resolve_eq_error_iff,
      Outline.chosen_eq_error_iff]
  resolved coords := by
    rw [coordinates_eq_resolve hShape,
      Outline.resolve_eq_ok_iff]
  settled f hError := by
    rw [coordinates_eq_resolve hShape,
      Outline.resolve_eq_error_iff,
      Outline.chosen_eq_error_iff] at hError
    rcases hError with ⟨_, rfl⟩ | ⟨_, _, rfl⟩ |
      ⟨_, _, ⟨_, _, rfl⟩ | ⟨_, _, rfl⟩⟩
    · exact .inl ⟨_, _, rfl⟩
    · exact .inl ⟨_, _, rfl⟩
    · exact .inl ⟨_, _, rfl⟩
    · exact .inr ⟨_, rfl⟩
  steady raw' version versions := by
    intro hShape' hSame hNe hNe' hHead
    rw [coordinates_eq_resolve hShape,
      coordinates_eq_resolve hShape', hSame]
    exact Outline.resolve_eq_of_head hNe hNe' hHead

end Definition

end EventTopology
