import EventTopology.Proofs.Resource.Namespaces
import EventTopology.Proofs.Resource.Shape

/-
  This file shows that excluded annotations are dropped
  before anything is made of them.  Two resources that
  differ in excluded annotations alone convert to the same
  record or fail alike, and a record has just those
  annotations of its resource that are not excluded.

  Key definitions include:
    * `Annotations.Conceals`
    * `Annotations.Leaves`
    * `Json.DifferAt`
    * `Resource.Conceals`

  The main results are:
    * `Annotations.sanitize_of_conceals`
    * `Annotations.leaves_of_read`
    * `Conversion.eventType_of_conceals`
    * `Conversion.eventType_leaves`
-/

------------------------------------------------------------
-- Excluded Entries
------------------------------------------------------------

namespace EventTopology

namespace Annotations

/- The entries of annotations.  Null has none. -/
def entries? : Json → Option Json.Members
| .null => some []
| .obj ms => some ms
| _ => none

/-
  Two annotations are equal, or all other entries than the
  excluded ones are the same and in the same order.
-/
def Conceals
    (excluded : List String)
    (found found' : Json) : Prop :=
  found' = found ∨ ∃ ms ms',
    entries? found = some ms ∧
    entries? found' = some ms' ∧
    ms'.filter (·.1 ∉ excluded) =
      ms.filter (·.1 ∉ excluded)

/-
  These labels are left of annotations: all entries but the
  excluded ones, and null in place of no entries.
-/
structure Leaves
    (excluded : List String)
    (found : Json)
    (left : Option Labels) : Prop where
  dropped : ∀ ls, left = some ls →
    ∀ l ∈ ls, l.1 ∉ excluded
  others : ∃ ms, entries? found = some ms ∧
    (left.getD []).map (fun l => (l.1, Json.str l.2)) =
      ms.filter (·.1 ∉ excluded)
  notEmpty : left ≠ some []

/- Entries as an object, or null if there are none. -/
def orNull : Json.Members → Json
| [] => .null
| ms => .obj ms

variable {excluded : List String}
variable {found found' w : Json}

/- What remains depends on the other entries alone. -/
theorem sanitize_eq
    {ms : Json.Members}
    (hEntries : entries? found = some ms) :
    sanitize excluded found =
      .ok (orNull (ms.filter (·.1 ∉ excluded))) := by
  have hKept :
      kept excluded ms = ms.filter (·.1 ∉ excluded) := by
    simp [kept]
  rw [← hKept]
  cases found with
  | null =>
      cases hEntries
      rfl
  | obj ms' =>
      cases hEntries
      change (match kept excluded ms with
        | [] => _
        | rest => _) = _
      cases kept excluded ms with
      | nil => rfl
      | cons m rest => rfl
  | _ => cases hEntries

/- Only entries can be filtered. -/
theorem exists_entries
    (hOk : sanitize excluded found = .ok w) :
    ∃ ms, entries? found = some ms := by
  cases found with
  | null => exact ⟨_, rfl⟩
  | obj ms => exact ⟨_, rfl⟩
  | _ => cases hOk

/- Of annotations that differ in excluded entries alone, the
   same remains. -/
theorem sanitize_of_conceals
    (hConceals : Conceals excluded found found') :
    sanitize excluded found' = sanitize excluded found := by
  rcases hConceals with
    rfl | ⟨ms, ms', hEntries, hEntries', hSame⟩
  · rfl
  · rw [sanitize_eq hEntries, sanitize_eq hEntries', hSame]

end Annotations

------------------------------------------------------------
-- Remaining Entries
------------------------------------------------------------

namespace Record

/- An entry that is read has a text for key and for value. -/
theorem meets_readEntry
    (path : List Step)
    (e : Json × Json) :
    (readEntry path e).Meets fun l =>
      e = (.str l.1, .str l.2) := by
  unfold readEntry
  apply Checked.meets_seq
  apply Checked.meets_map
  intro name hName s hText
  rw [readText_eq_valid_iff] at hName hText
  exact Prod.ext (Input.value.inj hName)
    (Input.value.inj hText)

/- A map that is read has the texts of its entries. -/
theorem eq_of_readMap
    {path : List Step}
    {ms : Json.Members}
    {ls : Table String}
    (hValid :
      readMap path (.value (.obj ms)) = .valid ls) :
    ms = ls.map fun l => (l.1, .str l.2) := by
  have hEach := List.forall₂_map_left_iff.mp
    (Checked.meets_each _ _ ls hValid)
  rw [← List.forall₂_eq_eq_eq, List.forall₂_map_right_iff]
  refine hEach.imp fun m l hEntry => ?_
  have hSame := meets_readEntry path _ l hEntry
  rcases Prod.mk.inj hSame with ⟨hName, hText⟩
  exact Prod.ext (Json.str.inj hName) hText

end Record

namespace Annotations

/- What is read of entries is just them, if there are any. -/
theorem eq_of_readLabels
    {path : List Record.Step}
    {ms : Json.Members}
    {left : Option Labels}
    (hRead : Mesh.readLabels path (.value (orNull ms)) =
      .valid left) :
    (left.getD []).map (fun l => (l.1, Json.str l.2)) = ms ∧
      left ≠ some [] := by
  cases ms with
  | nil =>
      cases hRead
      exact ⟨rfl, nofun⟩
  | cons m rest =>
      cases left with
      | none =>
          change some <$> Record.readMap path _ = _ at hRead
          have hSome := Record.Checked.meets_map
            (f := some) (P := (· ≠ none)) (fun _ _ => nofun)
            none hRead
          exact absurd rfl hSome
      | some ls =>
          have hSame := Record.eq_of_readMap
            (Record.read_of_orNull hRead)
          refine ⟨hSame.symm, ?_⟩
          intro hEmpty
          rw [Option.some.inj hEmpty] at hSame
          cases hSame

/- What is read of the remaining entries is what is left. -/
theorem leaves_of_read
    {excluded : List String}
    {found w : Json}
    {path : List Record.Step}
    {left : Option Labels}
    (hOk : sanitize excluded found = .ok w)
    (hRead :
      Mesh.readLabels path (.value w) = .valid left) :
    Leaves excluded found left := by
  rcases exists_entries hOk with ⟨ms, hEntries⟩
  rw [sanitize_eq hEntries] at hOk
  cases hOk
  rcases eq_of_readLabels hRead with ⟨hOthers, hNotEmpty⟩
  refine ⟨?_, ⟨ms, hEntries, hOthers⟩, hNotEmpty⟩
  rintro ls rfl l hMem
  have hIn := List.mem_map_of_mem
    (f := fun l : String × String => (l.1, Json.str l.2))
    hMem
  change ls.map _ = _ at hOthers
  rw [hOthers, List.mem_filter] at hIn
  exact of_decide_eq_true hIn.2

end Annotations

------------------------------------------------------------
-- Concealed Annotations
------------------------------------------------------------

/- What follows a value that is looked up has the value. -/
theorem Failure.lift_ok_bind
    {α β : Type}
    (a : α)
    (f : α → Except Failure β) :
    (liftM (.ok a : Except Json.ShapeFault α) >>= f) = f a :=
  rfl

/-
  Two objects have the same members, but those under one
  name are related otherwise.
-/
def Json.DifferAt
    (name : String)
    (R : Json → Json → Prop)
    (v v' : Json) : Prop :=
  ∃ ms ms', v = .obj ms ∧ v' = .obj ms' ∧
    (∀ other, other ≠ name →
      Table.lookup other ms' = Table.lookup other ms) ∧
    R (find name ms) (find name ms')

namespace Json.DifferAt

variable {name other : String}
variable {R : Json → Json → Prop}
variable {v v' : Json}

/- What is related is looked up in each of the objects. -/
theorem get
    (hDiffer : DifferAt name R v v') :
    ∃ w w', v.get name = .ok w ∧ v'.get name = .ok w' ∧
      R w w' := by
  rcases hDiffer with ⟨ms, ms', rfl, rfl, _, hRelated⟩
  exact ⟨_, _, rfl, rfl, hRelated⟩

theorem get_of_ne
    (hDiffer : DifferAt name R v v')
    (hNe : other ≠ name) :
    v'.get other = v.get other := by
  rcases hDiffer with ⟨ms, ms', rfl, rfl, hSame, _⟩
  change Except.ok (find other ms') = .ok (find other ms)
  rw [find, find, hSame other hNe]

theorem getText_of_ne
    (hDiffer : DifferAt name R v v')
    (hNe : other ≠ name) :
    v'.getText other = v.getText other := by
  rcases hDiffer with ⟨ms, ms', rfl, rfl, hSame, _⟩
  change Except.ok ((Table.lookup other ms').getD _) =
    .ok ((Table.lookup other ms).getD _)
  rw [hSame other hNe]

/- An object is itself, be it empty or not. -/
theorem orEmpty_eq
    (hDiffer : DifferAt name R v v') :
    v.orEmpty = v ∧ v'.orEmpty = v' := by
  have hObject (ms : Members) :
      (Json.obj ms).orEmpty = .obj ms := by
    cases ms <;> rfl
  rcases hDiffer with ⟨ms, ms', rfl, rfl, _, _⟩
  exact ⟨hObject ms, hObject ms'⟩

end Json.DifferAt

namespace Resource

/- Two resources differ in excluded annotations alone. -/
def Conceals
    (excluded : List String)
    (raw raw' : Json) : Prop :=
  raw' = raw ∨
    Json.DifferAt "metadata"
      (Json.DifferAt "annotations"
        (Annotations.Conceals excluded))
      raw raw'

/- What a conversion looks at, two resources have alike. -/
structure Alike
    (c : Conversion)
    (raw raw' md md' : Json) : Prop where
  metadata : metadata raw = .ok md
  metadata' : Resource.metadata raw' = .ok md'
  text : ∀ name, name ≠ "annotations" →
    md'.getText name = md.getText name
  labels : labels md' = labels md
  annotations : annotations c md' = annotations c md
  kind : raw'.get "kind" = raw.get "kind"
  spec : spec raw' = spec raw

variable {c : Conversion}
variable {raw raw' : Json}

/- Excluded annotations are nothing that is looked at. -/
theorem Conceals.alike
    (hConceals : Conceals c.excluded raw raw') :
    raw' = raw ∨ ∃ md md', Alike c raw raw' md md' := by
  rcases hConceals with hSame | hDiffer
  · exact Or.inl hSame
  · right
    rcases hDiffer.get with ⟨md, md', hMd, hMd', hInner⟩
    rcases hInner.get with
      ⟨found, found', hFound, hFound', hEntries⟩
    refine ⟨md, md', ?_⟩
    exact {
      metadata := by
        rw [metadata, hMd]
        exact congrArg Except.ok hInner.orEmpty_eq.1
      metadata' := by
        rw [metadata, hMd']
        exact congrArg Except.ok hInner.orEmpty_eq.2
      text := fun name hNe => hInner.getText_of_ne hNe
      labels := by
        rw [labels, labels, hInner.get_of_ne (by decide)]
      annotations := by
        have hSame :=
          Annotations.sanitize_of_conceals hEntries
        rw [annotations, annotations, hFound, hFound']
        simp only [bind, Except.bind, hSame]
      kind := hDiffer.get_of_ne (by decide)
      spec := by
        rw [spec, spec, hDiffer.get_of_ne (by decide)] }

/- The sinks of such resources are the same. -/
theorem Alike.sink
    {md md' : Json}
    (hAlike : Alike c raw raw' md md') :
    sink raw' = sink raw := by
  have hNs := hAlike.text "namespace" (by decide)
  simp only [Resource.sink, hAlike.spec, hAlike.metadata,
    hAlike.metadata', Failure.lift_ok_bind, hNs]

end Resource

------------------------------------------------------------
-- Converted Resources
------------------------------------------------------------

namespace Conversion

open Resource

variable {c : Conversion} {raw raw' : Json}

theorem broker_of_conceals
    (hConceals : Conceals c.excluded raw raw') :
    c.broker raw' = c.broker raw := by
  rcases hConceals.alike with rfl | ⟨md, md', hAlike⟩
  · rfl
  · unfold broker
    rw [hAlike.metadata, hAlike.metadata']
    simp (disch := decide) only [Failure.lift_ok_bind,
      hAlike.text, hAlike.labels, hAlike.annotations]

theorem subscribable_of_conceals
    (hConceals : Conceals c.excluded raw raw')
    (coords : KindCoordinates) :
    c.subscribable coords raw' =
      c.subscribable coords raw := by
  rcases hConceals.alike with rfl | ⟨md, md', hAlike⟩
  · rfl
  · unfold subscribable
    rw [hAlike.metadata, hAlike.metadata']
    simp (disch := decide) only [Failure.lift_ok_bind,
      hAlike.text, hAlike.kind, hAlike.labels,
      hAlike.annotations]

theorem eventType_of_conceals
    (hConceals : Conceals c.excluded raw raw') :
    c.eventType raw' = c.eventType raw := by
  rcases hConceals.alike with rfl | ⟨md, md', hAlike⟩
  · rfl
  · unfold eventType
    rw [hAlike.metadata, hAlike.metadata']
    simp (disch := decide) only [Failure.lift_ok_bind,
      hAlike.text, hAlike.spec, hAlike.labels,
      hAlike.annotations]

theorem source_of_conceals
    (hConceals : Conceals c.excluded raw raw')
    (coords : KindCoordinates)
    (declared : Json) :
    c.source coords declared raw' =
      c.source coords declared raw := by
  rcases hConceals.alike with rfl | ⟨md, md', hAlike⟩
  · rfl
  · unfold source
    rw [hAlike.metadata, hAlike.metadata']
    simp (disch := decide) only [Failure.lift_ok_bind,
      hAlike.text, hAlike.kind, hAlike.labels,
      hAlike.annotations, hAlike.sink]

end Conversion

------------------------------------------------------------
-- Annotations of Records
------------------------------------------------------------

namespace Resource

/- What is looked up in a value is a member of it. -/
theorem eq_member_of_get
    {v w : Json}
    {name : String}
    (hOk : v.get name = .ok w) :
    w = v.member name := by
  cases v with
  | obj ms =>
      cases hOk
      rfl
  | _ => cases hOk

theorem eq_of_metadata
    {raw md : Json}
    (hOk : metadata raw = .ok md) :
    md = (raw.member "metadata").orEmpty := by
  cases raw with
  | obj ms =>
      cases hOk
      rfl
  | _ => cases hOk

/- The annotations of a resource, null if there are none. -/
def annotationsOf (raw : Json) : Json :=
  Json.dig ["metadata", "annotations"] raw

/- What is found in metadata stands in the resource. -/
theorem leaves_of_annotations
    {c : Conversion}
    {raw md : Json}
    {input : Record.Input}
    {path : List Record.Step}
    {left : Option Labels}
    (hMd : metadata raw = .ok md)
    (hOk : annotations c md = .ok input)
    (hRead : Mesh.readLabels path input = .valid left) :
    Annotations.Leaves c.excluded (annotationsOf raw)
      left := by
  simp only [annotations, Except.bind_eq_ok_iff] at hOk
  rcases hOk with ⟨found, hFound, w, hSanitized, hPure⟩
  cases hPure
  have hWithin : found = annotationsOf raw := by
    rw [eq_member_of_get hFound, eq_of_metadata hMd,
      Json.member_orEmpty]
    rfl
  rw [← hWithin]
  exact Annotations.leaves_of_read hSanitized hRead

end Resource

namespace Conversion

open Resource

variable {c : Conversion} {raw : Json}

theorem broker_leaves
    {b : Broker}
    (hOk : c.broker raw = .ok b) :
    Annotations.Leaves c.excluded (annotationsOf raw)
      b.annotations := by
  simp only [broker, Except.bind_eq_ok_iff,
    Failure.lift_eq_ok_iff, Failure.ofChecked_eq_ok_iff]
    at hOk
  rcases hOk with
    ⟨md, hMd, _, _, _, _, _, _, _, _, _, hFound, hValid⟩
  exact leaves_of_annotations hMd hFound
    (Record.read_of_withDefault
      (Broker.meets_check _ _ _ hValid).2 rfl)

theorem subscribable_leaves
    {coords : KindCoordinates}
    {s : Subscribable}
    (hOk : c.subscribable coords raw = .ok s) :
    Annotations.Leaves c.excluded (annotationsOf raw)
      s.annotations := by
  simp only [subscribable, Except.bind_eq_ok_iff,
    Failure.lift_eq_ok_iff, Failure.ofChecked_eq_ok_iff]
    at hOk
  rcases hOk with
    ⟨md, hMd, _, _, _, _, _, _, _, _, _, _, _, hFound,
      hValid⟩
  exact leaves_of_annotations hMd hFound
    (Record.read_of_withDefault
      (Subscribable.meets_check _ _ _ hValid).2 rfl)

theorem eventType_leaves
    {e : EventType}
    (hOk : c.eventType raw = .ok e) :
    Annotations.Leaves c.excluded (annotationsOf raw)
      e.annotations := by
  simp only [eventType, Except.bind_eq_ok_iff,
    Failure.lift_eq_ok_iff, Failure.ofChecked_eq_ok_iff]
    at hOk
  rcases hOk with
    ⟨md, hMd, _, _, _, _, _, _, _, _, _, _, _, _, _, _, _,
      _, _, _, _, _, _, _, _, hFound, hValid⟩
  exact leaves_of_annotations hMd hFound
    (Record.read_of_withDefault
      (EventType.meets_check _ _ _ hValid).2.2 rfl)

theorem source_leaves
    {coords : KindCoordinates}
    {declared : Json}
    {s : Source}
    (hOk : c.source coords declared raw = .ok s) :
    Annotations.Leaves c.excluded (annotationsOf raw)
      s.annotations := by
  simp only [source, Except.bind_eq_ok_iff,
    Failure.lift_eq_ok_iff, Failure.ofChecked_eq_ok_iff]
    at hOk
  rcases hOk with
    ⟨md, hMd, _, _, _, _, _, _, _, _, _, _, _, hFound, _, _,
      hValid⟩
  exact leaves_of_annotations hMd hFound
    (Record.read_of_withDefault
      (Source.meets_check _ _ _ hValid).2 rfl)

end Conversion

end EventTopology
