import EventTopology.Proofs.Build.Contents
import EventTopology.Proofs.Build.Phases
import EventTopology.Proofs.Build.Steady
import EventTopology.Proofs.Resource.Annotations

/-
  This file shows that excluded annotations never influence
  a build.  Clusters that differ in nothing else give the
  same mesh or fail alike, and a mesh has all annotations of
  its resources but the excluded ones.

  Key definitions include:
    * `Plan.Conceals`
    * `Mesh.Sanitized`
    * `Shop.annotated`

  The main results are:
    * `Plan.alike_build_of_conceals`
    * `Plan.Finds.sanitized`
    * `Plan.run_of_concealed`
-/

------------------------------------------------------------
-- Concealed Answers
------------------------------------------------------------

namespace EventTopology

/-
  Two answers are equal, or they list resources that differ
  one by one in excluded annotations alone.
-/
def Concealed
    (excluded : List String)
    (o o' : Except Failure Json) : Prop :=
  o' = o ∨ ∃ raws raws',
    listed? o = some raws ∧ listed? o' = some raws' ∧
    List.Forall₂ (Resource.Conceals excluded) raws raws'

/- Resources that convert alike do so in a list. -/
theorem Failure.mapM_eq_of_forall₂
    {α β : Type}
    {R : α → α → Prop}
    {f : α → Except Failure β}
    {as as' : List α}
    (hAll : List.Forall₂ R as as')
    (hSame : ∀ a a', R a a' → f a' = f a) :
    as'.mapM f = as.mapM f := by
  induction hAll with
  | nil => rfl
  | cons hFirst _ ih =>
      rw [List.mapM_cons, List.mapM_cons, hSame _ _ hFirst,
        ih]

namespace Plan

variable {σ τ α : Type}

/-
  Answers are equal, but for excluded annotations of listed
  brokers, event types and instances.
-/
def Conceals (p : Plan) :
    Request → Except Failure Json → Except Failure Json →
      Prop
| .brokers => Concealed p.conversion.excluded
| .eventTypes => Concealed p.conversion.excluded
| .instances _ => Concealed p.conversion.excluded
| _ => fun o o' => o' = o

variable {p : Plan} {w : Twins σ τ}

/- What is concealed is not read. -/
theorem reads_of_conceals
    (r : Request)
    (convert : Json → Except Failure α)
    (hAsk : w.mayAsk r)
    (hConceals : w.first.Corresponds w.firstState w.second
      w.secondState p.Conceals)
    (hListing : ∀ o o', p.Conceals r o o' →
      Concealed p.conversion.excluded o o')
    (hSame : ∀ raw raw',
      Resource.Conceals p.conversion.excluded raw raw' →
      convert raw' = convert raw) :
    w.Reads r convert := by
  refine ⟨hAsk, fun o o' hAnswered => ?_⟩
  have hRelated := hAnswered.corresponds hConceals
  refine (hListing o o' hRelated).imp_right ?_
  rintro ⟨raws, raws', hListed, hListed', hAll⟩
  exact ⟨raws, raws', hListed, hListed',
    Failure.mapM_eq_of_forall₂ hAll hSame⟩

/- Concealed annotations change nothing about a build. -/
theorem alike_build_of_conceals
    (hAsk : ∀ r, w.mayAsk r)
    (hConceals : w.first.Corresponds w.firstState w.second
      w.secondState p.Conceals) :
    Build.Alike w (p.build w.first) (p.build w.second)
      (fun m m' => m' = m) fun e e' => e' = e := by
  let E : Failure → Failure → Prop := fun e e' => e' = e
  have hFailure : ∀ e, E e e := fun _ => rfl
  have hAgree (r : Request) :=
    Twins.agree_of_corresponds (hAsk r) hConceals
  have hReads {α : Type} (r : Request)
      (convert : Json → Except Failure α) :=
    reads_of_conceals r convert (hAsk r) hConceals
  have hBrokers := alike_converted
    (hReads .brokers p.conversion.broker
      (fun _ _ h => h)
      fun _ _ h => Conversion.broker_of_conceals h)
    hFailure "brokers"
  have hEventTypes := alike_converted
    (hReads .eventTypes p.conversion.eventType
      (fun _ _ h => h)
      fun _ _ h => Conversion.eventType_of_conceals h)
    hFailure "eventtypes"
  have hSubscribables := alike_subscribables
    (hAgree (.definitions p.subscribableTag)
      fun _ _ h => h).concurs
    (fun coords _ =>
      hReads (.instances coords) _ (fun _ _ h => h)
        fun _ _ h =>
          Conversion.subscribable_of_conceals h coords)
    hFailure
  refine alike_build ?_ (fun r hLate => ?_) hFailure
  · refine alike_collect hBrokers hSubscribables hEventTypes
      ?_
    rintro _ bs ss _ es rfl rfl
    refine (alike_sources
      (hAgree (.definitions p.sourceTag)
        fun _ _ h => h).concurs
      (fun coords declared _ =>
        hReads (.instances coords) _ (fun _ _ h => h)
          fun _ _ h => Conversion.source_of_conceals h
            coords (.ofTexts declared))
      (fun _ _ => rfl) hFailure).mono ?_ fun _ _ h => h
    rintro found _ rfl
    rfl
  · refine hAgree r fun o o' hRelated => ?_
    cases r with
    | triggers => exact hRelated
    | subscriptions => exact hRelated
    | identity ref label => exact hRelated
    | _ => cases hLate

end Plan

------------------------------------------------------------
-- Annotations of a Mesh
------------------------------------------------------------

/-
  A record is read of a listed resource, and these labels
  are left of the resource's annotations.
-/
def Answers.Leaves
    {α : Type}
    (answers : Answers)
    (excluded : List String)
    (r : Request)
    (convert : Json → Except Failure α)
    (a : α)
    (left : Option Labels) : Prop :=
  ∃ raws, answers.Lists r raws ∧
    ∃ raw ∈ raws, convert raw = .ok a ∧
      Annotations.Leaves excluded
        (Resource.annotationsOf raw) left

/-
  The annotations in a mesh are what is left of those of the
  resources that the records are read of.
-/
structure Mesh.Sanitized
    (p : Plan)
    (answers : Answers)
    (m : Mesh) : Prop where
  brokers : ∀ b ∈ m.brokers, ∃ b₀,
    answers.Leaves p.conversion.excluded .brokers
      p.conversion.broker b₀ b.annotations ∧
    b = { b₀ with
      providedEventTypes := b.providedEventTypes }
  eventTypes : ∀ e ∈ m.eventTypes, ∃ e₀,
    answers.Leaves p.conversion.excluded .eventTypes
      p.conversion.eventType e₀ e.annotations ∧
    e = { e₀ with consumedBy := e.consumedBy }
  subscribables : ∀ s ∈ m.subscribables, ∃ coords s₀,
    answers.Leaves p.conversion.excluded (.instances coords)
      (p.conversion.subscribable coords) s₀ s.annotations ∧
    s = { s₀ with
      providedEventTypes := s.providedEventTypes }
  sources : ∀ s ∈ m.sources, ∃ coords declared s₀,
    answers.Leaves p.conversion.excluded (.instances coords)
      (p.conversion.source coords (.ofTexts declared)) s₀
      s.annotations ∧
    s = { s₀ with
      providedEventTypes := s.providedEventTypes }

/- Every record that is yielded is read of some resource. -/
theorem Answers.Yields.leaves
    {α : Type}
    {answers : Answers}
    {excluded : List String}
    {r : Request}
    {convert : Json → Except Failure α}
    {as : List α}
    {a : α}
    {g : α → Option Labels}
    (hYields : answers.Yields r convert as)
    (hMem : a ∈ as)
    (hLeaves : ∀ raw a, convert raw = .ok a →
      Annotations.Leaves excluded
        (Resource.annotationsOf raw) (g a)) :
    answers.Leaves excluded r convert a (g a) := by
  rcases hYields with ⟨raws, hLists, hEach⟩
  rcases hEach.exists_left_of_mem hMem with
    ⟨raw, hRaw, hOk⟩
  exact ⟨raws, hLists, raw, hRaw, hOk,
    hLeaves raw a hOk⟩

namespace Plan

/- The mesh of findings has sanitized annotations. -/
theorem Finds.sanitized
    {p : Plan}
    {answers : Answers}
    {f : Findings}
    (hFinds : p.Finds answers f) :
    f.mesh.Sanitized p answers where
  brokers := by
    intro b hMem
    rcases List.mem_map.mp hMem with ⟨b₀, hMem₀, rfl⟩
    rw [f.index_brokers] at hMem₀
    exact ⟨b₀,
      hFinds.brokers.leaves (g := Broker.annotations)
        (Index.mem_of_mem_unclaimed hMem₀)
        fun _ _ hOk => Conversion.broker_leaves hOk,
      rfl⟩
  eventTypes := by
    intro e hMem
    rcases f.mem_mesh_eventTypes_iff.mp hMem with
      ⟨e₀, hMem₀, hShown⟩
    have hSame : e.annotations = e₀.annotations := by
      rw [hShown]
    refine ⟨e₀, ?_, ?_⟩
    · rw [hSame]
      exact hFinds.eventTypes.leaves
        (f.of_mem_index_eventTypes hMem₀).2
        fun _ _ hOk => Conversion.eventType_leaves hOk
    · rw [hShown]
  subscribables := by
    intro s hMem
    rcases List.mem_map.mp hMem with ⟨s₀, hMem₀, rfl⟩
    rw [f.index_subscribables] at hMem₀
    have hFound := Index.mem_of_mem_unclaimed hMem₀
    rcases hFinds.subscribables with
      ⟨kinds, parts, _, hParts, hAll⟩
    rw [hAll] at hFound
    rcases List.mem_flatten.mp hFound with
      ⟨part, hPart, hIn⟩
    rcases hParts.exists_left_of_mem hPart with
      ⟨coords, _, hYields⟩
    exact ⟨coords, s₀,
      hYields.leaves (g := Subscribable.annotations) hIn
        fun _ _ hOk => Conversion.subscribable_leaves hOk,
      rfl⟩
  sources := by
    intro s hMem
    rcases hFinds.exists_instance hMem with
      ⟨coords, declared, found, s₀, hYields, hIn, rfl⟩
    exact ⟨coords, declared, s₀,
      hYields.leaves (g := Source.annotations) hIn
        fun _ _ hOk => Conversion.source_leaves hOk,
      rfl⟩

end Plan

------------------------------------------------------------
-- An Annotated Shop
------------------------------------------------------------

namespace Shop

/- A broker with annotations, which may be null. -/
def annotatedBroker (annotations : Json) : Json :=
  .obj
    [("metadata",
       .obj
         [("name", .str "main"), ("namespace", .str "shop"),
          ("annotations", annotations)])]

/- The shop, whose broker has annotations. -/
def annotated (annotations : Json) : Replies
| .brokers => .ok (.arr [annotatedBroker annotations])
| r => replies known [] [] r

/- Annotations of which one is excluded unless told so. -/
def applied : Json :=
  .obj
    [("team", .str "orders"),
     (Annotations.lastApplied, .int 1)]

/- Without the excluded one, the others remain. -/
theorem conceals_applied :
    Annotations.Conceals Annotations.defaultExcluded applied
      (.obj [("team", .str "orders")]) :=
  Or.inr ⟨_, _, rfl, rfl, rfl⟩

end Shop

------------------------------------------------------------
-- Built Meshes
------------------------------------------------------------

namespace Plan

variable {σ : Type}

/-
  Clusters that differ in excluded annotations alone have
  one mesh, or their builds fail alike; and in every mesh
  the annotations are those that are not excluded.
-/
theorem run_of_concealed
    (p : Plan)
    (c : Cluster σ)
    (s : σ) :
    (∀ {τ : Type} (d : Cluster τ) (t : τ),
      c.Corresponds s d t p.Conceals →
      (p.run d t).1 = (p.run c s).1) ∧
    ∀ m run, p.run c s = (.ok m, run) →
      m.Sanitized p (c.Heard s run.requests) := by
  constructor
  · intro τ d t hConceals
    let w : Twins σ τ := {
      first := c
      firstState := s
      second := d
      secondState := t }
    have hBuilt := alike_build_of_conceals (w := w)
      (fun _ => trivial) hConceals
    exact Except.eq_of_matches (matches_run hBuilt).2
  · intro m run hRun
    rcases finds_of_run hRun with ⟨f, hFinds, rfl, _⟩
    exact hFinds.sanitized

/- The shop's broker may drop what was last applied. -/
theorem shop_concealed :
    let c := Cluster.ofTable (Shop.annotated Shop.applied)
    let d := Cluster.ofTable
      (Shop.annotated (.obj [("team", .str "orders")]))
    ∃ m run,
      c.Corresponds () d () ({} : Plan).Conceals ∧
      (Plan.run {} d ()).1 = (Plan.run {} c ()).1 ∧
      Plan.run {} c () = (.ok m, run) ∧
      m.brokers.map (·.annotations) =
        [some [("team", "orders")]] ∧
      m.Sanitized {} (c.Heard () run.requests) := by
  intro c d
  have hView :
      (Plan.run {} c ()).1.toOption.map
          (·.brokers.map (·.annotations)) =
        some [some [("team", "orders")]] := by
    decide +kernel
  have hConceals : c.Corresponds () d ()
      ({} : Plan).Conceals := by
    intro before r
    cases r with
    | brokers =>
        refine Or.inr ⟨_, _, rfl, rfl, ?_⟩
        refine List.Forall₂.cons (Or.inr ?_)
          List.Forall₂.nil
        refine ⟨_, _, rfl, rfl, ?_, ?_⟩
        · intro other hNe
          simp [Table.lookup, hNe.symm]
        · refine ⟨_, _, rfl, rfl, ?_,
            Shop.conceals_applied⟩
          intro other hNe
          simp [Table.lookup, hNe.symm]
    | eventTypes => exact Or.inl rfl
    | instances coords => exact Or.inl rfl
    | _ => rfl
  rcases exists_run_of_view hView with
    ⟨m, run, hRun, hShown⟩
  rcases run_of_concealed {} c () with
    ⟨hSame, hSanitized⟩
  exact ⟨m, run, hConceals, hSame d () hConceals, hRun,
    hShown, hSanitized m run hRun⟩

end Plan

end EventTopology
