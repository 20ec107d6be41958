import EventTopology.Proofs.Build.Skipping
import EventTopology.Proofs.Mesh.Canonical

/-
  This file shows that a malformed declaration skips only
  its own kind.  A build goes as if the definition were not
  listed among those of sources, but for a note; it asks for
  the instances of such a kind only where it takes them for
  subscribables.

  Key definitions include:
    * `Plan.Omits`
    * `Plan.Consults`
    * `Plan.Overlooks`
    * `Shop.muddles`

  The main results are:
    * `Plan.matches_coordinates_filter`
    * `Plan.alike_sources_of_omits`
    * `Plan.run_of_overlooked`
-/

------------------------------------------------------------
-- Omitted Definitions
------------------------------------------------------------

namespace EventTopology

namespace Plan

open Build

/-
  An answer leaves out the malformed definitions that another
  lists.  One that lists nothing stays as it is.
-/
def Omits
    (p : Plan)
    (o o' : Except Failure Json) : Prop :=
  (listed? o = none ∧ o' = o) ∨
  ∃ raws, listed? o = some raws ∧
    listed? o' =
      some (raws.filter fun raw => !p.isMalformed raw)

/- Of the other definitions all kinds are discovered. -/
theorem matches_coordinates_filter
    (p : Plan)
    (raws : List Json) :
    (raws.mapM Definition.coordinates).Matches
      ((raws.filter fun raw =>
        !p.isMalformed raw).mapM Definition.coordinates)
      (fun kinds kinds' => kinds' = kinds.filter p.declares)
      fun e e' => e' = e := by
  induction raws with
  | nil =>
      rw [List.filter_nil, List.mapM_nil]
      exact Eq.refl []
  | cons raw raws ih =>
      rw [List.mapM_cons]
      cases hCoords : Definition.coordinates raw with
      | error e =>
          have hKept : (!p.isMalformed raw) = true := by
            simp [isMalformed, hCoords]
          rw [List.filter_cons, if_pos hKept,
            List.mapM_cons, hCoords]
          rfl
      | ok coords =>
          have hKept :
              (!p.isMalformed raw) = p.declares coords := by
            simp [isMalformed, hCoords]
          rw [List.filter_cons, hKept]
          cases hDeclares : p.declares coords with
          | true =>
              rw [if_pos rfl, List.mapM_cons, hCoords]
              refine ih.bind fun kinds kinds' hRest => ?_
              change _ = (coords :: kinds).filter p.declares
              rw [hRest, List.filter_cons_of_pos hDeclares]
          | false =>
              rw [if_neg nofun]
              rw [← bind_pure (List.mapM _ (raws.filter _))]
              refine ih.bind fun kinds kinds' hRest => ?_
              change _ = (coords :: kinds).filter p.declares
              rw [hRest, List.filter_cons_of_neg
                (by simp [hDeclares])]

variable {σ τ : Type}
variable {w : Twins σ τ}
variable {p : Plan} {x : Index}

/- A kind with a malformed declaration is only noted. -/
theorem silent_sourcesOfKind
    {coords : KindCoordinates}
    (hShares : w.shares .declaration = false)
    (hMalformed : p.declares coords = false) :
    Silent w (p.sourcesOfKind w.first x coords) [] := by
  intro run
  unfold sourcesOfKind
  unfold declares at hMalformed
  cases hDeclared : p.conversion.declaredTypes coords with
  | ok declared =>
      rw [hDeclared] at hMalformed
      cases hMalformed
  | error f =>
      refine ⟨_, rfl, rfl, rfl, ?_⟩
      simp [List.filter_append, hShares]

/- Malformed definitions bring no sources. -/
theorem alike_sources_of_omits
    (hAsk : w.mayAsk (.definitions p.sourceTag))
    (hOmits : ∀ o o',
      w.Answered (.definitions p.sourceTag) o o' →
      p.Omits o o')
    (hInstances : ∀ coords, p.declares coords = true →
      w.Agree (.instances coords))
    (hShares : w.shares .declaration = false) :
    Alike w (p.sources w.first x) (p.sources w.second x)
      (fun ss ss' => ss' = ss) fun e e' => e' = e := by
  refine (alike_discover
    (R := fun kinds kinds' =>
      kinds' = kinds.filter p.declares)
    (E := fun e e' => e' = e) hAsk ?_ fun _ => rfl).bind ?_
  · intro o o' hAnswered
    rcases hOmits o o' hAnswered with
      hNone | ⟨raws, hListed, hListed'⟩
    · exact Or.inl hNone
    · exact Or.inr ⟨raws, _, hListed, hListed',
        p.matches_coordinates_filter raws⟩
  · rintro kinds _ rfl
    refine (alike_mapM_filter kinds ?_ ?_).map
      fun parts parts' hSame => hSame
    · intro coords _ hDeclares
      exact alike_sourcesOfKind
        (fun _ _ => (hInstances coords hDeclares).reads _)
        (fun _ _ => rfl) fun _ => rfl
    · intro coords _ hMalformed
      exact silent_sourcesOfKind hShares hMalformed

end Plan

------------------------------------------------------------
-- Overlooked Kinds
------------------------------------------------------------

namespace Plan

open Build

variable {σ τ : Type}

/-
  What a build may ask.  It asks for the instances of a kind
  only if the kind's declaration can be read, or if at some
  time the kind is listed as subscribable.
-/
def Consults
    (p : Plan)
    (c : Cluster σ)
    (s : σ) : Request → Prop
| .instances coords =>
    p.declares coords = true ∨
      c.Announces s p.subscribableTag coords
| _ => True

/-
  Answers are equal, but for malformed definitions that are
  not listed among those of sources.  To what a build does
  not ask, the answers may be any.
-/
def Overlooks
    (p : Plan)
    (c : Cluster σ)
    (s : σ) :
    Request → Except Failure Json → Except Failure Json →
      Prop
| .definitions tag => fun o o' =>
    if tag = p.sourceTag then p.Omits o o' else o' = o
| r => fun o o' => p.Consults c s r → o' = o

variable {p : Plan} {w : Twins σ τ}

theorem agree_of_overlooks
    {r : Request}
    (hOverlooks : w.first.Corresponds w.firstState w.second
      w.secondState (p.Overlooks w.first w.firstState))
    (hAsk : w.mayAsk r)
    (hConsults : p.Consults w.first w.firstState r)
    (hOther : r ≠ .definitions p.sourceTag) :
    w.Agree r := by
  refine Twins.agree_of_corresponds hAsk hOverlooks
    fun o o' hRelated => ?_
  cases r with
  | definitions tag =>
      have hTag : tag ≠ p.sourceTag :=
        fun hSame => hOther (congrArg _ hSame)
      change (if _ then _ else _) at hRelated
      rw [if_neg hTag] at hRelated
      exact hRelated
  | _ => exact hRelated hConsults

/- Overlooked kinds change nothing about what is built. -/
theorem alike_build_of_overlooks
    (hTags : p.subscribableTag ≠ p.sourceTag)
    (hOverlooks : w.first.Corresponds w.firstState w.second
      w.secondState (p.Overlooks w.first w.firstState))
    (hAsk : ∀ r, p.Consults w.first w.firstState r →
      w.mayAsk r)
    (hShares : w.shares .declaration = false) :
    Alike w (p.build w.first) (p.build w.second)
      (fun m m' => m' = m) fun e e' => e' = e := by
  have hAgree (r : Request)
      (hConsults : p.Consults w.first w.firstState r) :=
    agree_of_overlooks hOverlooks (hAsk r hConsults)
      hConsults
  let E : Failure → Failure → Prop := fun e e' => e' = e
  have hFailure : ∀ e, E e e := fun _ => rfl
  have hOmits (o o' : Except Failure Json)
      (hAnswered :
        w.Answered (.definitions p.sourceTag) o o') :
      p.Omits o o' := by
    have hRelated := hAnswered.corresponds hOverlooks
    change (if _ then _ else _) at hRelated
    rw [if_pos rfl] at hRelated
    exact hRelated
  have hBrokers := alike_converted
    ((hAgree .brokers trivial nofun).reads
      p.conversion.broker)
    hFailure "brokers"
  have hEventTypes := alike_converted
    ((hAgree .eventTypes trivial nofun).reads
      p.conversion.eventType)
    hFailure "eventtypes"
  have hSubscribables := alike_subscribables
    (hAgree (.definitions p.subscribableTag) trivial
      fun hSame =>
        hTags (Request.definitions.inj hSame)).concurs
    (fun coords hAnnounced =>
      (hAgree (.instances coords) (Or.inr hAnnounced)
        nofun).reads _)
    hFailure
  refine alike_build ?_ (fun r hLate => ?_) hFailure
  · refine alike_collect hBrokers hSubscribables hEventTypes
      ?_
    rintro _ bs ss _ es rfl rfl
    refine (alike_sources_of_omits (hAsk _ trivial) hOmits
      (fun coords hDeclares => hAgree (.instances coords)
        (Or.inl hDeclares) nofun) hShares).mono ?_
      fun _ _ h => h
    rintro found _ rfl
    rfl
  · cases r with
    | triggers => exact hAgree _ trivial nofun
    | subscriptions => exact hAgree _ trivial nofun
    | identity ref label => exact hAgree _ trivial nofun
    | _ => cases hLate

end Plan

------------------------------------------------------------
-- A Muddled Shop
------------------------------------------------------------

namespace Shop

/- The definition of a kind that says nothing readable. -/
def muddled : Json :=
  .obj
    [("metadata",
       .obj
         [("name", .str "muddles.sources.dev"),
          ("annotations",
            .obj
              [("registry.knative.dev/eventTypes",
                 .str "soon")])]),
     ("spec",
       .obj
         [("group", .str "sources.dev"),
          ("version", .str "v1"),
          ("names",
            .obj
              [("plural", .str "muddles"),
               ("kind", .str "Muddle")])])]

/-
  Replies with tagged definitions, in which the instances of
  kinds with malformed declarations are as given.
-/
def muddles
    (tagged : String → List Json)
    (malformed : Except Failure Json) : Replies
| .definitions tag => .ok (.arr (tagged tag))
| .instances coords =>
    if ({} : Plan).declares coords then
      .ok (.arr [resource "shop" "feed" []])
    else malformed
| _ => .ok (.arr [])

/- The definitions of sources, and no others. -/
def onlySources
    (definitions : List Json)
    (tag : String) : List Json :=
  if tag = ({} : Plan).sourceTag then definitions else []

/- A listing that fails. -/
def unlisted : Except Failure Json :=
  .error (.cluster (.failed "no answer" none))

/-
  Muddles may be left out of the definitions of sources, and
  then their instances may be anything.
-/
theorem overlooks_muddles (malformed : Except Failure Json) :
    (Cluster.ofTable
      (muddles (onlySources [muddled, feeds])
        unlisted)).Corresponds ()
      (Cluster.ofTable
        (muddles (onlySources [feeds]) malformed)) ()
      (({} : Plan).Overlooks
        (Cluster.ofTable
          (muddles (onlySources [muddled, feeds])
            unlisted)) ()) := by
  have hMuddled : ({} : Plan).isMalformed muddled = true := by
    decide +kernel
  have hFeeds : ({} : Plan).isMalformed feeds = false := by
    decide +kernel
  intro before r
  cases r with
  | definitions tag =>
      change if _ then _ else _
      by_cases hTag : tag = ({} : Plan).sourceTag
      · subst hTag
        rw [if_pos rfl]
        refine Or.inr ⟨[muddled, feeds], rfl, ?_⟩
        rw [List.filter_cons, List.filter_cons, hMuddled,
          hFeeds]
        rfl
      · rw [if_neg hTag]
        simp [Cluster.ofTable, Answer.still, muddles,
          onlySources, hTag]
  | instances coords =>
      rintro (hDeclares | ⟨_, raws, raw, hListed, hMem, _⟩)
      · simp [Cluster.ofTable, Answer.still, muddles,
          hDeclares]
      · have hNone : raws = [] :=
          (Option.some.inj hListed).symm
        rw [hNone] at hMem
        cases hMem
  | _ => exact fun _ => rfl

end Shop

------------------------------------------------------------
-- Built Meshes
------------------------------------------------------------

namespace Plan

variable {σ τ : Type}

/-
  With malformed definitions left out, a build ends in the
  same way.  With them it notes as many declarations once
  sources are collected; and it never asks for the instances
  of kinds that only they bring.
-/
theorem run_of_overlooked
    {p : Plan}
    {c : Cluster σ}
    {s : σ}
    {d : Cluster τ}
    {t : τ}
    (hTags : p.subscribableTag ≠ p.sourceTag)
    (hOverlooks :
      c.Corresponds s d t (p.Overlooks c s)) :
    (p.run d t).1 = (p.run c s).1 ∧
    (∀ found run,
      Build.exec (p.collect c) ⟨s, [], [], []⟩ =
        (.ok found, run) →
      ∃ raws,
        (c.Heard s run.requests).Lists
          (.definitions p.sourceTag) raws ∧
        (p.run c s).2.skips.count .declaration =
          raws.countP p.isMalformed) ∧
    ∀ r ∈ (p.run c s).2.requests, p.Consults c s r := by
  let w : Twins σ τ := {
    first := c
    firstState := s
    second := d
    secondState := t
    mayAsk := p.Consults c s
    shares := fun r => r ≠ .declaration }
  have hBuilt : Build.Alike w (p.build c) (p.build d)
      (fun m m' => m' = m) fun e e' => e' = e :=
    alike_build_of_overlooks (w := w) hTags hOverlooks
      (fun _ hConsults => hConsults) (by simp [w])
  rcases matches_run (w := w) hBuilt with ⟨hStep, hMatches⟩
  refine ⟨Except.eq_of_matches hMatches, ?_, hStep.asked⟩
  intro found run hCollect
  rcases p.hears_collect _ (c.keeps_start s) with
    ⟨-, -, hEnd⟩
  rcases hEnd found run hCollect with
    ⟨skipped, hSkips, hFinds⟩
  rcases hFinds _ fun _ _ h => h with
    ⟨_, _, _, parts, _, _, _, _, hSources, _, rfl⟩
  rcases length_unread hSources with ⟨raws, hLists, hCount⟩
  refine ⟨raws, hLists, ?_⟩
  rw [count_declaration_run hCollect, hSkips, ← hCount,
    List.map_const', List.nil_append,
    List.count_replicate_self]

/-
  Muddles are noted and not asked for; feeds are shown as if
  there were no muddles.
-/
theorem muddles_overlooked :
    let p : Plan := {}
    let c := Cluster.ofTable
      (Shop.muddles
        (Shop.onlySources [Shop.muddled, Shop.feeds])
        Shop.unlisted)
    let d := Cluster.ofTable
      (Shop.muddles (Shop.onlySources [Shop.feeds])
        Shop.unlisted)
    p.subscribableTag ≠ p.sourceTag ∧
    c.Corresponds () d () (p.Overlooks c ()) ∧
    (p.run c ()).1.toOption.map
        (·.sources.map (·.name)) = some ["feed"] ∧
    (p.run c ()).2.skips = [.declaration] ∧
    (p.run d ()).1 = (p.run c ()).1 ∧
    (∀ found run,
      Build.exec (p.collect c) ⟨(), [], [], []⟩ =
        (.ok found, run) →
      ∃ raws,
        (c.Heard () run.requests).Lists
          (.definitions p.sourceTag) raws ∧
        (p.run c ()).2.skips.count .declaration =
          raws.countP p.isMalformed) ∧
    ∀ r ∈ (p.run c ()).2.requests, p.Consults c () r := by
  intro p c d
  have hTags : p.subscribableTag ≠ p.sourceTag := by
    decide +kernel
  have hOverlooks : c.Corresponds () d ()
      (p.Overlooks c ()) :=
    Shop.overlooks_muddles Shop.unlisted
  refine ⟨hTags, hOverlooks, ?_, ?_,
    run_of_overlooked hTags hOverlooks⟩
  · decide +kernel
  · decide +kernel

/-
  Listed under both tags, muddles are taken for subscribables:
  their instances are asked for, and when these cannot be
  listed the build fails.
-/
theorem muddles_subscribable :
    let p : Plan := {}
    let c (malformed : Except Failure Json) :=
      Cluster.ofTable
        (Shop.muddles (fun _ => [Shop.muddled]) malformed)
    p.subscribableTag ≠ p.sourceTag ∧
    p.isMalformed Shop.muddled = true ∧
    (∃ coords,
      Definition.coordinates Shop.muddled = .ok coords ∧
      .instances coords ∈
        (p.run (c Shop.unlisted) ()).2.requests) ∧
    (p.run (c Shop.unlisted) ()).1.isOk = false ∧
    (p.run (c (.ok (.arr []))) ()).1.isOk = true := by
  intro p c
  refine ⟨?_, ?_, ?_, ?_, ?_⟩
  · decide +kernel
  · decide +kernel
  · have hAsked :
        ((Definition.coordinates Shop.muddled).toOption.any
          fun coords => decide (.instances coords ∈
            (p.run (c Shop.unlisted) ()).2.requests)) =
          true := by
      decide +kernel
    rcases hCoords : Definition.coordinates Shop.muddled
      with e | coords
    · rw [hCoords] at hAsked
      cases hAsked
    · rw [hCoords] at hAsked
      exact ⟨coords, rfl, of_decide_eq_true hAsked⟩
  · decide +kernel
  · decide +kernel

end Plan

end EventTopology
