import EventTopology.Proofs.Build.Phases
import EventTopology.Proofs.Build.Steady

/-
  This file shows that what does not exist is as good as
  empty.  A build cannot tell a cluster that lacks a listing
  from one that lists nothing there, nor one that lacks a
  resource from one where it has no identity.

  Key definitions include:
    * `Request.Voids`
    * `Cluster.voiding`
    * `Shop.sparse`

  The main results are:
    * `Plan.alike_build_of_concurs`
    * `Plan.run_of_concurring`
    * `Plan.run_of_absent`
-/

------------------------------------------------------------
-- Concurring Clusters
------------------------------------------------------------

namespace EventTopology

namespace Plan

open Build

variable {σ τ : Type}

/- Over clusters that concur on everything builds are one. -/
theorem alike_build_of_concurs
    {p : Plan}
    {w : Twins σ τ}
    (hConcur : ∀ r, w.Concur r) :
    Alike w (p.build w.first) (p.build w.second)
      (fun m m' => m' = m) fun e e' => e' = e := by
  let E : Failure → Failure → Prop := fun e e' => e' = e
  have hFailure : ∀ e, E e e := fun _ => rfl
  have hReads {α : Type} (r : Request)
      (hListing : r.isListing = true)
      (convert : Json → Except Failure α) :=
    (hConcur r).reads hListing convert
  have hBrokers := alike_converted
    (hReads .brokers rfl p.conversion.broker)
    hFailure "brokers"
  have hEventTypes := alike_converted
    (hReads .eventTypes rfl p.conversion.eventType)
    hFailure "eventtypes"
  have hSubscribables := alike_subscribables
    (hConcur (.definitions p.subscribableTag))
    (fun coords _ => hReads (.instances coords) rfl _)
    hFailure
  refine alike_build_of_concur ?_ (fun r _ => hConcur r)
    hFailure
  refine alike_collect hBrokers hSubscribables hEventTypes
    ?_
  rintro _ bs ss _ es rfl rfl
  refine (alike_sources (hConcur (.definitions p.sourceTag))
    (fun coords declared _ =>
      hReads (.instances coords) rfl _)
    (fun _ _ => rfl) hFailure).mono ?_ fun _ _ h => h
  rintro found _ rfl
  rfl

/-
  Where answers are equal or both come to nothing, runs end
  in the same way, skip the same and ask the same.
-/
theorem run_of_concurring
    {p : Plan}
    {c : Cluster σ}
    {s : σ}
    {d : Cluster τ}
    {t : τ}
    {A : Request → Except Failure Json →
      Except Failure Json → Prop}
    (hCorresponds : c.Corresponds s d t A)
    (hNothing : ∀ r o o', A r o o' →
      o' = o ∨ r.ComesToNothing o ∧ r.ComesToNothing o') :
    (p.run d t).1 = (p.run c s).1 ∧
      (p.run d t).2.skips = (p.run c s).2.skips ∧
      (p.run d t).2.requests = (p.run c s).2.requests := by
  let w : Twins σ τ := {
    first := c
    firstState := s
    second := d
    secondState := t }
  have hConcur (r : Request) : w.Concur r :=
    ⟨trivial, fun o o' hAnswered =>
      hNothing r o o' (hAnswered.corresponds hCorresponds)⟩
  rcases matches_run (alike_build_of_concurs hConcur) with
    ⟨hStep, hMatches⟩
  refine ⟨Except.eq_of_matches hMatches, ?_, hStep.requests⟩
  have hSkips := hStep.skips
  rwa [List.filter_true, List.filter_true] at hSkips

end Plan

------------------------------------------------------------
-- Absent Listings
------------------------------------------------------------

/-
  An answer is kept, or it is that a listing does not exist
  and the empty list takes its place.
-/
def Request.Voids
    (r : Request)
    (o o' : Except Failure Json) : Prop :=
  o' = o ∨
  r.isListing = true ∧
    (∃ m, o = .error (.cluster (.notFound m))) ∧
    o' = .ok (.arr [])

namespace Cluster

variable {σ : Type}

/-
  A cluster that lists nothing where another says that one
  of some listings does not exist.
-/
def voiding
    (chosen : Request → Bool)
    (c : Cluster σ) : Cluster σ :=
  { c with
    answer := fun r s =>
      let a := c.answer r s
      match a.outcome with
      | .error (.cluster (.notFound _)) =>
          if r.isListing && chosen r then
            { a with outcome := .ok (.arr []) }
          else a
      | _ => a }

/- Only the outcomes of absent listings are changed. -/
theorem voids_voiding
    (chosen : Request → Bool)
    (c : Cluster σ)
    (r : Request)
    (s : σ) :
    r.Voids (c.answer r s).outcome
        ((c.voiding chosen).answer r s).outcome ∧
      ((c.voiding chosen).answer r s).state =
        (c.answer r s).state := by
  unfold voiding Request.Voids
  dsimp only
  split
  · rename_i m hOutcome
    split
    · rename_i hChosen
      rw [Bool.and_eq_true] at hChosen
      exact ⟨Or.inr ⟨hChosen.1, ⟨m, hOutcome⟩, rfl⟩, rfl⟩
    · exact ⟨Or.inl rfl, rfl⟩
  · exact ⟨Or.inl rfl, rfl⟩

/- Any listings of any cluster may be emptied like this. -/
theorem corresponds_voiding
    (chosen : Request → Bool)
    (c : Cluster σ)
    (s : σ) :
    c.Corresponds s (c.voiding chosen) s Request.Voids := by
  intro before r
  have hState (rs : List Request) (s : σ) :
      (c.voiding chosen).after s rs = c.after s rs := by
    induction rs generalizing s with
    | nil => rfl
    | cons r rs ih =>
        change (c.voiding chosen).after
          ((c.voiding chosen).answer r s).state rs = _
        rw [(c.voids_voiding chosen r s).2, ih]
        rfl
  rw [hState]
  exact (c.voids_voiding chosen r _).1

end Cluster

------------------------------------------------------------
-- A Sparse Shop
------------------------------------------------------------

/-
  The replies of a cluster with a shop in which there are
  neither channel subscriptions nor definitions to be listed.
-/
def Shop.sparse : Replies
| .subscriptions | .definitions _ =>
    .error (.cluster (.notFound "none"))
| r => replies known [] [] r

------------------------------------------------------------
-- Built Meshes
------------------------------------------------------------

namespace Plan

variable {σ τ : Type}

/-
  Not found means empty.  Whichever of its absent listings a
  cluster has lists of nothing for instead, a build ends in
  the same way and skips the same.
-/
theorem run_of_absent
    {p : Plan}
    {c : Cluster σ}
    {s : σ}
    {d : Cluster τ}
    {t : τ}
    (hVoids : c.Corresponds s d t Request.Voids) :
    (p.run d t).1 = (p.run c s).1 ∧
      (p.run d t).2.skips = (p.run c s).2.skips := by
  have hSame := run_of_concurring (p := p) hVoids ?_
  · exact ⟨hSame.1, hSame.2.1⟩
  · rintro r o o' (hSame | ⟨hListing, ⟨m, rfl⟩, rfl⟩)
    · exact Or.inl hSame
    · rw [Request.comesToNothing_iff hListing,
        Request.comesToNothing_iff hListing]
      exact Or.inr ⟨rfl, rfl⟩

/-
  The sparse shop is built as the shop is, and so it is when
  its definitions, but not its subscriptions, are said to be
  empty.
-/
theorem sparse_shop_absent :
    let c := Cluster.ofTable Shop.sparse
    let d := c.voiding fun r => r ≠ .subscriptions
    c.Corresponds () d () Request.Voids ∧
    (∃ m, (c.answer (.definitions "any") ()).outcome =
      .error (.cluster (.notFound m))) ∧
    (d.answer (.definitions "any") ()).outcome =
      .ok (.arr []) ∧
    (∃ m, (d.answer .subscriptions ()).outcome =
      .error (.cluster (.notFound m))) ∧
    (Plan.run {} c ()).1.toOption.map Shop.view =
      some [["shop/order"], ["billing", "audit"]] ∧
    (Plan.run {} d ()).1 = (Plan.run {} c ()).1 ∧
    (Plan.run {} d ()).2.skips =
      (Plan.run {} c ()).2.skips := by
  intro c d
  have hVoids : c.Corresponds () d () Request.Voids :=
    c.corresponds_voiding _ ()
  refine ⟨hVoids, ⟨"none", rfl⟩, rfl, ⟨"none", rfl⟩, ?_,
    run_of_absent hVoids⟩
  decide +kernel

end Plan

end EventTopology
