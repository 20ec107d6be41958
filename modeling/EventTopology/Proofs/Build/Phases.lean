import EventTopology.Proofs.Build.Lockstep
import EventTopology.Proofs.Build.Steps
import Mathlib.Data.List.Perm.Basic

/-
  This file follows two builds in step through their phases.
  Wherever their clusters agree, or both have nothing to
  tell, the builds find the same; a listing that comes in
  another order is converted to the same records in that
  order.

  Key definitions include:
    * `Reordered`
    * `Request.ComesToNothing`
    * `Twins.Concur`
    * `Twins.Reads`
    * `Cluster.Announces`

  The main results are:
    * `Plan.alike_discover_of_concur`
    * `Plan.alike_collect`
    * `Plan.alike_build_of_concur`
    * `Plan.alike_build`
-/

------------------------------------------------------------
-- Listings
------------------------------------------------------------

namespace EventTopology

namespace Build

variable {σ τ : Type}

/- What a build makes of the answer to a listing. -/
def hear
    (name : String) :
    Except Failure Json → Build σ (List Json)
| .ok v => ofExcept (Failure.ofShape v.iterate)
| .error (.cluster (.notFound _)) => do
    tell (.listingNotFound name)
    return []
| .error (.cluster e) => do
    tell (.listingFailed name e.message)
    throw (.listing name e)
| .error f => throw f

theorem list_eq
    (c : Cluster σ)
    (name : String)
    (r : Request) :
    list c name r = attempt c r >>= hear name :=
  rfl

/- Listed resources are had, whatever is told of them. -/
theorem exec_hear
    (name : String)
    {o : Except Failure Json}
    {raws : List Json}
    (hListed : listed? o = some raws)
    (run : Run σ) :
    ∃ events, exec (hear name o) run =
      (.ok raws, { run with events := events }) := by
  rcases o with e | v
  · rcases e with (m | ⟨m, status⟩) | _
    case cluster.notFound =>
      cases hListed
      exact ⟨_, rfl⟩
    all_goals cases hListed
  · have hElements : v.elements? = some raws := hListed
    refine ⟨run.events, ?_⟩
    change exec (ofExcept (Failure.ofShape v.iterate)) run =
      _
    unfold Json.iterate
    rw [hElements]
    rfl

variable {w : Twins σ τ}
variable {E : Failure → Failure → Prop}

/-
  Two listings compare like their answers, which are equal
  or list resources on both sides.
-/
theorem alike_list
    {R : List Json → List Json → Prop}
    {r : Request}
    (hAsk : w.mayAsk r)
    (hReply : ∀ o o', w.Answered r o o' →
      o' = o ∨ ∃ raws raws',
        listed? o = some raws ∧
        listed? o' = some raws' ∧ R raws raws')
    (hSame : ∀ raws, R raws raws)
    (hFailure : ∀ e, E e e)
    (name : String) :
    Alike w (list w.first name r) (list w.second name r)
      R E := by
  rw [list_eq, list_eq]
  refine (alike_attempt hAsk).bind ?_
  intro o o' hAnswered
  rcases hReply o o' hAnswered with
    rfl | ⟨raws, raws', hListed, hListed', hRelated⟩
  · rcases o' with e | v
    · rcases e with (m | ⟨m, status⟩) | _
      case cluster.notFound =>
        exact (alike_tell _ _).bind fun _ _ _ =>
          alike_pure (hSame [])
      case cluster.failed =>
        exact (alike_tell _ _).bind fun _ _ _ =>
          alike_throw (hFailure _)
      all_goals exact alike_throw (hFailure _)
    · exact alike_ofExcept (Except.matches_self _
        (fun raws _ => hSame raws) hFailure)
  · intro run run' hStep
    rcases exec_hear name hListed run with
      ⟨events, hExec⟩
    rcases exec_hear name hListed' run' with
      ⟨events', hExec'⟩
    rw [hExec, hExec']
    exact ⟨{ hStep with }, hRelated⟩

end Build

------------------------------------------------------------
-- Converted Listings
------------------------------------------------------------

/-
  Two answers are equal, or they list the same resources in
  different orders and the records that these convert to
  meet a condition.
-/
def Reordered
    {α : Type}
    (convert : Json → Except Failure α)
    (P : List α → Prop)
    (o o' : Except Failure Json) : Prop :=
  o' = o ∨ ∃ raws raws',
    listed? o = some raws ∧ listed? o' = some raws' ∧
    raws'.Perm raws ∧
    ∀ as, List.Forall₂ (fun raw a => convert raw = .ok a)
      raws as → P as

/-
  A request may be asked, and its answers are equal or list
  resources that convert to the same.
-/
def Twins.Reads
    {σ τ α : Type}
    (w : Twins σ τ)
    (r : Request)
    (convert : Json → Except Failure α) : Prop :=
  w.mayAsk r ∧ ∀ o o', w.Answered r o o' →
    o' = o ∨ ∃ raws raws',
      listed? o = some raws ∧ listed? o' = some raws' ∧
      raws'.mapM convert = raws.mapM convert

/- Where clusters agree, nothing is read differently. -/
theorem Twins.Agree.reads
    {σ τ α : Type}
    {w : Twins σ τ}
    {r : Request}
    (hAgree : w.Agree r)
    (convert : Json → Except Failure α) :
    w.Reads r convert :=
  ⟨hAgree.1, fun o o' hAnswered =>
    Or.inl (hAgree.2 o o' hAnswered)⟩

/- Is a request one for a listing, and not for an identity? -/
def Request.isListing : Request → Bool
| .identity _ _ => false
| _ => true

/-
  An answer comes to nothing: it lists no resources, or it
  gives no identity.
-/
def Request.ComesToNothing
    (r : Request)
    (o : Except Failure Json) : Prop :=
  match r with
  | .identity _ _ =>
      (∃ m, o = .error (.cluster (.notFound m))) ∨
      ∃ v, o = .ok v ∧ v.truthy = false
  | _ => listed? o = some []

/-
  A request may be asked, and its answers are equal or both
  come to nothing.
-/
def Twins.Concur
    {σ τ : Type}
    (w : Twins σ τ)
    (r : Request) : Prop :=
  w.mayAsk r ∧ ∀ o o', w.Answered r o o' →
    o' = o ∨ r.ComesToNothing o ∧ r.ComesToNothing o'

/- Where clusters agree, they concur. -/
theorem Twins.Agree.concurs
    {σ τ : Type}
    {w : Twins σ τ}
    {r : Request}
    (hAgree : w.Agree r) :
    w.Concur r :=
  ⟨hAgree.1, fun o o' hAnswered =>
    Or.inl (hAgree.2 o o' hAnswered)⟩

/- A listing comes to nothing when it lists nothing. -/
theorem Request.comesToNothing_iff
    {r : Request}
    {o : Except Failure Json}
    (hListing : r.isListing = true) :
    r.ComesToNothing o ↔ listed? o = some [] := by
  cases r with
  | identity ref label => cases hListing
  | _ => exact Iff.rfl

/- Nothing is read as nothing. -/
theorem Twins.Concur.reads
    {σ τ α : Type}
    {w : Twins σ τ}
    {r : Request}
    (hConcur : w.Concur r)
    (hListing : r.isListing = true)
    (convert : Json → Except Failure α) :
    w.Reads r convert := by
  refine ⟨hConcur.1, fun o o' hAnswered => ?_⟩
  rcases hConcur.2 o o' hAnswered with hSame | hNothing
  · exact Or.inl hSame
  · rw [Request.comesToNothing_iff hListing,
      Request.comesToNothing_iff hListing] at hNothing
    exact Or.inr ⟨[], [], hNothing.1, hNothing.2, rfl⟩

/- Resources in another order give records in that order. -/
theorem Failure.matches_mapM_of_perm
    {α : Type}
    {f : Json → Except Failure α}
    {raws raws' : List Json}
    (hPerm : raws'.Perm raws) :
    (raws.mapM f).Matches (raws'.mapM f)
      (fun as as' =>
        List.Forall₂ (fun raw a => f raw = .ok a)
          raws as ∧ as'.Perm as)
      fun _ _ => True := by
  rcases hOk : raws.mapM f with e | as
  · rcases hOk' : raws'.mapM f with e' | as'
    · exact trivial
    · rw [mapM_eq_ok_iff] at hOk'
      rcases List.perm_comp_forall₂ hPerm.symm hOk' with
        ⟨as, hEach, _⟩
      rw [mapM_eq_ok_iff.mpr hEach] at hOk
      cases hOk
  · rw [mapM_eq_ok_iff] at hOk
    rcases List.perm_comp_forall₂ hPerm hOk with
      ⟨as', hEach', hPerm'⟩
    rw [mapM_eq_ok_iff.mpr hEach']
    exact ⟨hOk, hPerm'⟩

/- A condition on given records can be decided. -/
theorem reordered_of_decided
    {α : Type}
    {convert : Json → Except Failure α}
    {P : List α → Prop}
    [DecidablePred P]
    {raws raws' : List Json}
    (hPerm : raws'.Perm raws)
    (hDecided : ((raws.mapM convert).toOption.all fun as =>
      decide (P as)) = true) :
    Reordered convert P (.ok (.arr raws))
      (.ok (.arr raws')) := by
  refine Or.inr ⟨raws, raws', rfl, rfl, hPerm, ?_⟩
  intro as hEach
  rw [Failure.mapM_eq_ok_iff.mpr hEach] at hDecided
  exact of_decide_eq_true hDecided

namespace Plan

open Build

variable {σ τ α : Type}
variable {w : Twins σ τ}
variable {E : Failure → Failure → Prop}

/- Listings that read alike give the same records. -/
theorem alike_converted
    {r : Request}
    {convert : Json → Except Failure α}
    (hReads : w.Reads r convert)
    (hFailure : ∀ e, E e e)
    (name : String) :
    Alike w
      (do convertAll convert
            (← Build.list w.first name r))
      (do convertAll convert
            (← Build.list w.second name r))
      (fun as as' => as' = as) E := by
  refine (alike_list
    (R := fun raws raws' =>
      raws'.mapM convert = raws.mapM convert)
    hReads.1 hReads.2 (fun _ => rfl) hFailure name).bind ?_
  intro raws raws' hSame
  unfold convertAll
  rw [hSame]
  exact alike_ofExcept
    (Except.matches_self _ (fun _ _ => rfl) hFailure)

/- One that is reordered gives the same in another order. -/
theorem alike_reordered
    {r : Request}
    {convert : Json → Except Failure α}
    {P : List α → Prop}
    (hAsk : w.mayAsk r)
    (hReply : ∀ o o', w.Answered r o o' →
      Reordered convert P o o')
    (name : String) :
    Alike w
      (do convertAll convert
            (← Build.list w.first name r))
      (do convertAll convert
            (← Build.list w.second name r))
      (fun as as' => as' = as ∨ as'.Perm as ∧ P as)
      fun _ _ => True := by
  refine (alike_list
    (R := fun raws raws' => raws' = raws ∨
      raws'.Perm raws ∧
        ∀ as, List.Forall₂ (fun raw a =>
          convert raw = .ok a) raws as → P as)
    hAsk ?_ (fun _ => Or.inl rfl)
    (fun _ => trivial) name).bind ?_
  · intro o o' hAnswered
    rcases hReply o o' hAnswered with
      hSame | ⟨raws, raws', hListed, hListed', hOrder⟩
    · exact Or.inl hSame
    · exact Or.inr
        ⟨raws, raws', hListed, hListed', Or.inr hOrder⟩
  · rintro raws raws' (rfl | ⟨hPerm, hMeets⟩)
    · exact alike_ofExcept (Except.matches_self _
        (fun _ _ => Or.inl rfl) fun _ => trivial)
    · refine alike_ofExcept
        ((Failure.matches_mapM_of_perm hPerm).mono ?_
          fun _ _ h => h)
      rintro as as' ⟨hEach, hPerm'⟩
      exact Or.inr ⟨hPerm', hMeets as hEach⟩

end Plan

------------------------------------------------------------
-- Discovery
------------------------------------------------------------

namespace Discovery

variable {σ : Type}

/- What discovery makes of the answer to its listing. -/
def hear
    (tag : String) :
    Except Failure Json → Build σ (List KindCoordinates)
| .ok found => do
    let kinds ← Build.ofExcept (coordinates found)
    Build.tell
      (.kindsDiscovered tag (kinds.map (·.resourceName)))
    return kinds
| .error (.cluster (.notFound _)) => do
    Build.tell (.definitionsNotFound tag)
    return []
| .error (.cluster e) => throw (.definitions tag e)
| .error f => throw f

theorem discover_eq
    (c : Cluster σ)
    (tag : String) :
    discover c tag =
      Build.attempt c (.definitions tag) >>= hear tag :=
  rfl

/- Listed definitions give their coordinates, or none do. -/
theorem exec_hear
    (tag : String)
    {o : Except Failure Json}
    {raws : List Json}
    (hListed : listed? o = some raws)
    (run : Run σ) :
    ∃ events, Build.exec (hear tag o) run =
      (raws.mapM Definition.coordinates,
        { run with events := events }) := by
  rcases o with e | v
  · rcases e with (m | ⟨m, status⟩) | _
    case cluster.notFound =>
      cases hListed
      exact ⟨_, rfl⟩
    all_goals cases hListed
  · have hElements : v.elements? = some raws := hListed
    have hCoordinates : coordinates v =
        raws.mapM Definition.coordinates := by
      unfold coordinates Json.iterate
      rw [hElements]
      rfl
    unfold hear
    rw [Build.exec_bind, Build.exec_ofExcept, hCoordinates]
    cases raws.mapM Definition.coordinates with
    | error e => exact ⟨run.events, rfl⟩
    | ok kinds => exact ⟨_, rfl⟩

end Discovery

/-
  At some time a cluster lists a definition with a tag that
  has these coordinates.
-/
def Cluster.Announces
    {σ : Type}
    (c : Cluster σ)
    (s : σ)
    (tag : String)
    (coords : KindCoordinates) : Prop :=
  ∃ before raws raw,
    listed? (c.answer (.definitions tag)
      (c.after s before)).outcome = some raws ∧
    raw ∈ raws ∧ Definition.coordinates raw = .ok coords

namespace Plan

open Build

variable {σ τ : Type}
variable {w : Twins σ τ}
variable {E : Failure → Failure → Prop}

/-
  Two discoveries compare like the coordinates of what is
  listed, if the answers list anything.
-/
theorem alike_discover
    {tag : String}
    {R : List KindCoordinates → List KindCoordinates → Prop}
    (hAsk : w.mayAsk (.definitions tag))
    (hReply : ∀ o o', w.Answered (.definitions tag) o o' →
      (listed? o = none ∧ o' = o) ∨
      ∃ raws raws',
        listed? o = some raws ∧ listed? o' = some raws' ∧
        (raws.mapM Definition.coordinates).Matches
          (raws'.mapM Definition.coordinates) R E)
    (hFailure : ∀ e, E e e) :
    Alike w (Discovery.discover w.first tag)
      (Discovery.discover w.second tag) R E := by
  rw [Discovery.discover_eq, Discovery.discover_eq]
  refine (alike_attempt hAsk).bind ?_
  intro o o' hAnswered
  rcases hReply o o' hAnswered with
    ⟨hNone, rfl⟩ |
      ⟨raws, raws', hListed, hListed', hMatches⟩
  · rcases o' with e | v
    · rcases e with (m | ⟨m, status⟩) | _
      case cluster.notFound => cases hNone
      all_goals exact alike_throw (hFailure _)
    · have hFails : (Discovery.coordinates v).Matches
          (Discovery.coordinates v) R E := by
        refine Except.matches_self _ (fun kinds hOk => ?_)
          hFailure
        rcases coordinates_eq_ok hOk with
          ⟨raws, hElements, _⟩
        have hListed : v.elements? = none := hNone
        rw [hListed] at hElements
        cases hElements
      refine (alike_ofExcept hFails).bind ?_
      intro kinds kinds' hRelated
      exact (alike_tell _ _).bind fun _ _ _ =>
        alike_pure hRelated
  · intro run run' hStep
    rcases Discovery.exec_hear tag hListed run with
      ⟨events, hExec⟩
    rcases Discovery.exec_hear tag hListed' run' with
      ⟨events', hExec'⟩
    rw [hExec, hExec']
    exact ⟨{ hStep with }, hMatches⟩

/- Discovery on which clusters concur gives the same. -/
theorem alike_discover_of_concur
    {tag : String}
    (hConcur : w.Concur (.definitions tag))
    (hFailure : ∀ e, E e e) :
    Alike w (Discovery.discover w.first tag)
      (Discovery.discover w.second tag)
      (fun kinds kinds' => kinds' = kinds ∧
        ∀ coords ∈ kinds,
          w.first.Announces w.firstState tag coords)
      E := by
  refine alike_discover hConcur.1 ?_ hFailure
  intro o o' hAnswered
  have hListed : (listed? o = none ∧ o' = o) ∨
      ∃ raws, listed? o = some raws ∧
        listed? o' = some raws := by
    rcases hConcur.2 o o' hAnswered with
      rfl | ⟨hNothing, hNothing'⟩
    · cases hSame : listed? o' with
      | none => exact Or.inl ⟨rfl, rfl⟩
      | some raws => exact Or.inr ⟨raws, rfl, rfl⟩
    · exact Or.inr ⟨[], hNothing, hNothing'⟩
  refine hListed.imp_right ?_
  rintro ⟨raws, hFirst, hSecond⟩
  refine ⟨raws, raws, hFirst, hSecond,
    Except.matches_self _ (fun kinds hOk => ?_) hFailure⟩
  refine ⟨rfl, fun coords hMem => ?_⟩
  have hEach := Failure.mapM_eq_ok_iff.mp hOk
  rcases hEach.exists_left_of_mem hMem with
    ⟨raw, hRaw, hCoords⟩
  rcases hAnswered with ⟨before, hOutcome, _⟩
  refine ⟨before, raws, raw, ?_, hRaw, hCoords⟩
  rw [← hOutcome]
  exact hFirst

end Plan

------------------------------------------------------------
-- Providers and Sources
------------------------------------------------------------

namespace Plan

open Build

variable {σ τ : Type}
variable {w : Twins σ τ}
variable {E : Failure → Failure → Prop}
variable {p : Plan}

theorem alike_subscribables
    (hKinds : w.Concur (.definitions p.subscribableTag))
    (hInstances : ∀ coords,
      w.first.Announces w.firstState p.subscribableTag
        coords →
      w.Reads (.instances coords)
        (p.conversion.subscribable coords))
    (hFailure : ∀ e, E e e) :
    Alike w (p.subscribables w.first)
      (p.subscribables w.second)
      (fun ss ss' => ss' = ss) E := by
  refine (alike_discover_of_concur hKinds hFailure).bind ?_
  rintro _ kinds ⟨rfl, hAnnounced⟩
  have hEach := alike_mapM_same (w := w) (E := E) kinds
    fun coords hMem =>
      alike_converted
        (hInstances coords (hAnnounced coords hMem))
        hFailure coords.listing
  refine hEach.map ?_
  rintro _ parts rfl
  rfl

/- The sources of one kind, where instances read alike. -/
theorem alike_sourcesOf
    {coords : KindCoordinates}
    {declared : List String}
    {x x' : Index}
    (hInstances : w.Reads (.instances coords)
      (p.conversion.source coords (.ofTexts declared)))
    (hMatching : ∀ ns declared,
      x'.matching ns declared = x.matching ns declared)
    (hFailure : ∀ e, E e e) :
    Alike w (p.sourcesOf w.first x coords declared)
      (p.sourcesOf w.second x' coords declared)
      (fun ss ss' => ss' = ss) E := by
  unfold sourcesOf
  rw [← bind_assoc, ← bind_assoc]
  refine (alike_converted hInstances hFailure _).map ?_
  rintro _ found rfl
  exact List.map_congr_left fun s _ => by rw [hMatching]

/- A kind is skipped by both builds or by none. -/
theorem alike_sourcesOfKind
    {coords : KindCoordinates}
    {x x' : Index}
    (hInstances : ∀ declared,
      p.conversion.declaredTypes coords = .ok declared →
      w.Reads (.instances coords)
        (p.conversion.source coords (.ofTexts declared)))
    (hMatching : ∀ ns declared,
      x'.matching ns declared = x.matching ns declared)
    (hFailure : ∀ e, E e e) :
    Alike w (p.sourcesOfKind w.first x coords)
      (p.sourcesOfKind w.second x' coords)
      (fun ss ss' => ss' = ss) E := by
  unfold sourcesOfKind
  cases hDeclared : p.conversion.declaredTypes coords with
  | error f =>
      refine (alike_tell _ _).bind fun _ _ _ => ?_
      refine (alike_skip _).bind fun _ _ _ => ?_
      exact alike_pure rfl
  | ok declared =>
      exact alike_sourcesOf (hInstances declared hDeclared)
        hMatching hFailure

/- All sources, where the same kinds are discovered. -/
theorem alike_sources
    {x x' : Index}
    (hKinds : w.Concur (.definitions p.sourceTag))
    (hInstances : ∀ coords declared,
      w.first.Announces w.firstState p.sourceTag coords →
      w.Reads (.instances coords)
        (p.conversion.source coords (.ofTexts declared)))
    (hMatching : ∀ ns declared,
      x'.matching ns declared = x.matching ns declared)
    (hFailure : ∀ e, E e e) :
    Alike w (p.sources w.first x) (p.sources w.second x')
      (fun ss ss' => ss' = ss) E := by
  refine (alike_discover_of_concur hKinds hFailure).bind ?_
  rintro _ kinds ⟨rfl, hAnnounced⟩
  refine (alike_mapM_same kinds fun coords hMem => ?_).map
    fun parts parts' hSame => congrArg List.flatten hSame
  exact alike_sourcesOfKind
    (fun declared _ =>
      hInstances coords declared (hAnnounced coords hMem))
    hMatching hFailure

end Plan

------------------------------------------------------------
-- Collecting
------------------------------------------------------------

namespace Plan

open Build

variable {σ τ : Type}
variable {w : Twins σ τ}
variable {E : Failure → Failure → Prop}
variable {p : Plan}

/-
  What is collected compares like the brokers, the event
  types and the sources of the two builds.
-/
theorem alike_collect
    {R : List Broker → List Broker → Prop}
    {S : List EventType → List EventType → Prop}
    {Q : Index × List Source → Index × List Source → Prop}
    (hBrokers : Alike w (p.brokers w.first)
      (p.brokers w.second) R E)
    (hSubscribables : Alike w (p.subscribables w.first)
      (p.subscribables w.second) (fun ss ss' => ss' = ss) E)
    (hEventTypes : Alike w (p.eventTypes w.first)
      (p.eventTypes w.second) S E)
    (hSources : ∀ bs bs' ss es es', R bs bs' → S es es' →
      let x := (Findings.listed bs ss es).index
      let x' := (Findings.listed bs' ss es').index
      Alike w (p.sources w.first x) (p.sources w.second x')
        (fun found found' => Q (x, found) (x', found')) E) :
    Alike w (p.collect w.first) (p.collect w.second) Q E := by
  unfold collect providers
  rw [bind_assoc, bind_assoc]
  refine hBrokers.bind fun bs bs' hBs => ?_
  rw [bind_assoc, bind_assoc]
  refine hSubscribables.bind ?_
  rintro _ ss rfl
  rw [pure_bind, pure_bind]
  refine hEventTypes.bind fun es es' hEs => ?_
  refine (alike_tellAll _ _).bind fun _ _ _ => ?_
  exact (hSources bs bs' ss es es' hBs hEs).map
    fun _ _ hFound => hFound

/-
  Where kinds and instances are answered alike, the sources
  are the same if the indices match the same event types.
-/
theorem alike_collect_of_agree
    {R : List Broker → List Broker → Prop}
    {S : List EventType → List EventType → Prop}
    {J : Index → Index → Prop}
    (hKinds : ∀ tag, w.Agree (.definitions tag))
    (hInstances : ∀ coords, w.Agree (.instances coords))
    (hBrokers : Alike w (p.brokers w.first)
      (p.brokers w.second) R E)
    (hEventTypes : Alike w (p.eventTypes w.first)
      (p.eventTypes w.second) S E)
    (hFailure : ∀ e, E e e)
    (hIndex : ∀ bs bs' ss es es', R bs bs' → S es es' →
      J (Findings.listed bs ss es).index
        (Findings.listed bs' ss es').index)
    (hMatching : ∀ x x', J x x' → ∀ ns declared,
      x'.matching ns declared = x.matching ns declared) :
    Alike w (p.collect w.first) (p.collect w.second)
      (fun found found' =>
        J found.1 found'.1 ∧ found'.2 = found.2) E := by
  have hSubscribables := alike_subscribables
    (hKinds p.subscribableTag).concurs
    (fun coords _ => (hInstances coords).reads _) hFailure
  refine alike_collect hBrokers hSubscribables hEventTypes
    fun bs bs' ss es es' hBs hEs => ?_
  have hSame := hIndex bs bs' ss es es' hBs hEs
  have hSources := alike_sources (hKinds p.sourceTag).concurs
    (fun coords _ _ => (hInstances coords).reads _)
    (hMatching _ _ hSame) hFailure
  exact hSources.mono (fun _ _ hFound => ⟨hSame, hFound⟩)
    fun _ _ h => h

theorem alike_subscriptions
    {R S : List Subscription → List Subscription → Prop}
    (hTriggers : Alike w
      (do convertAll Conversion.trigger
            (← Build.list w.first "triggers" .triggers))
      (do convertAll Conversion.trigger
            (← Build.list w.second "triggers" .triggers))
      R E)
    (hOthers : Alike w
      (do convertAll Conversion.channelSubscription
            (← Build.list w.first "subscriptions"
              .subscriptions))
      (do convertAll Conversion.channelSubscription
            (← Build.list w.second "subscriptions"
              .subscriptions))
      S E) :
    Alike w (Plan.subscriptions w.first)
      (Plan.subscriptions w.second)
      (fun ss ss' => ∃ ts ts' us us', R ts ts' ∧ S us us' ∧
        ss = ts ++ us ∧ ss' = ts' ++ us') E := by
  unfold subscriptions
  rw [← bind_assoc, ← bind_assoc]
  refine hTriggers.bind fun ts ts' hTs => ?_
  rw [← bind_assoc, ← bind_assoc]
  refine hOthers.bind fun us us' hUs => ?_
  exact alike_pure ⟨ts, ts', us, us', hTs, hUs, rfl, rfl⟩

end Plan

------------------------------------------------------------
-- Completing
------------------------------------------------------------

namespace Consumption

open Build
open Log (SubscriptionOutcome)

/- What a subscription makes of the answer to its lookup. -/
def hear
    {σ : Type}
    (x : Index)
    (s : Subscription)
    (target : String)
    (ref : ObjectReference) :
    Except Failure Json → Build σ SubscriptionOutcome
| .ok identity => return resolve x s target ref identity
| .error (.cluster (.notFound _)) =>
    return .noIdentity ref.key
| .error (.cluster e) =>
    return .lookupFailed (Failure.lookupWords ref.key e)
| .error f => throw f

theorem outcome_eq
    {σ : Type}
    (c : Cluster σ)
    (label : String)
    (x : Index)
    (s : Subscription) :
    outcome c label x s =
      match settle x s with
      | .inl o => pure o
      | .inr (target, ref) =>
          attempt c (.identity ref label) >>=
            hear x s target ref :=
  rfl

variable {σ τ : Type}
variable {w : Twins σ τ}
variable {E : Failure → Failure → Prop}
variable {label : String} {x : Index}

/-
  A subscription has an outcome whatever the cluster answers,
  and an identity only if one is found.  A failure that is
  not the cluster's is thrown.
-/
theorem hear_cases
    (x : Index)
    (u : Subscription)
    (target : String)
    (ref : ObjectReference)
    (o : Except Failure Json) :
    (∃ told, (hear x u target ref o : Build σ _) = pure told ∧
      (∀ f, o = .error f → ∃ cause, f = .cluster cause) ∧
      ∀ v ids, told = .resolved v ids →
        o = .ok v ∧ v.truthy = true) ∨
    ∃ f, o = .error f ∧ (∀ cause, f ≠ .cluster cause) ∧
      (hear x u target ref o : Build σ _) = throw f := by
  rcases o with e | v
  · rcases e with (m | ⟨m, status⟩) | _
    case cluster.notFound | cluster.failed =>
      refine Or.inl ⟨_, rfl, ?_, fun _ _ => nofun⟩
      rintro _ ⟨⟩
      exact ⟨_, rfl⟩
    all_goals
      exact Or.inr ⟨_, rfl, fun _ => nofun, rfl⟩
  · refine Or.inl ⟨_, rfl, fun _ => nofun, ?_⟩
    intro w ids hResolved
    unfold resolve at hResolved
    split at hResolved
    · rename_i hTruthy
      cases hResolved
      exact ⟨rfl, hTruthy⟩
    · cases hResolved

/- A lookup that comes to nothing finds no identity. -/
theorem hear_nothing
    {r : Request}
    {ref : ObjectReference}
    {u : Subscription}
    {target : String}
    {o : Except Failure Json}
    (hRequest : r = .identity ref label)
    (hNothing : r.ComesToNothing o) :
    (hear x u target ref o : Build σ _) =
      pure (.noIdentity ref.key) := by
  subst hRequest
  rcases hNothing with ⟨m, rfl⟩ | ⟨v, rfl, hFalse⟩
  · rfl
  · unfold hear resolve
    simp only [hFalse]
    rfl

/- A subscriber that is looked up alike has one outcome. -/
theorem alike_outcome
    (hLookups : ∀ ref, w.Concur (.identity ref label))
    (hFailure : ∀ e, E e e)
    (s : Subscription) :
    Alike w (outcome w.first label x s)
      (outcome w.second label x s)
      (fun o o' => o' = o) E := by
  rw [outcome_eq, outcome_eq]
  cases settle x s with
  | inl o => exact alike_pure rfl
  | inr found =>
      rcases found with ⟨target, ref⟩
      refine (alike_attempt (hLookups ref).1).bind ?_
      intro o o' hAnswered
      rcases (hLookups ref).2 o o' hAnswered with
        rfl | ⟨hNothing, hNothing'⟩
      · rcases o' with e | v
        · rcases e with (m | ⟨m, status⟩) | _
          case cluster.notFound | cluster.failed =>
            exact alike_pure rfl
          all_goals exact alike_throw (hFailure _)
        · exact alike_pure rfl
      · rw [hear_nothing rfl hNothing,
          hear_nothing rfl hNothing']
        exact alike_pure rfl

theorem alike_process
    (hLookups : ∀ ref, w.Concur (.identity ref label))
    (hFailure : ∀ e, E e e)
    (known : Consumption)
    (s : Subscription) :
    Alike w (process w.first label x known s)
      (process w.second label x known s)
      (fun known known' => known' = known) E := by
  refine (alike_outcome hLookups hFailure s).bind ?_
  rintro _ o rfl
  refine (alike_tell _ _).bind fun _ _ _ => ?_
  cases o with
  | resolved v ids =>
      exact alike_ofExcept
        (Except.matches_self _ (fun _ _ => rfl) hFailure)
  | lookupFailed words =>
      exact (alike_skip _).bind fun _ _ _ => alike_pure rfl
  | _ => exact alike_pure rfl

end Consumption

namespace Plan

open Build

variable {σ τ : Type}
variable {w : Twins σ τ}
variable {E : Failure → Failure → Prop}
variable {p : Plan}

theorem alike_complete
    (hLookups : ∀ ref,
      w.Concur (.identity ref p.identityLabel))
    (hFailure : ∀ e, E e e)
    (found : Index × List Source)
    (ss : List Subscription) :
    Alike w (p.complete w.first found ss)
      (p.complete w.second found ss)
      (fun m m' => m' = m) E := by
  have hStep (s : Subscription) (_ : s ∈ ss)
      (known known' : Consumption)
      (hSame : known' = known) :
      Alike w
        (Consumption.process w.first p.identityLabel
          found.1 known s)
        (Consumption.process w.second p.identityLabel
          found.1 known' s)
        (fun known known' => known' = known) E := by
    subst hSame
    exact Consumption.alike_process hLookups hFailure _ s
  refine (alike_foldlM ss hStep rfl).bind ?_
  rintro _ consumed rfl
  exact (alike_tell _ _).bind fun _ _ _ => alike_pure rfl

/-
  Builds that collect the same, over clusters that concur on
  all that concerns subscriptions, give the same mesh.
-/
theorem alike_build_of_concur
    (hCollect : Alike w (p.collect w.first)
      (p.collect w.second) (fun found found' =>
        found' = found) E)
    (hConcur : ∀ r, r.forSubscriptions = true → w.Concur r)
    (hFailure : ∀ e, E e e) :
    Alike w (p.build w.first) (p.build w.second)
      (fun m m' => m' = m) E := by
  rw [build_eq, build_eq]
  refine hCollect.bind ?_
  rintro _ found rfl
  refine (alike_subscriptions
    (alike_converted ((hConcur _ rfl).reads rfl _)
      hFailure _)
    (alike_converted ((hConcur _ rfl).reads rfl _)
      hFailure _)).bind ?_
  rintro _ _ ⟨ts, _, us, _, rfl, rfl, rfl, rfl⟩
  exact alike_complete (fun ref => hConcur _ rfl) hFailure
    found _

/- Where clusters agree, they concur. -/
theorem alike_build
    (hCollect : Alike w (p.collect w.first)
      (p.collect w.second) (fun found found' =>
        found' = found) E)
    (hAgree : ∀ r, r.forSubscriptions = true → w.Agree r)
    (hFailure : ∀ e, E e e) :
    Alike w (p.build w.first) (p.build w.second)
      (fun m m' => m' = m) E :=
  alike_build_of_concur hCollect
    (fun r hLate => (hAgree r hLate).concurs) hFailure

end Plan

end EventTopology
