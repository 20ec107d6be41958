import Mathlib
import EventTopology.Proofs.Build.Phases
import EventTopology.Proofs.Build.Steady
import EventTopology.Proofs.Index.Sorting

/-
  This file shows that the order in which event types are
  listed does not matter.  They are sorted before anything
  else is done with them, and where no two have one
  namespace and one name there is only one way to sort them.

  Key definitions include:
    * `Plan.ShufflesEventTypes`
    * `Shop.twoTypes`

  The main results are:
    * `Findings.index_eq_of_perm`
    * `Plan.run_of_shuffled`
-/

------------------------------------------------------------
-- Sorted Event Types
------------------------------------------------------------

namespace EventTopology

/- The namespace and the name of an event type. -/
def EventType.title (e : EventType) : String × String :=
  (e.ns, e.name)

/- An index does not tell in which order it was filled. -/
theorem Findings.index_eq_of_perm
    {bs : List Broker}
    {ss : List Subscribable}
    {es es' : List EventType}
    (hPerm : es'.Perm es)
    (hDistinct : (es.map (·.title)).Nodup) :
    (Findings.listed bs ss es').index =
      (Findings.listed bs ss es).index := by
  have hSorted :
      es'.mergeSort EventType.le = es.mergeSort EventType.le :=
    EventType.mergeSort_eq_of_perm hPerm hDistinct
  simp only [index, providers, listed, Index.addEventTypes,
    hSorted]

------------------------------------------------------------
-- Shuffled Listings
------------------------------------------------------------

namespace Plan

variable {σ τ : Type}

/-
  Answers are equal, but for event types with namespaces and
  names of their own, which may be listed in another order.
-/
def ShufflesEventTypes (p : Plan) :
    Request → Except Failure Json → Except Failure Json →
      Prop
| .eventTypes =>
    Reordered p.conversion.eventType
      fun es => (es.map (·.title)).Nodup
| _ => fun o o' => o' = o

variable {p : Plan} {w : Twins σ τ}

/- What is collected does not depend on the order. -/
theorem alike_collect_of_shuffles
    (hAsk : ∀ r, w.mayAsk r)
    (hShuffles : w.first.Corresponds w.firstState w.second
      w.secondState p.ShufflesEventTypes) :
    Build.Alike w (p.collect w.first) (p.collect w.second)
      (fun found found' => found' = found)
      fun _ _ => True := by
  have hAgree (r : Request) :=
    Twins.agree_of_corresponds (hAsk r) hShuffles
  have hBrokers := alike_converted
    (E := fun _ _ => True)
    ((hAgree .brokers fun _ _ h => h).reads
      p.conversion.broker)
    (fun _ => trivial) "brokers"
  have hEventTypes := alike_reordered (hAsk .eventTypes)
    (fun _ _ hAnswered => hAnswered.corresponds hShuffles)
    "eventtypes"
  have hCollect := alike_collect_of_agree
    (J := fun x x' => x' = x)
    (fun tag => hAgree (.definitions tag) fun _ _ h => h)
    (fun coords => hAgree (.instances coords) fun _ _ h => h)
    hBrokers hEventTypes (fun _ => trivial) ?_
    (fun x x' hSame _ _ => by rw [hSame])
  · refine hCollect.mono ?_ fun _ _ h => h
    rintro found found' ⟨hIndex, hSources⟩
    exact Prod.ext hIndex hSources
  · rintro _ bs ss es es' rfl (rfl | ⟨hPerm, hDistinct⟩)
    · rfl
    · exact Findings.index_eq_of_perm hPerm hDistinct

end Plan

------------------------------------------------------------
-- A Shop with Two Types
------------------------------------------------------------

namespace Shop

/- The type of refunds, which the broker provides too. -/
def refund : Json :=
  resource "shop" "refund"
    [("type", .str "order.refunded"),
     ("reference",
       reference "eventing.knative.dev/v1" "Broker" "main")]

/- The shop with event types in some order. -/
def twoTypes (es : List Json) : Replies
| .eventTypes => .ok (.arr es)
| r => replies known [] [] r

end Shop

------------------------------------------------------------
-- Built Meshes
------------------------------------------------------------

namespace Plan

variable {σ τ : Type}

/-
  Two clusters that differ only in the order of their event
  types have one mesh, and are asked the same for it.
-/
theorem run_of_shuffled
    {p : Plan}
    {c : Cluster σ}
    {s : σ}
    {d : Cluster τ}
    {t : τ}
    {m : Mesh}
    {run : Run σ}
    (hShuffles : c.Corresponds s d t p.ShufflesEventTypes)
    (hRun : p.run c s = (.ok m, run)) :
    ∃ run', p.run d t = (.ok m, run') ∧
      run'.requests = run.requests ∧
      run'.skips = run.skips := by
  let w : Twins σ τ := {
    first := c
    firstState := s
    second := d
    secondState := t }
  have hBuilt : Build.Alike w (p.build c) (p.build d)
      (fun m m' => m' = m) fun _ _ => True := by
    refine alike_build (w := w)
      (alike_collect_of_shuffles (fun _ => trivial)
        hShuffles)
      (fun r hLate => ?_) fun _ => trivial
    refine Twins.agree_of_corresponds trivial hShuffles
      fun o o' hRelated => ?_
    cases r with
    | eventTypes => cases hLate
    | _ => exact hRelated
  rcases matches_run (w := w) hBuilt with ⟨hStep, hMatches⟩
  rcases hRun' : p.run d t with ⟨o, run'⟩
  change w.InStep (p.run c s).2 (p.run d t).2 at hStep
  change (p.run c s).1.Matches (p.run d t).1 _ _ at hMatches
  rw [hRun, hRun'] at hStep hMatches
  rcases hMatches.exists_ok rfl with ⟨_, rfl, rfl⟩
  refine ⟨run', rfl, hStep.requests, ?_⟩
  simpa [w] using hStep.skips

/- The shop's two types may be listed either way. -/
theorem shop_shuffled :
    let c := Cluster.ofTable
      (Shop.twoTypes [Shop.order, Shop.refund])
    let d := Cluster.ofTable
      (Shop.twoTypes [Shop.refund, Shop.order])
    ∃ m run run',
      c.Corresponds () d () ({} : Plan).ShufflesEventTypes ∧
      Plan.run {} c () = (.ok m, run) ∧
      m.eventTypes.map (·.name) = ["order", "refund"] ∧
      Plan.run {} d () = (.ok m, run') ∧
      run'.requests = run.requests ∧
      run'.skips = run.skips := by
  intro c d
  have hView :
      (Plan.run {} c ()).1.toOption.map
          (·.eventTypes.map (·.name)) =
        some ["order", "refund"] := by
    cbv
  have hShuffles : c.Corresponds () d ()
      ({} : Plan).ShufflesEventTypes := by
    intro before r
    cases r with
    | eventTypes =>
        exact reordered_of_decided (List.Perm.swap _ _ _)
          (by decide +kernel)
    | _ => rfl
  rcases exists_run_of_view hView with
    ⟨m, run, hRun, hShown⟩
  rcases run_of_shuffled hShuffles hRun with
    ⟨run', hRun', hRequests, hSkips⟩
  exact ⟨m, run, run', hShuffles, hRun, hShown, hRun',
    hRequests, hSkips⟩

end Plan

end EventTopology
