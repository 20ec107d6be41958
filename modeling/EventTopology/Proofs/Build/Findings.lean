import EventTopology.Build.Plan
import EventTopology.Proofs.Build.Hearing

/-
  This file says what a build that gives a mesh has found:
  the records that its listings convert to, and for each
  subscription what the lookup of its subscriber gave.  The
  mesh is a function of these findings alone.

  Key definitions include:
    * `Answers.Yields`
    * `Turn`
    * `Findings`
    * `Findings.mesh`
    * `Plan.Finds`
-/

------------------------------------------------------------
-- Outcomes of Lists
------------------------------------------------------------

namespace List.Forall₂

variable {α β : Type} {R : α → β → Prop}

/- What stands on the right has a partner on the left. -/
theorem exists_left_of_mem
    {as : List α}
    {bs : List β}
    {b : β}
    (hAll : List.Forall₂ R as bs)
    (hMem : b ∈ bs) :
    ∃ a ∈ as, R a b := by
  induction hAll with
  | nil => cases hMem
  | cons hR _ ih =>
      rcases List.mem_cons.mp hMem with rfl | hMem
      · exact ⟨_, List.mem_cons_self, hR⟩
      · rcases ih hMem with ⟨a, hA, hRest⟩
        exact ⟨a, List.mem_cons_of_mem _ hA, hRest⟩

end List.Forall₂

namespace Except

/- Composed outcomes are values just when both parts are. -/
theorem bind_eq_ok_iff
    {ε α β : Type}
    {e : Except ε α}
    {f : α → Except ε β}
    {z : β} :
    (e >>= f) = .ok z ↔ ∃ a, e = .ok a ∧ f a = .ok z := by
  cases e with
  | error e => simp [bind, Except.bind]
  | ok a => simp [bind, Except.bind]

end Except

namespace EventTopology

namespace Failure

variable {α β : Type}

/- A list is converted just when every element is. -/
theorem mapM_eq_ok_iff
    {f : α → Except Failure β}
    {as : List α}
    {bs : List β} :
    as.mapM f = .ok bs ↔
      List.Forall₂ (fun a b => f a = .ok b) as bs := by
  induction as generalizing bs with
  | nil =>
      rw [List.mapM_nil, List.forall₂_nil_left_iff]
      exact ⟨fun h => (Except.ok.inj h).symm,
        fun h => congrArg Except.ok h.symm⟩
  | cons a as ih =>
      rw [List.mapM_cons, List.forall₂_cons_left_iff]
      simp only [Except.bind_eq_ok_iff, ih]
      constructor
      · rintro ⟨b, hb, bs', hbs', hPure⟩
        cases hPure
        exact ⟨b, bs', hb, hbs', rfl⟩
      · rintro ⟨b, bs', hb, hbs', rfl⟩
        exact ⟨b, hb, bs', hbs', rfl⟩

end Failure

------------------------------------------------------------
-- Listings
------------------------------------------------------------

/-
  The resources that an answer lists.  There are none where
  what was asked for does not exist.
-/
def listed? : Except Failure Json → Option (List Json)
| .ok v => v.elements?
| .error (.cluster (.notFound _)) => some []
| .error _ => none

namespace Answers

variable {α : Type}

/- A request was answered with resources. -/
def Lists
    (answers : Answers)
    (r : Request)
    (raws : List Json) : Prop :=
  ∃ o, answers r o ∧ listed? o = some raws

/- The resources of a listing, each of them converted. -/
def Yields
    (answers : Answers)
    (r : Request)
    (convert : Json → Except Failure α)
    (as : List α) : Prop :=
  ∃ raws, answers.Lists r raws ∧
    List.Forall₂ (fun raw a => convert raw = .ok a) raws as

/- The coordinates of the kinds with a tag. -/
def Kinds
    (answers : Answers)
    (tag : String)
    (kinds : List KindCoordinates) : Prop :=
  answers.Yields (.definitions tag)
    Definition.coordinates kinds

end Answers

------------------------------------------------------------
-- Turns of Subscriptions
------------------------------------------------------------

/-
  The turn of a subscription, with what the lookup of its
  subscriber gave where there was a lookup.
-/
structure Turn where
  subscription : Subscription
  answer : Option (Except Failure Json)

namespace Turn

open Consumption (settle resolve)
open Log (SubscriptionOutcome)

/- The answer is one that was given to the lookup. -/
def Heard
    (answers : Answers)
    (label : String)
    (x : Index)
    (t : Turn) : Prop :=
  match settle x t.subscription with
  | .inl _ => t.answer = none
  | .inr (_, ref) =>
      ∃ o, t.answer = some o ∧
        answers (.identity ref label) o

/- What becomes of the subscription. -/
def outcome (x : Index) (t : Turn) : SubscriptionOutcome :=
  match settle x t.subscription with
  | .inl o => o
  | .inr (target, ref) =>
      match t.answer with
      | some (.ok v) =>
          resolve x t.subscription target ref v
      | some (.error (.cluster (.failed m status))) =>
          .lookupFailed
            (Failure.lookupWords ref.key (.failed m status))
      | _ => .noIdentity ref.key

/- The identity that was found, if there is one. -/
def identity? (t : Turn) : Option Json :=
  match t.answer with
  | some (.ok v) => if v.truthy then some v else none
  | _ => none

/- The ids of the event types that are received. -/
def ids (x : Index) (t : Turn) : List String :=
  match t.subscription.target with
  | none => []
  | some target => x.received target t.subscription

/- File the found identity under what is received. -/
def take
    (x : Index)
    (known : Consumption)
    (t : Turn) : Consumption :=
  match t.identity? with
  | none => known
  | some v => (t.ids x).foldl (Consumption.file v) known

/- What is noted as skipped in the turn. -/
def skipped (t : Turn) : List SkipReason :=
  match t.answer with
  | some (.error (.cluster (.failed _ _))) => [.lookup]
  | _ => []

/-
  The turn does not end the build: only the cluster failed,
  if anything did, and an identity can be filed.
-/
structure GoesOn (x : Index) (t : Turn) : Prop where
  cluster : ∀ e, t.answer = some (.error e) →
    ∃ cause, e = .cluster cause
  files : ∀ v, t.identity? = some v →
    v.isKey = true ∨ t.ids x = []

end Turn

------------------------------------------------------------
-- Findings
------------------------------------------------------------

/- What a build finds, in the order in which it is found. -/
structure Findings where
  brokers : List Broker
  subscribables : List Subscribable
  eventTypes : List EventType
  /-
    The sources of each kind, or `none` for a kind whose
    declaration cannot be read.
  -/
  sources : List (Option (List Source))
  turns : List Turn

namespace Findings

/- What is found by listing providers and event types. -/
def listed
    (bs : List Broker)
    (ss : List Subscribable)
    (es : List EventType) : Findings :=
  ⟨bs, ss, es, [], []⟩

/- The index of the providers alone. -/
def providers (f : Findings) : Index :=
  f.subscribables.foldl Index.addSubscribable
    (f.brokers.foldl Index.addBroker {})

/- The index of everything, with event types linked. -/
def index (f : Findings) : Index :=
  (f.providers.addEventTypes f.eventTypes).link.1

/- The subscriptions in order. -/
def subscriptions (f : Findings) : List Subscription :=
  f.turns.map (·.subscription)

/- Who consumes what, when all turns are over. -/
def consumed (f : Findings) : Consumption :=
  f.turns.foldl (Turn.take f.index) []

/- The mesh of the findings. -/
def mesh (f : Findings) : Mesh :=
  Mesh.ofIndex f.index
    (f.sources.flatMap (·.getD [])) f.consumed

/- Everything that was skipped, in order. -/
def skipped (f : Findings) : List SkipReason :=
  (f.sources.filter (·.isNone)).map
      (fun _ => .declaration) ++
    f.turns.flatMap (·.skipped)

end Findings

/- A source with the ids of the event types it may send. -/
def Index.matched (x : Index) (s : Source) : Source :=
  { s with
    providedEventTypes := x.matching s.ns s.declaredTypes }

namespace Plan

/- The subscribables of all kinds with the plan's tag. -/
def FindsSubscribables
    (p : Plan)
    (answers : Answers)
    (ss : List Subscribable) : Prop :=
  ∃ kinds parts,
    answers.Kinds p.subscribableTag kinds ∧
    List.Forall₂ (fun coords part =>
      answers.Yields (.instances coords)
        (p.conversion.subscribable coords) part)
      kinds parts ∧
    ss = parts.flatten

/-
  The sources of one kind, matched to event types, unless
  the kind's declaration cannot be read.
-/
def FindsSourcesOf
    (p : Plan)
    (answers : Answers)
    (x : Index)
    (coords : KindCoordinates)
    (part : Option (List Source)) : Prop :=
  match p.conversion.declaredTypes coords with
  | .error _ => part = none
  | .ok declared =>
      ∃ found,
        answers.Yields (.instances coords)
          (p.conversion.source coords (.ofTexts declared))
          found ∧
        part = some (found.map x.matched)

/- The sources of all kinds with the plan's tag. -/
def FindsSources
    (p : Plan)
    (answers : Answers)
    (x : Index)
    (parts : List (Option (List Source))) : Prop :=
  ∃ kinds, answers.Kinds p.sourceTag kinds ∧
    List.Forall₂ (p.FindsSourcesOf answers x) kinds parts

/- All triggers, then all channel subscriptions. -/
def FindsSubscriptions
    (answers : Answers)
    (ss : List Subscription) : Prop :=
  ∃ triggers others,
    answers.Yields .triggers Conversion.trigger triggers ∧
    answers.Yields .subscriptions
      Conversion.channelSubscription others ∧
    ss = triggers ++ others

/- A build under a plan finds this in the answers given. -/
structure Finds
    (p : Plan)
    (answers : Answers)
    (f : Findings) : Prop where
  brokers :
    answers.Yields .brokers p.conversion.broker f.brokers
  subscribables :
    p.FindsSubscribables answers f.subscribables
  eventTypes :
    answers.Yields .eventTypes p.conversion.eventType
      f.eventTypes
  sources : p.FindsSources answers f.index f.sources
  subscriptions : FindsSubscriptions answers f.subscriptions
  heard : ∀ t ∈ f.turns,
    t.Heard answers p.identityLabel f.index
  goesOn : ∀ t ∈ f.turns, t.GoesOn f.index

end Plan

------------------------------------------------------------
-- More Answers
------------------------------------------------------------

/- Is a request one about subscriptions? -/
def Request.forSubscriptions : Request → Bool
| .triggers => true
| .subscriptions => true
| .identity _ _ => true
| _ => false

/- What is yielded by few answers is yielded by more. -/
theorem Answers.Yields.mono
    {α : Type}
    {answers answers' : Answers}
    {r : Request}
    {convert : Json → Except Failure α}
    {as : List α}
    (hYields : answers.Yields r convert as)
    (hSub : ∀ o, answers r o → answers' r o) :
    answers'.Yields r convert as := by
  rcases hYields with ⟨raws, ⟨o, hAnswer, hListed⟩, hEach⟩
  exact ⟨raws, ⟨o, hSub o hAnswer, hListed⟩, hEach⟩

namespace Plan

variable {p : Plan} {answers answers' : Answers}

theorem FindsSubscribables.mono
    {ss : List Subscribable}
    (hFinds : p.FindsSubscribables answers ss)
    (hSub : ∀ r o, r.forSubscriptions = false →
      answers r o → answers' r o) :
    p.FindsSubscribables answers' ss := by
  rcases hFinds with ⟨kinds, parts, hKinds, hParts, hAll⟩
  refine ⟨kinds, parts,
    hKinds.mono fun o => hSub _ o rfl, ?_, hAll⟩
  exact hParts.imp fun _ _ hPart =>
    hPart.mono fun o => hSub _ o rfl

theorem FindsSources.mono
    {x : Index}
    {parts : List (Option (List Source))}
    (hFinds : p.FindsSources answers x parts)
    (hSub : ∀ r o, r.forSubscriptions = false →
      answers r o → answers' r o) :
    p.FindsSources answers' x parts := by
  rcases hFinds with ⟨kinds, hKinds, hParts⟩
  refine ⟨kinds, hKinds.mono fun o => hSub _ o rfl, ?_⟩
  refine hParts.imp fun coords part hPart => ?_
  unfold FindsSourcesOf at hPart ⊢
  cases hDeclared : p.conversion.declaredTypes coords with
  | error e =>
      rw [hDeclared] at hPart
      exact hPart
  | ok declared =>
      rw [hDeclared] at hPart
      rcases hPart with ⟨found, hYields, hSome⟩
      exact ⟨found,
        hYields.mono fun o => hSub _ o rfl, hSome⟩

theorem FindsSubscriptions.mono
    {ss : List Subscription}
    (hFinds : FindsSubscriptions answers ss)
    (hSub : ∀ r o, answers r o → answers' r o) :
    FindsSubscriptions answers' ss := by
  rcases hFinds with
    ⟨triggers, others, hTriggers, hOthers, hAll⟩
  exact ⟨triggers, others, hTriggers.mono (hSub _),
    hOthers.mono (hSub _), hAll⟩

end Plan

end EventTopology
