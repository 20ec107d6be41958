import EventTopology.Proofs.Build.Steady
import EventTopology.Proofs.Mesh.Namespaces
import EventTopology.Proofs.Resource.Namespaces

/-
  This file shows that namespaces are isolated: two builds
  that are given the same resources in a namespace show the
  same there, whatever else they are given.

  Key definitions include:
    * `Findings.AgreeIn`
    * `Answers.SameListed`
    * `Plan.SameWithin`
    * `Plan.PlainNames`

  The main results are:
    * `Plan.SameWithin.agreeIn`
    * `Plan.isolated`
-/

------------------------------------------------------------
-- Equal Lists
------------------------------------------------------------

namespace List

/- Lists are told by what tells their elements. -/
theorem eq_of_map_eq
    {α β : Type}
    {g : α → β}
    {as bs : List α}
    (hMap : as.map g = bs.map g)
    (hTells : ∀ a ∈ as, ∀ b ∈ bs, g a = g b → a = b) :
    as = bs := by
  induction as generalizing bs with
  | nil => exact (map_eq_nil_iff.mp hMap.symm).symm
  | cons a as ih =>
      cases bs with
      | nil => cases hMap
      | cons b bs =>
          rcases cons.inj hMap with ⟨hHead, hTail⟩
          have hFirst := hTells a mem_cons_self b
            mem_cons_self hHead
          have hRest := ih hTail fun a' ha' b' hb' =>
            hTells a' (mem_cons_of_mem _ ha') b'
              (mem_cons_of_mem _ hb')
          rw [hFirst, hRest]

end List

------------------------------------------------------------
-- Agreeing Findings
------------------------------------------------------------

namespace EventTopology

/- What is found in a namespace is the same twice. -/
structure Findings.AgreeIn
    (n : String)
    (f f' : Findings) : Prop where
  brokers :
    f.brokers.filter (·.ns = n) =
      f'.brokers.filter (·.ns = n)
  subscribables :
    f.subscribables.filter (·.ns = n) =
      f'.subscribables.filter (·.ns = n)
  eventTypes :
    f.eventTypes.filter (·.ns = n) =
      f'.eventTypes.filter (·.ns = n)
  subscriptions :
    f.subscriptions.filter (·.ns = n) =
      f'.subscriptions.filter (·.ns = n)

namespace Findings

variable {f f' : Findings} {n : String}

/- The parts of both indices are made of the same. -/
theorem AgreeIn.index_brokers
    (hAgree : f.AgreeIn n f')
    (hOrderly : f.Orderly)
    (hOrderly' : f'.Orderly) :
    f.index.brokers.filter (·.ns = n) =
      f'.index.brokers.filter (·.ns = n) := by
  rw [index_brokers_in hOrderly, index_brokers_in hOrderly',
    hAgree.brokers]

theorem AgreeIn.index_subscribables
    (hAgree : f.AgreeIn n f')
    (hOrderly : f.Orderly)
    (hOrderly' : f'.Orderly) :
    f.index.subscribables.filter (·.ns = n) =
      f'.index.subscribables.filter (·.ns = n) := by
  rw [index_subscribables_in hOrderly,
    index_subscribables_in hOrderly',
    hAgree.index_brokers hOrderly hOrderly',
    hAgree.subscribables]

theorem AgreeIn.index_eventTypes
    (hAgree : f.AgreeIn n f')
    (hOrderly : f.Orderly)
    (hOrderly' : f'.Orderly) :
    f.index.eventTypes.filter (·.2.ns = n) =
      f'.index.eventTypes.filter (·.2.ns = n) := by
  rw [index_eventTypes_in hOrderly,
    index_eventTypes_in hOrderly', hAgree.eventTypes]

theorem AgreeIn.keysIn
    (hAgree : f.AgreeIn n f')
    (hOrderly : f.Orderly)
    (hOrderly' : f'.Orderly) :
    f.index.keysIn n = f'.index.keysIn n := by
  rw [Index.keysIn, Index.keysIn,
    hAgree.index_brokers hOrderly hOrderly',
    hAgree.index_subscribables hOrderly hOrderly']

theorem AgreeIn.matching
    (hAgree : f.AgreeIn n f')
    (hOrderly : f.Orderly)
    (hOrderly' : f'.Orderly)
    (hName : Key.Plain n)
    (declared : List String) :
    f.index.matching n declared =
      f'.index.matching n declared := by
  rw [index_matching_in hOrderly hName,
    index_matching_in hOrderly' hName, hAgree.eventTypes]

theorem AgreeIn.referring
    (hAgree : f.AgreeIn n f')
    (hOrderly : f.Orderly)
    (hOrderly' : f'.Orderly)
    {key : String}
    (hKey : key ∈ f.index.keysIn n) :
    f.mesh.referring key = f'.mesh.referring key := by
  have hKey' : key ∈ f'.index.keysIn n :=
    hAgree.keysIn hOrderly hOrderly' ▸ hKey
  rw [mesh_referring_in hOrderly hKey,
    mesh_referring_in hOrderly' hKey',
    hAgree.index_eventTypes hOrderly hOrderly']

theorem AgreeIn.mesh_brokers
    (hAgree : f.AgreeIn n f')
    (hOrderly : f.Orderly)
    (hOrderly' : f'.Orderly) :
    f.mesh.brokers.filter (·.ns = n) =
      f'.mesh.brokers.filter (·.ns = n) := by
  rw [mesh_brokers_in, mesh_brokers_in,
    ← hAgree.index_brokers hOrderly hOrderly']
  refine List.map_congr_left fun b hMem => ?_
  have hKey : b.key ∈ f.index.keysIn n :=
    List.mem_append_left _ (List.mem_map_of_mem hMem)
  rw [hAgree.referring hOrderly hOrderly' hKey]

theorem AgreeIn.mesh_subscribables
    (hAgree : f.AgreeIn n f')
    (hOrderly : f.Orderly)
    (hOrderly' : f'.Orderly) :
    f.mesh.subscribables.filter (·.ns = n) =
      f'.mesh.subscribables.filter (·.ns = n) := by
  rw [mesh_subscribables_in, mesh_subscribables_in,
    ← hAgree.index_subscribables hOrderly hOrderly']
  refine List.map_congr_left fun s hMem => ?_
  have hKey : s.key ∈ f.index.keysIn n :=
    List.mem_append_right _ (List.mem_map_of_mem hMem)
  rw [hAgree.referring hOrderly hOrderly' hKey]

end Findings

------------------------------------------------------------
-- Agreeing Turns
------------------------------------------------------------

/- Turns are told by what they settle and look up. -/
theorem Turn.eq_of_heard
    {t t' : Turn}
    {x x' : Index}
    {answers answers' : Answers}
    {label : String}
    (hSub : t.subscription = t'.subscription)
    (hSettled :
      Consumption.settle x t.subscription =
        Consumption.settle x' t.subscription)
    (hHeard : t.Heard answers label x)
    (hHeard' : t'.Heard answers' label x')
    (hLookups : ∀ ref,
      t.subscription.subscriber = some ref → ∀ o o',
        answers (.identity ref label) o →
        answers' (.identity ref label) o' → o = o') :
    t = t' := by
  unfold Heard at hHeard hHeard'
  rw [← hSub, ← hSettled] at hHeard'
  have hAnswer : t.answer = t'.answer := by
    cases hSettle : Consumption.settle x t.subscription with
    | inl o =>
        simp only [hSettle] at hHeard hHeard'
        exact hHeard.trans hHeard'.symm
    | inr found =>
        rcases found with ⟨target, ref⟩
        simp only [hSettle] at hHeard hHeard'
        have hRef := (target_of_settle hSettle).2.2
        rcases hHeard with ⟨o, hSome, hGiven⟩
        rcases hHeard' with ⟨o', hSome', hGiven'⟩
        rw [hSome, hSome',
          hLookups ref hRef o o' hGiven hGiven']
  cases t
  cases t'
  cases hSub
  cases hAnswer
  rfl

namespace Findings

variable {f f' : Findings} {n : String}

/- A subscription of the namespace is settled alike. -/
theorem AgreeIn.settle
    (hAgree : f.AgreeIn n f')
    (hOrderly : f.Orderly)
    (hOrderly' : f'.Orderly)
    {s : Subscription}
    (hMem : s ∈ f.subscriptions)
    (hNs : s.ns = n) :
    Consumption.settle f.index s =
      Consumption.settle f'.index s := by
  unfold Consumption.settle
  cases hTarget : s.target with
  | none => rfl
  | some key =>
      rcases hOrderly.targets s hMem key hTarget with
        ⟨group, kind, name, rfl⟩
      have hHas :
          f.index.hasProvider
              (Key.qualified group kind s.ns name) =
            f'.index.hasProvider
              (Key.qualified group kind s.ns name) := by
        unfold Index.hasProvider
        rw [decide_eq_decide, hOrderly.mem_providerKeys_iff,
          hOrderly'.mem_providerKeys_iff, hNs,
          hAgree.keysIn hOrderly hOrderly']
      dsimp only
      rw [hHas]

/- So its turn goes alike, if its lookup does. -/
theorem AgreeIn.turns
    (hAgree : f.AgreeIn n f')
    (hOrderly : f.Orderly)
    (hOrderly' : f'.Orderly)
    {answers answers' : Answers}
    {label : String}
    (hHeard : ∀ t ∈ f.turns, t.Heard answers label f.index)
    (hHeard' : ∀ t ∈ f'.turns,
      t.Heard answers' label f'.index)
    (hLookups : ∀ s ∈ f.subscriptions, s.ns = n →
      ∀ ref, s.subscriber = some ref → ∀ o o',
        answers (.identity ref label) o →
        answers' (.identity ref label) o' → o = o') :
    f.turns.filter (·.subscription.ns = n) =
      f'.turns.filter (·.subscription.ns = n) := by
  apply List.eq_of_map_eq (g := Turn.subscription)
  · have hSame := hAgree.subscriptions
    rw [Findings.subscriptions, Findings.subscriptions,
      List.filter_map, List.filter_map] at hSame
    exact hSame
  · intro t hMem t' hMem' hSub
    rcases List.mem_filter.mp hMem with ⟨hTurn, hHere⟩
    rcases List.mem_filter.mp hMem' with ⟨hTurn', _⟩
    have hNs : t.subscription.ns = n := of_decide_eq_true hHere
    have hIn : t.subscription ∈ f.subscriptions :=
      List.mem_map_of_mem hTurn
    exact Turn.eq_of_heard hSub
      (hAgree.settle hOrderly hOrderly' hIn hNs)
      (hHeard t hTurn) (hHeard' t' hTurn')
      (hLookups _ hIn hNs)

/- An event type is given the same in both meshes. -/
theorem AgreeIn.given
    (hAgree : f.AgreeIn n f')
    (hOrderly : f.Orderly)
    (hOrderly' : f'.Orderly)
    {e e' : EventType}
    (hMem : e ∈ f.mesh.eventTypes)
    (hMem' : e' ∈ f'.mesh.eventTypes)
    (hNs : e.ns = n)
    (hSame : e' = { e with consumedBy := e'.consumedBy })
    (t : Turn) :
    t.given f.mesh e = t.given f'.mesh e' := by
  have hId : e'.id = e.id := by
    rw [hSame]
    rfl
  have hType : e'.type = e.type := by rw [hSame]
  have hNs' : e'.ns = n := by
    rw [hSame]
    exact hNs
  have hCarries (key : String) :
      f.mesh.Carries key e.id ↔
        f'.mesh.Carries key e'.id := by
    have hRef : e'.refersTo key = e.refersTo key := by
      rw [hSame]
      rfl
    rw [mesh_carries_iff_in hOrderly hMem,
      mesh_carries_iff_in hOrderly' hMem', hNs, hNs', hRef,
      hAgree.keysIn hOrderly hOrderly']
  unfold Turn.given
  cases t.subscription.target with
  | none => rfl
  | some key => simp only [hCarries key, hType]

/- It has the same consumers in both meshes. -/
theorem AgreeIn.consumedBy
    (hAgree : f.AgreeIn n f')
    (hOrderly : f.Orderly)
    (hOrderly' : f'.Orderly)
    {answers answers' : Answers}
    {label : String}
    {e e' : EventType}
    (hHeard : ∀ t ∈ f.turns, t.Heard answers label f.index)
    (hHeard' : ∀ t ∈ f'.turns,
      t.Heard answers' label f'.index)
    (hTurns :
      f.turns.filter (·.subscription.ns = n) =
        f'.turns.filter (·.subscription.ns = n))
    (hMem : e ∈ f.mesh.eventTypes)
    (hMem' : e' ∈ f'.mesh.eventTypes)
    (hNs : e.ns = n)
    (hSame : e' = { e with consumedBy := e'.consumedBy }) :
    e.consumedBy = e'.consumedBy := by
  have hNs' : e'.ns = n := by
    rw [hSame]
    exact hNs
  rw [consumedBy_eq_in hOrderly hHeard hMem hNs,
    consumedBy_eq_in hOrderly' hHeard' hMem' hNs', ← hTurns]
  refine congrArg _ (List.flatMap_congr fun t _ => ?_)
  exact hAgree.given hOrderly hOrderly' hMem hMem' hNs
    hSame t

theorem AgreeIn.mesh_eventTypes
    (hAgree : f.AgreeIn n f')
    (hOrderly : f.Orderly)
    (hOrderly' : f'.Orderly)
    {answers answers' : Answers}
    {label : String}
    (hHeard : ∀ t ∈ f.turns, t.Heard answers label f.index)
    (hHeard' : ∀ t ∈ f'.turns,
      t.Heard answers' label f'.index)
    (hTurns :
      f.turns.filter (·.subscription.ns = n) =
        f'.turns.filter (·.subscription.ns = n)) :
    f.mesh.eventTypes.filter (·.ns = n) =
      f'.mesh.eventTypes.filter (·.ns = n) := by
  rw [mesh_eventTypes_in, mesh_eventTypes_in,
    ← hAgree.index_eventTypes hOrderly hOrderly']
  refine List.map_congr_left fun entry hEntry => ?_
  have hEntry' := hEntry
  rw [hAgree.index_eventTypes hOrderly hOrderly'] at hEntry'
  rcases List.mem_filter.mp hEntry with ⟨hIn, hHere⟩
  have hIn' := (List.mem_filter.mp hEntry').1
  -- Both meshes show the entry, each with its consumers.
  have hConsumers := hAgree.consumedBy hOrderly hOrderly'
    hHeard hHeard' hTurns
    (List.mem_map.mpr ⟨entry, hIn, rfl⟩)
    (List.mem_map.mpr ⟨entry, hIn', rfl⟩)
    (of_decide_eq_true hHere) rfl
  dsimp only at hConsumers ⊢
  rw [hConsumers]

end Findings

------------------------------------------------------------
-- Agreeing Listings
------------------------------------------------------------

/- What is the same part by part is the same together. -/
theorem List.filter_flatMap_eq
    {κ γ α : Type}
    {R R' : κ → γ → Prop}
    {g : γ → List α}
    {p : α → Bool}
    {ks : List κ}
    {cs cs' : List γ}
    (hAll : List.Forall₂ R ks cs)
    (hAll' : List.Forall₂ R' ks cs')
    (hSame : ∀ k c c', R k c → R' k c' →
      (g c).filter p = (g c').filter p) :
    (cs.flatMap g).filter p = (cs'.flatMap g).filter p := by
  induction hAll generalizing cs' with
  | nil =>
      cases hAll'
      rfl
  | cons hPart _ ih =>
      cases hAll' with
      | cons hPart' hRest' =>
          rw [List.flatMap_cons, List.flatMap_cons,
            List.filter_append, List.filter_append,
            hSame _ _ _ hPart hPart', ih hRest']

namespace Answers

variable {α : Type}
variable {n : String} {answers answers' : Answers}

/-
  The resources of a namespace are listed alike, and in the
  same order.
-/
def SameListed
    (n : String)
    (answers answers' : Answers)
    (r : Request) : Prop :=
  ∀ raws raws', answers.Lists r raws →
    answers'.Lists r raws' →
    raws.filter (Resource.isIn n) =
      raws'.filter (Resource.isIn n)

/- Then they convert to the same records. -/
theorem SameListed.filter_eq
    {r : Request}
    {convert : Json → Except Failure α}
    {ns : α → String}
    {as as' : List α}
    (hSame : SameListed n answers answers' r)
    (hLives : ∀ raw a, convert raw = .ok a →
      Resource.LivesIn raw (ns a))
    (hYields : answers.Yields r convert as)
    (hYields' : answers'.Yields r convert as') :
    as.filter (ns · = n) = as'.filter (ns · = n) := by
  have hKept {raws : List Json} {as : List α}
      (hEach : List.Forall₂
        (fun raw a => convert raw = .ok a) raws as) :
      (raws.filter (Resource.isIn n)).mapM convert =
        .ok (as.filter (ns · = n)) := by
    refine Failure.mapM_eq_ok_iff.mpr
      (List.rel_filter ?_ hEach)
    intro raw a hOk
    dsimp only
    rw [Resource.isIn_eq (hLives raw a hOk) n]
  rcases hYields with ⟨raws, hLists, hEach⟩
  rcases hYields' with ⟨raws', hLists', hEach'⟩
  have hFirst := hKept hEach
  rw [hSame raws raws' hLists hLists', hKept hEach']
    at hFirst
  exact (Except.ok.inj hFirst).symm

end Answers

------------------------------------------------------------
-- Agreeing Builds
------------------------------------------------------------

namespace Plan

variable {p : Plan} {n : String}
variable {answers answers' : Answers}

/-
  In a namespace two builds are answered alike: the same
  resources are listed in the same order, the same kinds are
  discovered, and subscribers are found alike.
-/
structure SameWithin
    (p : Plan)
    (n : String)
    (answers answers' : Answers) : Prop where
  brokers : Answers.SameListed n answers answers' .brokers
  eventTypes :
    Answers.SameListed n answers answers' .eventTypes
  triggers : Answers.SameListed n answers answers' .triggers
  subscriptions :
    Answers.SameListed n answers answers' .subscriptions
  instances : ∀ coords,
    Answers.SameListed n answers answers' (.instances coords)
  kinds : ∀ tag, tag = p.subscribableTag ∨ tag = p.sourceTag →
    ∀ kinds kinds', answers.Kinds tag kinds →
      answers'.Kinds tag kinds' → kinds = kinds'
  lookups : ∀ ss, FindsSubscriptions answers ss →
    ∀ s ∈ ss, s.ns = n →
    ∀ ref, s.subscriber = some ref → ∀ o o',
      answers (.identity ref p.identityLabel) o →
      answers' (.identity ref p.identityLabel) o' → o = o'

/- No provider and no namespace has a slash in its name. -/
structure PlainNames
    (p : Plan)
    (answers : Answers) : Prop where
  brokers : ∀ bs,
    answers.Yields .brokers p.conversion.broker bs →
    ∀ b ∈ bs, Key.Plain b.ns ∧ Key.Plain b.name
  subscribables : ∀ ss,
    p.FindsSubscribables answers ss →
    ∀ s ∈ ss, Key.Plain s.group ∧ Key.Plain s.kind ∧
      Key.Plain s.ns ∧ Key.Plain s.name
  eventTypes : ∀ es,
    answers.Yields .eventTypes p.conversion.eventType es →
    ∀ e ∈ es, Key.Plain e.ns

/- What is found under plain names is orderly. -/
theorem Finds.orderly
    {f : Findings}
    (hFinds : p.Finds answers f)
    (hPlain : p.PlainNames answers) :
    f.Orderly where
  brokers := hPlain.brokers _ hFinds.brokers
  subscribables := hPlain.subscribables _ hFinds.subscribables
  eventTypes := hPlain.eventTypes _ hFinds.eventTypes
  references := by
    intro e hMem r hSome
    rcases hFinds.eventTypes with ⟨raws, _, hEach⟩
    rcases hEach.exists_left_of_mem hMem with ⟨raw, _, hOk⟩
    exact (Conversion.eventType_livesIn hOk).2 r hSome
  targets := by
    intro s hMem key hTarget
    rcases hFinds.subscriptions with
      ⟨triggers, others, ⟨_, _, hTriggers⟩, ⟨_, _, hOthers⟩,
        hAll⟩
    rw [hAll, List.mem_append] at hMem
    rcases hMem with hMem | hMem
    · rcases hTriggers.exists_left_of_mem hMem with
        ⟨raw, _, hOk⟩
      exact (Conversion.trigger_livesIn hOk).2 key hTarget
    · rcases hOthers.exists_left_of_mem hMem with
        ⟨raw, _, hOk⟩
      exact (Conversion.channelSubscription_livesIn hOk).2
        key hTarget

theorem SameWithin.subscribables
    {ss ss' : List Subscribable}
    (hSame : p.SameWithin n answers answers')
    (hFinds : p.FindsSubscribables answers ss)
    (hFinds' : p.FindsSubscribables answers' ss') :
    ss.filter (·.ns = n) = ss'.filter (·.ns = n) := by
  rcases hFinds with ⟨kinds, parts, hKinds, hParts, rfl⟩
  rcases hFinds' with
    ⟨kinds', parts', hKinds', hParts', rfl⟩
  have hSameKinds :=
    hSame.kinds _ (.inl rfl) kinds kinds' hKinds hKinds'
  subst hSameKinds
  rw [← List.flatMap_id, ← List.flatMap_id]
  refine List.filter_flatMap_eq hParts hParts' ?_
  intro coords part part' hPart hPart'
  exact (hSame.instances coords).filter_eq
    (fun _ _ => Conversion.subscribable_livesIn) hPart hPart'

theorem SameWithin.subscriptions_eq
    {ss ss' : List Subscription}
    (hSame : p.SameWithin n answers answers')
    (hFinds : FindsSubscriptions answers ss)
    (hFinds' : FindsSubscriptions answers' ss') :
    ss.filter (·.ns = n) = ss'.filter (·.ns = n) := by
  rcases hFinds with
    ⟨triggers, others, hTriggers, hOthers, rfl⟩
  rcases hFinds' with
    ⟨triggers', others', hTriggers', hOthers', rfl⟩
  rw [List.filter_append, List.filter_append,
    hSame.triggers.filter_eq
      (fun _ _ hOk => (Conversion.trigger_livesIn hOk).1)
      hTriggers hTriggers',
    hSame.subscriptions.filter_eq
      (fun _ _ hOk =>
        (Conversion.channelSubscription_livesIn hOk).1)
      hOthers hOthers']

/- What agrees in the answers agrees in the findings. -/
theorem SameWithin.agreeIn
    {f f' : Findings}
    (hSame : p.SameWithin n answers answers')
    (hFinds : p.Finds answers f)
    (hFinds' : p.Finds answers' f') :
    f.AgreeIn n f' where
  brokers :=
    hSame.brokers.filter_eq
      (fun _ _ => Conversion.broker_livesIn)
      hFinds.brokers hFinds'.brokers
  subscribables :=
    hSame.subscribables hFinds.subscribables
      hFinds'.subscribables
  eventTypes :=
    hSame.eventTypes.filter_eq
      (fun _ _ hOk => (Conversion.eventType_livesIn hOk).1)
      hFinds.eventTypes hFinds'.eventTypes
  subscriptions :=
    hSame.subscriptions_eq hFinds.subscriptions
      hFinds'.subscriptions

/- Sources are matched alike, so they are the same. -/
theorem SameWithin.sources
    {x x' : Index}
    {parts parts' : List (Option (List Source))}
    (hSame : p.SameWithin n answers answers')
    (hFinds : p.FindsSources answers x parts)
    (hFinds' : p.FindsSources answers' x' parts')
    (hMatching : ∀ declared,
      x.matching n declared = x'.matching n declared) :
    (parts.flatMap (·.getD [])).filter (·.ns = n) =
      (parts'.flatMap (·.getD [])).filter (·.ns = n) := by
  rcases hFinds with ⟨kinds, hKinds, hParts⟩
  rcases hFinds' with ⟨kinds', hKinds', hParts'⟩
  have hSameKinds :=
    hSame.kinds _ (.inr rfl) kinds kinds' hKinds hKinds'
  subst hSameKinds
  refine List.filter_flatMap_eq hParts hParts' ?_
  intro coords part part' hPart hPart'
  unfold FindsSourcesOf at hPart hPart'
  cases hDeclared : p.conversion.declaredTypes coords with
  | error e =>
      simp only [hDeclared] at hPart hPart'
      rw [hPart, hPart']
  | ok declared =>
      simp only [hDeclared] at hPart hPart'
      rcases hPart with ⟨found, hYields, rfl⟩
      rcases hPart' with ⟨found', hYields', rfl⟩
      have hFound := (hSame.instances coords).filter_eq
        (fun _ _ => Conversion.source_livesIn)
        hYields hYields'
      simp only [Option.getD_some, List.filter_map]
      change (found.filter (·.ns = n)).map x.matched =
        (found'.filter (·.ns = n)).map x'.matched
      rw [hFound]
      refine List.map_congr_left fun s hMem => ?_
      have hNs : s.ns = n :=
        of_decide_eq_true (List.mem_filter.mp hMem).2
      rw [Index.matched, Index.matched, hNs, hMatching]

end Plan

------------------------------------------------------------
-- Fewer Answers
------------------------------------------------------------

namespace Answers

variable {n : String} {r : Request}
variable {answers answers' few few' : Answers}

/- What is listed alike is so in fewer answers. -/
theorem SameListed.anti
    (hSame : SameListed n answers answers' r)
    (hFew : ∀ r o, few r o → answers r o)
    (hFew' : ∀ r o, few' r o → answers' r o) :
    SameListed n few few' r := by
  rintro raws raws' ⟨o, hAnswer, hListed⟩
    ⟨o', hAnswer', hListed'⟩
  exact hSame raws raws' ⟨o, hFew r o hAnswer, hListed⟩
    ⟨o', hFew' r o' hAnswer', hListed'⟩

end Answers

namespace Plan

variable {p : Plan} {n : String}
variable {answers answers' few few' : Answers}

theorem SameWithin.anti
    (hSame : p.SameWithin n answers answers')
    (hFew : ∀ r o, few r o → answers r o)
    (hFew' : ∀ r o, few' r o → answers' r o) :
    p.SameWithin n few few' where
  brokers := hSame.brokers.anti hFew hFew'
  eventTypes := hSame.eventTypes.anti hFew hFew'
  triggers := hSame.triggers.anti hFew hFew'
  subscriptions := hSame.subscriptions.anti hFew hFew'
  instances coords := (hSame.instances coords).anti hFew hFew'
  kinds tag hTag kinds kinds' hKinds hKinds' :=
    hSame.kinds tag hTag kinds kinds'
      (hKinds.mono (hFew _)) (hKinds'.mono (hFew' _))
  lookups ss hFinds s hMem hNs ref hRef o o' hO hO' :=
    hSame.lookups ss (hFinds.mono hFew) s hMem hNs ref hRef
      o o' (hFew _ o hO) (hFew' _ o' hO')

theorem PlainNames.anti
    (hPlain : p.PlainNames answers)
    (hFew : ∀ r o, few r o → answers r o) :
    p.PlainNames few where
  brokers bs hYields :=
    hPlain.brokers bs (hYields.mono (hFew _))
  subscribables ss hFinds :=
    hPlain.subscribables ss
      (hFinds.mono fun r o _ hAnswer => hFew r o hAnswer)
  eventTypes es hYields :=
    hPlain.eventTypes es (hYields.mono (hFew _))

end Plan

------------------------------------------------------------
-- Shops Beside Others
------------------------------------------------------------

namespace Shop

variable {lookup : ObjectReference → Except Failure Json}
variable {brokers brokers' triggers triggers' : List Json}

theorem kinds_eq_nil
    {tag : String}
    {kinds : List KindCoordinates}
    (hKinds :
      (replies lookup brokers triggers).answers.Kinds tag
        kinds) :
    kinds = [] := by
  have hNone := Replies.converted_of_yields hKinds
  exact (Option.some.inj hNone).symm

/- Shops with plain brokers have plain names. -/
theorem plainNames
    (hBrokers :
      ((replies lookup brokers triggers).converted .brokers
        ({} : Plan).conversion.broker).all
          (·.all fun b =>
            Key.Plain b.ns ∧ Key.Plain b.name) = true) :
    ({} : Plan).PlainNames
      (replies lookup brokers triggers).answers where
  brokers bs hYields := by
    rw [Replies.converted_of_yields hYields] at hBrokers
    simpa using hBrokers
  subscribables ss hFinds := by
    rcases hFinds with ⟨kinds, parts, hKinds, hParts, rfl⟩
    cases kinds_eq_nil hKinds
    cases hParts
    simp
  eventTypes es hYields := by
    have hOrder :
        ((Replies.converted (fun _ => .ok (.arr [order]))
          .eventTypes ({} : Plan).conversion.eventType).all
            (·.all fun e => Key.Plain e.ns)) = true := by
      decide +kernel
    have hConverted := Replies.converted_of_yields hYields
    change Replies.converted (fun _ => .ok (.arr [order]))
      .eventTypes _ = some es at hConverted
    rw [hConverted] at hOrder
    simpa using hOrder

/- Shops differ in what is put beside them. -/
theorem sameWithin
    {n : String}
    (hBrokers :
      brokers.filter (Resource.isIn n) =
        brokers'.filter (Resource.isIn n))
    (hTriggers :
      triggers.filter (Resource.isIn n) =
        triggers'.filter (Resource.isIn n)) :
    ({} : Plan).SameWithin n
      (replies lookup brokers triggers).answers
      (replies lookup brokers' triggers').answers := by
  have hSame {r : Request} {os os' : List Json}
      (hOs : replies lookup brokers triggers r =
        .ok (.arr os))
      (hOs' : replies lookup brokers' triggers' r =
        .ok (.arr os'))
      (hFilter : os.filter (Resource.isIn n) =
        os'.filter (Resource.isIn n)) :
      Answers.SameListed n
        (replies lookup brokers triggers).answers
        (replies lookup brokers' triggers').answers r := by
    rintro raws raws' ⟨o, hAnswer, hListed⟩
      ⟨o', hAnswer', hListed'⟩
    cases hAnswer.trans hOs
    cases hAnswer'.trans hOs'
    cases hListed
    cases hListed'
    exact hFilter
  constructor
  · refine hSame rfl rfl ?_
    rw [List.filter_append, List.filter_append, hBrokers]
  · exact hSame rfl rfl rfl
  · refine hSame rfl rfl ?_
    rw [List.filter_append, List.filter_append, hTriggers]
  · exact hSame rfl rfl rfl
  · exact fun coords => hSame rfl rfl rfl
  · intro tag _ kinds kinds' hKinds hKinds'
    rw [kinds_eq_nil hKinds, kinds_eq_nil hKinds']
  · rintro _ _ _ _ _ _ _ o o' rfl rfl
    rfl

end Shop

------------------------------------------------------------
-- Isolated Namespaces
------------------------------------------------------------

namespace Plan

variable {σ τ : Type}

/-
  Whatever two clusters answer about other namespaces, the
  meshes built from them show the same in a namespace in
  which the clusters answer alike.
-/
theorem isolated
    {p : Plan}
    {c : Cluster σ}
    {d : Cluster τ}
    {s : σ}
    {t : τ}
    {m m' : Mesh}
    {run : Run σ}
    {run' : Run τ}
    {n : String}
    (hRun : p.run c s = (.ok m, run))
    (hRun' : p.run d t = (.ok m', run'))
    (hName : Key.Plain n)
    (hPlain : p.PlainNames (c.Heard s run.requests))
    (hPlain' : p.PlainNames (d.Heard t run'.requests))
    (hSame : p.SameWithin n (c.Heard s run.requests)
      (d.Heard t run'.requests)) :
    m.within n = m'.within n := by
  rcases finds_of_run hRun with ⟨f, hFinds, rfl, _⟩
  rcases finds_of_run hRun' with ⟨f', hFinds', rfl, _⟩
  have hOrderly := hFinds.orderly hPlain
  have hOrderly' := hFinds'.orderly hPlain'
  have hAgree := hSame.agreeIn hFinds hFinds'
  have hTurns := hAgree.turns hOrderly hOrderly'
    hFinds.heard hFinds'.heard
    (hSame.lookups _ hFinds.subscriptions)
  have hEventTypes := hAgree.mesh_eventTypes hOrderly
    hOrderly' hFinds.heard hFinds'.heard hTurns
  have hSources := hSame.sources hFinds.sources
    hFinds'.sources
    (hAgree.matching hOrderly hOrderly' hName)
  unfold Mesh.within
  rw [hAgree.mesh_brokers hOrderly hOrderly', hEventTypes,
    hAgree.mesh_subscribables hOrderly hOrderly']
  exact congrArg (Mesh.mk _ _ _) hSources

/-
  A lab whose triggers name the broker of the shop by a path
  changes nothing in the shop.
-/
theorem shop_isolated :
    let alone := Shop.replies Shop.known [] []
    let spied := Shop.replies Shop.known
      [Shop.resource "lab" "main" []]
      [Shop.trigger "lab" "spy" "../shop/main" "audit",
       Shop.trigger "lab" "log" "main" "audit"]
    ∃ m run m' run',
      Plan.run {} (Cluster.ofTable alone) () =
        (.ok m, run) ∧
      Plan.run {} (Cluster.ofTable spied) () =
        (.ok m', run') ∧
      Shop.view m =
        [["shop/order"], ["billing", "audit"]] ∧
      Shop.view m' =
        [[], ["shop/order"], ["billing", "audit"]] ∧
      Key.Plain "shop" ∧
      ({} : Plan).PlainNames
        ((Cluster.ofTable alone).Heard () run.requests) ∧
      ({} : Plan).PlainNames
        ((Cluster.ofTable spied).Heard () run'.requests) ∧
      ({} : Plan).SameWithin "shop"
        ((Cluster.ofTable alone).Heard () run.requests)
        ((Cluster.ofTable spied).Heard () run'.requests) ∧
      m.within "shop" = m'.within "shop" := by
  intro alone spied
  have hView' :
      (Plan.run {} (Cluster.ofTable spied)
          ()).1.toOption.map Shop.view =
        some [[], ["shop/order"], ["billing", "audit"]] := by
    decide +kernel
  rcases Shop.exists_run with ⟨m, run, hRun, hShown⟩
  rcases exists_run_of_view hView' with
    ⟨m', run', hRun', hShown'⟩
  have hName : Key.Plain "shop" := by decide +kernel
  have hHeard : ∀ r o,
      (Cluster.ofTable alone).Heard () run.requests r o →
        alone.answers r o := fun r o hHeard =>
    (Cluster.steady_ofTable alone).answers_of_heard hHeard
  have hHeard' : ∀ r o,
      (Cluster.ofTable spied).Heard () run'.requests r o →
        spied.answers r o := fun r o hHeard =>
    (Cluster.steady_ofTable spied).answers_of_heard hHeard
  have hPlain := (Shop.plainNames (by decide +kernel)).anti
    hHeard
  have hPlain' := (Shop.plainNames (by decide +kernel)).anti
    hHeard'
  have hAnswers :
      ({} : Plan).SameWithin "shop" alone.answers
        spied.answers :=
    Shop.sameWithin rfl rfl
  have hSame := hAnswers.anti hHeard hHeard'
  exact ⟨m, run, m', run', hRun, hRun', hShown, hShown',
    hName, hPlain, hPlain', hSame,
    isolated hRun hRun' hName hPlain hPlain' hSame⟩

end Plan

end EventTopology
