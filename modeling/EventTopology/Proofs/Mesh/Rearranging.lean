import EventTopology.Proofs.Build.Phases
import EventTopology.Proofs.Mesh.Consumers

/-
  This file shows that the order in which brokers and
  subscriptions are listed does little to a mesh: it orders
  the brokers, and the consumers of each event type.  All
  else, with what is counted as skipped, stays the same.

  Key definitions include:
    * `Index.Rearranged`
    * `Turn.ofLookups`
    * `Mesh.Rearranged`
    * `Plan.Rearranges`

  The main results are:
    * `Findings.index_rearranged`
    * `Plan.gives_complete_ofLookups`
    * `Mesh.rearranged_ofIndex`
    * `Plan.run_of_rearranged`
-/

------------------------------------------------------------
-- Brokers in Another Order
------------------------------------------------------------

namespace EventTopology

namespace Index

/- Another index has the same brokers in another order. -/
def Rearranged (x x' : Index) : Prop :=
  ∃ bs, bs.Perm x.brokers ∧ x' = { x with brokers := bs }

variable {x x' : Index}

theorem Rearranged.hasProvider
    (hIndex : x.Rearranged x')
    (key : String) :
    x'.hasProvider key = x.hasProvider key := by
  rcases hIndex with ⟨bs, hPerm, rfl⟩
  have hKeys :
      key ∈ bs.map Broker.key ↔
        key ∈ x.brokers.map Broker.key :=
    (hPerm.map Broker.key).mem_iff
  simp only [Index.hasProvider, providerKeys,
    List.mem_append, hKeys]

theorem Rearranged.matching
    (hIndex : x.Rearranged x')
    (ns : String)
    (declared : List String) :
    x'.matching ns declared = x.matching ns declared := by
  rcases hIndex with ⟨bs, _, rfl⟩
  rfl

theorem Rearranged.settle
    (hIndex : x.Rearranged x')
    (s : Subscription) :
    Consumption.settle x' s = Consumption.settle x s := by
  simp only [Consumption.settle, hIndex.hasProvider]

/- What is received does not depend on brokers. -/
theorem Rearranged.take (hIndex : x.Rearranged x') :
    Turn.take x' = Turn.take x := by
  rcases hIndex with ⟨bs, _, rfl⟩
  rfl

end Index

/- Brokers with keys of their own only trade places. -/
theorem Findings.index_rearranged
    {bs bs' : List Broker}
    {ss : List Subscribable}
    {es : List EventType}
    (hPerm : bs'.Perm bs)
    (hDistinct : (bs.map (·.key)).Nodup) :
    (Findings.listed bs ss es).index.Rearranged
      (Findings.listed bs' ss es).index := by
  have hProviders (cs : List Broker)
      (hCs : (cs.map (·.key)).Nodup) :
      (Findings.listed cs ss es).providers =
        { brokers := cs
          subscribables :=
            Index.unclaimed Subscribable.key
              (cs.map (·.key)) ss } := by
    rw [providers, Index.foldl_addSubscribable,
      Index.foldl_addBroker]
    simp [listed, Index.providerKeys,
      Index.unclaimed_eq_self hCs]
  have hKept : (Findings.listed bs ss es).index.brokers =
      bs := by
    rw [index_brokers]
    exact Index.unclaimed_eq_self hDistinct (by simp)
  -- The keys that brokers take are the same ones.
  have hSame : (Findings.listed bs' ss es).providers =
      { (Findings.listed bs ss es).providers with
        brokers := bs' } := by
    rw [hProviders bs hDistinct, hProviders bs'
      ((hPerm.map _).nodup_iff.mpr hDistinct)]
    rw [Index.unclaimed_congr Subscribable.key ss fun k =>
      (hPerm.map _).mem_iff]
  refine ⟨bs', by rw [hKept]; exact hPerm, ?_⟩
  rw [index, index, hSame]
  change (({ (Findings.listed bs ss es).providers with
    brokers := bs' } : Index).addEventTypes es).link.1 =
      { ((Findings.listed bs ss es).providers.addEventTypes
          es).link.1 with brokers := bs' }
  rw [Index.addEventTypes_brokers]
  refine Index.linkAll_brokers (fun key => ?_) _
  have hBrokers :
      ((Findings.listed bs ss es).providers.addEventTypes
        es).brokers = bs := by
    rw [(Index.addEventTypes_providers _ _).1,
      hProviders bs hDistinct]
  refine Index.Rearranged.hasProvider ⟨bs', ?_, rfl⟩ key
  rw [hBrokers]
  exact hPerm

------------------------------------------------------------
-- Turns With Known Lookups
------------------------------------------------------------

namespace Turn

variable {x : Index}
variable {lookups : ObjectReference → Lookup}

/- The turn of a subscription, when lookups are known. -/
def ofLookups
    (x : Index)
    (lookups : ObjectReference → Lookup)
    (s : Subscription) : Turn where
  subscription := s
  answer :=
    match Consumption.settle x s with
    | .inl _ => none
    | .inr (_, ref) => some (lookups ref).outcome

/- The answer is what the lookup of some subscriber gives. -/
theorem eq_of_answer_ofLookups
    {s : Subscription}
    {o : Except Failure Json}
    (hAnswer : (ofLookups x lookups s).answer = some o) :
    ∃ ref, o = (lookups ref).outcome := by
  unfold ofLookups at hAnswer
  cases hSettle : Consumption.settle x s with
  | inl told =>
      rw [hSettle] at hAnswer
      cases hAnswer
  | inr found =>
      rw [hSettle] at hAnswer
      exact ⟨found.2, (Option.some.inj hAnswer).symm⟩

theorem heard_ofLookups
    {answers : Answers}
    {label : String}
    (hLookups : ∀ ref,
      answers (.identity ref label) (lookups ref).outcome)
    (s : Subscription) :
    (ofLookups x lookups s).Heard answers label x := by
  unfold Heard ofLookups
  cases Consumption.settle x s with
  | inl told => rfl
  | inr found => exact ⟨_, rfl, hLookups found.2⟩

/- Every identity that is found is a text. -/
theorem text_of_identity_ofLookups
    {s : Subscription}
    {v : Json}
    (hFound : (ofLookups x lookups s).identity? = some v) :
    ∃ i, v = .str i := by
  cases hAnswer : (ofLookups x lookups s).answer with
  | none => simp [identity?, hAnswer] at hFound
  | some o =>
      rcases eq_of_answer_ofLookups hAnswer with ⟨ref, rfl⟩
      rw [identity?_of_outcome hAnswer,
        Option.map_eq_some_iff] at hFound
      rcases hFound with ⟨i, _, hText⟩
      exact ⟨i, hText.symm⟩

/- A lookup that fails as it may does not end the build. -/
theorem goesOn_ofLookups (s : Subscription) :
    (ofLookups x lookups s).GoesOn x where
  cluster e hError := by
    rcases eq_of_answer_ofLookups hError with ⟨ref, hGiven⟩
    cases hLookup : lookups ref <;>
      rw [hLookup] at hGiven <;> cases hGiven
    all_goals exact ⟨_, rfl⟩
  files v hFound := by
    rcases text_of_identity_ofLookups hFound with ⟨i, rfl⟩
    exact Or.inl rfl

/- Only texts are filed. -/
theorem text_of_filed_ofLookups
    {s : Subscription}
    {id : String}
    {v : Json}
    (hMem : v ∈ (ofLookups x lookups s).filed x id) :
    ∃ i, v = .str i := by
  unfold filed at hMem
  cases hFound : (ofLookups x lookups s).identity? with
  | none => simp [hFound] at hMem
  | some w =>
      rw [hFound] at hMem
      rcases List.mem_map.mp hMem with ⟨_, _, rfl⟩
      exact text_of_identity_ofLookups hFound

end Turn

/- Turns do not depend on the order of brokers. -/
theorem Index.Rearranged.ofLookups
    {x x' : Index}
    (hIndex : x.Rearranged x')
    (lookups : ObjectReference → Lookup) :
    Turn.ofLookups x' lookups = Turn.ofLookups x lookups := by
  funext s
  simp only [Turn.ofLookups, hIndex.settle]

namespace Plan

variable {σ : Type}
variable {c : Cluster σ} {s : σ}

/-
  Where each subscriber is always answered alike, a build
  that has listed everything does give a mesh.
-/
theorem gives_complete_ofLookups
    {p : Plan}
    {lookups : ObjectReference → Lookup}
    (hLookups : ∀ ref, c.Always s
      (.identity ref p.identityLabel) (lookups ref).outcome)
    (found : Index × List Source)
    (ss : List Subscription) :
    Build.Gives c s (p.complete c found ss)
      (Mesh.ofIndex found.1 found.2
        ((ss.map (Turn.ofLookups found.1 lookups)).foldl
          (Turn.take found.1) []))
      ((ss.map (Turn.ofLookups found.1 lookups)).flatMap
        (·.skipped)) := by
  have hHeard : ∀ t ∈ ss.map (Turn.ofLookups found.1 lookups),
      t.Heard (c.Always s) p.identityLabel found.1 := by
    intro t hMem
    rcases List.mem_map.mp hMem with ⟨sub, _, rfl⟩
    exact Turn.heard_ofLookups hLookups sub
  have hGoesOn : ∀ t ∈ ss.map (Turn.ofLookups found.1 lookups),
      t.GoesOn found.1 := by
    intro t hMem
    rcases List.mem_map.mp hMem with ⟨sub, _, rfl⟩
    exact Turn.goesOn_ofLookups sub
  have hSubscriptions :
      (ss.map (Turn.ofLookups found.1 lookups)).map
        (·.subscription) = ss := by
    rw [List.map_map]
    exact List.map_id ss
  have hComplete := gives_complete hHeard hGoesOn
  rw [hSubscriptions] at hComplete
  exact hComplete

end Plan

------------------------------------------------------------
-- Rearranged Meshes
------------------------------------------------------------

/-
  Another event type is the same, with the same consumers in
  another order, each of them once.
-/
structure EventType.ConsumedAlike
    (e e' : EventType) : Prop where
  same : e' = { e with consumedBy := e'.consumedBy }
  consumers : e'.consumedBy.Perm e.consumedBy
  once : e'.consumedBy.Nodup

namespace Mesh

/- Another mesh orders only brokers and consumers anew. -/
structure Rearranged (m m' : Mesh) : Prop where
  brokers : m'.brokers.Perm m.brokers
  eventTypes : List.Forall₂ EventType.ConsumedAlike
    m.eventTypes m'.eventTypes
  subscribables : m'.subscribables = m.subscribables
  sources : m'.sources = m.sources

/- Subscriptions in another order rearrange a mesh. -/
theorem rearranged_ofIndex
    {x x' : Index}
    {ss ss' : List Subscription}
    (hIndex : x.Rearranged x')
    (hPerm : ss'.Perm ss)
    (sources : List Source)
    (lookups : ObjectReference → Lookup) :
    (ofIndex x sources
      ((ss.map (Turn.ofLookups x lookups)).foldl
        (Turn.take x) [])).Rearranged
      (ofIndex x' sources
        ((ss'.map (Turn.ofLookups x' lookups)).foldl
          (Turn.take x') [])) := by
  rw [hIndex.ofLookups, hIndex.take]
  rcases hIndex with ⟨bs, hBrokers, rfl⟩
  refine ⟨hBrokers.map _, ?_, rfl, rfl⟩
  rw [ofIndex, ofIndex, List.forall₂_map_left_iff,
    List.forall₂_map_right_iff, List.forall₂_same]
  rintro ⟨id, e⟩ _
  have hTexts : ∀ v ∈
      (ss.map (Turn.ofLookups x lookups)).flatMap
        (Turn.filed x id), ∃ i, v = .str i := by
    intro v hMem
    rcases List.mem_flatMap.mp hMem with ⟨t, hTurn, hFiled⟩
    rcases List.mem_map.mp hTurn with ⟨s, _, rfl⟩
    exact Turn.text_of_filed_ofLookups hFiled
  have hFiled := Consumption.addAll_perm hTexts
    ((hPerm.map _).flatMap_right (Turn.filed x id))
  refine ⟨rfl, ?_, ?_⟩
  · simp only [Turn.pushed_foldl_take]
    exact hFiled.1
  · simp only [Turn.pushed_foldl_take]
    exact hFiled.2

end Mesh

------------------------------------------------------------
-- Rearranged Listings
------------------------------------------------------------

namespace Plan

variable {σ τ : Type}

/-
  Answers are equal, but for subscriptions, and for brokers
  with keys of their own, which may be listed in another
  order.
-/
def Rearranges (p : Plan) :
    Request → Except Failure Json → Except Failure Json →
      Prop
| .brokers =>
    Reordered p.conversion.broker
      fun bs => (bs.map (·.key)).Nodup
| .triggers =>
    Reordered Conversion.trigger fun _ => True
| .subscriptions =>
    Reordered Conversion.channelSubscription fun _ => True
| _ => fun o o' => o' = o

variable {p : Plan} {w : Twins σ τ}

theorem alike_collect_of_rearranges
    (hAsk : ∀ r, w.mayAsk r)
    (hRearranges : w.first.Corresponds w.firstState w.second
      w.secondState p.Rearranges) :
    Build.Alike w (p.collect w.first) (p.collect w.second)
      (fun found found' =>
        found.1.Rearranged found'.1 ∧ found'.2 = found.2)
      fun _ _ => True := by
  have hAgree (r : Request) :=
    Twins.agree_of_corresponds (hAsk r) hRearranges
  have hBrokers := alike_reordered (hAsk .brokers)
    (fun _ _ hAnswered => hAnswered.corresponds hRearranges)
    "brokers"
  have hEventTypes := alike_converted
    (E := fun _ _ => True)
    ((hAgree .eventTypes fun _ _ h => h).reads
      p.conversion.eventType)
    (fun _ => trivial) "eventtypes"
  refine alike_collect_of_agree
    (fun tag => hAgree (.definitions tag) fun _ _ h => h)
    (fun coords => hAgree (.instances coords) fun _ _ h => h)
    hBrokers hEventTypes (fun _ => trivial) ?_
    (fun x x' hIndex => hIndex.matching)
  rintro bs bs' ss _ es hBs rfl
  rcases hBs with rfl | ⟨hPerm, hDistinct⟩
  · exact ⟨_, List.Perm.refl _, rfl⟩
  · exact Findings.index_rearranged hPerm hDistinct

theorem alike_subscriptions_of_rearranges
    (hAsk : ∀ r, w.mayAsk r)
    (hRearranges : w.first.Corresponds w.firstState w.second
      w.secondState p.Rearranges) :
    Build.Alike w (subscriptions w.first)
      (subscriptions w.second)
      (fun ss ss' => ss'.Perm ss) fun _ _ => True := by
  have hTriggers := alike_reordered (hAsk .triggers)
    (fun _ _ hAnswered => hAnswered.corresponds hRearranges)
    "triggers"
  have hOthers := alike_reordered (hAsk .subscriptions)
    (fun _ _ hAnswered => hAnswered.corresponds hRearranges)
    "subscriptions"
  refine (alike_subscriptions hTriggers hOthers).mono ?_
    fun _ _ h => h
  rintro _ _ ⟨ts, ts', us, us', hTs, hUs, rfl, rfl⟩
  have hPermTs : ts'.Perm ts :=
    hTs.elim (· ▸ List.Perm.refl _) And.left
  have hPermUs : us'.Perm us :=
    hUs.elim (· ▸ List.Perm.refl _) And.left
  exact hPermTs.append hPermUs

end Plan

------------------------------------------------------------
-- A Rearranged Shop
------------------------------------------------------------

namespace Shop

/- Billing and audit are known, and no one else answers. -/
def lookup (ref : ObjectReference) : Lookup :=
  if ref.name = "billing" then .text "billing"
  else if ref.name = "audit" then .text "audit"
  else .failed "no answer" none

/- Replies with brokers and triggers as they are listed. -/
def arranged (brokers triggers : List Json) : Replies
| .brokers => .ok (.arr brokers)
| .triggers => .ok (.arr triggers)
| .identity ref _ => (lookup ref).outcome
| r => replies known [] [] r

/- The brokers of the shop and of a lab beside it. -/
def brokers : List Json :=
  [resource "shop" "main" [], resource "lab" "main" []]

/- Triggers of which the last finds no one. -/
def triggers : List Json :=
  [trigger "shop" "bill" "main" "billing",
   trigger "shop" "log" "main" "audit",
   trigger "shop" "lose" "main" "nobody"]

/-
  Listings may be reversed, for the brokers have keys of
  their own.
-/
theorem rearranges_reverse :
    (Cluster.ofTable (arranged brokers triggers)).Corresponds
      ()
      (Cluster.ofTable
        (arranged brokers.reverse triggers.reverse))
      () ({} : Plan).Rearranges := by
  intro before r
  cases r with
  | brokers =>
      exact reordered_of_decided (List.reverse_perm _)
        (by decide +kernel)
  | triggers =>
      exact reordered_of_decided (List.reverse_perm _)
        (by decide +kernel)
  | subscriptions => exact Or.inl rfl
  | _ => rfl

end Shop

------------------------------------------------------------
-- Built Meshes
------------------------------------------------------------

namespace Plan

variable {σ τ : Type}

/-
  Where each subscriber is always answered alike, listing
  brokers and subscriptions in another order rearranges the
  mesh, and as much is skipped for each reason.
-/
theorem run_of_rearranged
    {p : Plan}
    {c : Cluster σ}
    {s : σ}
    {d : Cluster τ}
    {t : τ}
    {lookups : ObjectReference → Lookup}
    {m : Mesh}
    {run : Run σ}
    (hLookups : ∀ ref, c.Always s
      (.identity ref p.identityLabel) (lookups ref).outcome)
    (hRearranges : c.Corresponds s d t p.Rearranges)
    (hRun : p.run c s = (.ok m, run)) :
    ∃ m' run', p.run d t = (.ok m', run') ∧
      m.Rearranged m' ∧
      ∀ r, run'.skips.count r = run.skips.count r := by
  let w : Twins σ τ := {
    first := c
    firstState := s
    second := d
    secondState := t }
  have hLookups' (ref : ObjectReference) : d.Always t
      (.identity ref p.identityLabel)
      (lookups ref).outcome := fun rs =>
    (hRearranges rs (.identity ref p.identityLabel)).trans
      (hLookups ref rs)
  -- The builds are in step until subscribers are looked up,
  -- which each of them does in its own order.
  have hBuilt : Build.exec (p.build c) ⟨s, [], [], []⟩ =
      (.ok m, run) := hRun
  rw [build_eq] at hBuilt
  have hCollect : Build.Alike w (p.collect c) (p.collect d)
      _ _ :=
    alike_collect_of_rearranges (fun _ => trivial)
      hRearranges
  rcases hCollect.ok_of_bind w.inStep_start hBuilt
      (fun found => subscriptions d >>= p.complete d found)
    with ⟨found, found', next, next', ⟨hIndex, hSources⟩,
      hStep, hExec, hExec'⟩
  have hSubscriptions : Build.Alike w (subscriptions c)
      (subscriptions d) _ _ :=
    alike_subscriptions_of_rearranges (fun _ => trivial)
      hRearranges
  rcases hSubscriptions.ok_of_bind hStep hExec
      (p.complete d found') with
    ⟨ss, ss', last, last', hPerm, hStep', hLast, hLast'⟩
  rcases gives_complete_ofLookups hLookups found ss last
      hStep'.keeps with ⟨_, hEnd, _, hSkips⟩
  rcases gives_complete_ofLookups hLookups' found' ss' last'
      hStep'.keeps' with ⟨run', hEnd', _, hSkips'⟩
  rw [hEnd] at hLast
  cases hLast
  rw [hLast', hEnd', ← build_eq] at hExec'
  refine ⟨_, run', hExec', ?_, ?_⟩
  · rw [hSources]
    exact Mesh.rearranged_ofIndex hIndex hPerm _ lookups
  · intro r
    have hBefore : last'.skips = last.skips := by
      simpa [w] using hStep'.skips
    rw [hSkips, hSkips', hBefore, hIndex.ofLookups,
      List.count_append, List.count_append]
    rw [((hPerm.map _).flatMap_right _).count_eq]

/-
  Reversed listings reverse the brokers and the consumers of
  orders; one lookup fails in both builds.
-/
theorem shop_rearranged :
    let c := Cluster.ofTable
      (Shop.arranged Shop.brokers Shop.triggers)
    let d := Cluster.ofTable
      (Shop.arranged Shop.brokers.reverse
        Shop.triggers.reverse)
    ∃ m run m' run',
      (∀ ref, c.Always ()
        (.identity ref ({} : Plan).identityLabel)
        (Shop.lookup ref).outcome) ∧
      c.Corresponds () d () ({} : Plan).Rearranges ∧
      Plan.run {} c () = (.ok m, run) ∧
      m.eventTypes.map (·.consumedBy.map (·.text)) =
        [["billing", "audit"]] ∧
      Plan.run {} d () = (.ok m', run') ∧
      m'.eventTypes.map (·.consumedBy.map (·.text)) =
        [["audit", "billing"]] ∧
      m.Rearranged m' ∧
      ∀ r, run'.skips.count r = run.skips.count r := by
  intro c d
  have hLookups (ref : ObjectReference) : c.Always ()
      (.identity ref ({} : Plan).identityLabel)
      (Shop.lookup ref).outcome := fun _ => rfl
  have hView :
      (Plan.run {} c ()).1.toOption.map
          (·.eventTypes.map (·.consumedBy.map (·.text))) =
        some [["billing", "audit"]] := by
    decide +kernel
  have hView' :
      (Plan.run {} d ()).1.toOption.map
          (·.eventTypes.map (·.consumedBy.map (·.text))) =
        some [["audit", "billing"]] := by
    decide +kernel
  rcases exists_run_of_view hView with
    ⟨m, run, hRun, hShown⟩
  rcases run_of_rearranged hLookups Shop.rearranges_reverse
      hRun with ⟨m', run', hRun', hSame, hSkips⟩
  rw [hRun'] at hView'
  exact ⟨m, run, m', run', hLookups, Shop.rearranges_reverse,
    hRun, hShown, hRun', Option.some.inj hView', hSame,
    hSkips⟩

end Plan

end EventTopology
