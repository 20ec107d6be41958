import EventTopology.Proofs.Build.Filing
import EventTopology.Proofs.Cluster.Typing

/-
  This file says how builds over well-typed stores end.  A
  store serves a plan when it refuses no listing that the
  plan needs and can resolve all definitions that the plan
  looks for.  Then nothing but misfit labels of instances
  and numbers too long to be written keeps a build from its
  mesh.

  Key definitions include:
    * `Store.Serves`
    * `Store.Misfit`
    * `Store.IsIdentity`

  The main results are:
    * `Plan.ends_build`
    * `Plan.ends_run`
-/

------------------------------------------------------------
-- Serving Plans
------------------------------------------------------------

namespace EventTopology

/- The value of the identity label, or null. -/
def Plan.identityOf (p : Plan) (raw : Json) : Json :=
  raw.dig ["metadata", "labels", p.identityLabel]

namespace Store

/-
  A store gives a plan all it needs: no listing that is
  consulted is refused, and the definitions under the tags
  of the plan can all be resolved.  Of source kinds only
  those whose declaration can be read are listed.
-/
structure Serves (s : Store) (p : Plan) : Prop where
  listings : ∀ name ∈
    ["brokers", "eventtypes", "triggers", "subscriptions",
      "definitions"],
    s.refuses name = false
  resolvable : ∀ tag ∈ [p.subscribableTag, p.sourceTag],
    ∀ raw ∈ s.announced tag,
      Definition.resolvable raw = true
  subscribables : ∀ coords,
    s.Discovers p.subscribableTag coords →
      s.refuses coords.resource = false
  sources : ∀ coords declared,
    s.Discovers p.sourceTag coords →
    p.conversion.declaredTypes coords = .ok declared →
      s.refuses coords.resource = false

/-
  The failures that labels of instances give rise to, and
  event types that cannot be written.
-/
inductive Misfit (s : Store) (p : Plan) : Failure → Prop
/- An identity is found, but cannot be filed. -/
| unfiled
    {raw : Json}
    (hMem : raw ∈ s.objects)
    (hTruthy : (p.identityOf raw).truthy = true)
    (hKey : (p.identityOf raw).isKey = false) :
    Misfit s p (.shape (.notKey (p.identityOf raw).kind))
/- The labels of a subscribable or source are no texts. -/
| invalid
    {tag : String}
    {coords : KindCoordinates}
    {raw : Json}
    {f : Failure}
    (hTag : tag ∈ [p.subscribableTag, p.sourceTag])
    (hDiscovers : s.Discovers tag coords)
    (hMem : raw ∈ s.instances coords)
    (hShape : Resource.shape [] raw = false)
    (hInvalid : f.IsInvalid) :
    Misfit s p f
/- An event type holds a number too long for a text. -/
| unwritten
    {raw : Json}
    (hMem : raw ∈ s.eventTypes)
    (hLong : ¬ Resource.IsWritten raw) :
    Misfit s p (.shape .tooLong)

/- A failure is documented and has a cause, or a misfit. -/
def Faults (s : Store) (p : Plan) (f : Failure) : Prop :=
  (f.IsDocumented ∧ ¬ s.Serves p) ∨ s.Misfit p f

/- A value is found under the identity label of a resource. -/
def IsIdentity (s : Store) (p : Plan) (v : Json) : Prop :=
  v.truthy = true ∧ v.isKey = true ∧
    ∃ raw ∈ s.objects, v = p.identityOf raw

end Store

------------------------------------------------------------
-- Listings
------------------------------------------------------------

namespace Plan

open Store (cluster)

variable {α : Type}
variable {p : Plan} {s : Store} {free : List String}

/- A listing is had where the plan can be served. -/
theorem ends_converted
    {name told : String}
    {r : Request}
    {found : List Json}
    {convert : Json → Except Failure α}
    (hReply : s.replies r = s.listing name found)
    (hNeeded : s.Serves p → s.refuses name = false)
    (hConvert : ∀ raw ∈ found,
      (convert raw).Ends (fun _ => True) (s.Faults p)) :
    Build.Ends cluster s
      (do convertAll convert (← Build.list cluster told r))
      (fun _ => s.refuses name = false) (s.Faults p) := by
  have hListing := Store.list_of_listing told hReply
  refine (Build.ends_list s.steady_cluster
    (hListing.mono (fun _ h => h) ?_)).bind ?_
  · intro f hFault
    rcases hFault with ⟨hRefused, hDocumented⟩
    refine Or.inl ⟨hDocumented, ?_⟩
    intro hServes
    rw [hNeeded hServes] at hRefused
    cases hRefused
  · intro raws hRaws
    rcases hRaws with ⟨hServed, hFound⟩
    have hEach := Except.ends_mapM fun raw hMem =>
      hConvert raw (hFound raw hMem)
    exact Build.ends_ofExcept
      (hEach.mono (fun _ _ => hServed) fun _ h => h)

/- What follows a converted listing knows it was had. -/
theorem ends_converted_bind
    {β : Type}
    {name told : String}
    {r : Request}
    {found : List Json}
    {convert : Json → Except Failure α}
    {f : List α → Build Store β}
    {Q : β → Prop}
    (hReply : s.replies r = s.listing name found)
    (hNeeded : s.Serves p → s.refuses name = false)
    (hConvert : ∀ raw ∈ found,
      (convert raw).Ends (fun _ => True) (s.Faults p))
    (hRest : ∀ as, s.refuses name = false →
      Build.Ends cluster s (f as) Q (s.Faults p)) :
    Build.Ends cluster s
      (do
        let raws ← Build.list cluster told r
        let as ← convertAll convert raws
        f as)
      Q (s.Faults p) := by
  rw [← bind_assoc]
  exact (ends_converted hReply hNeeded hConvert).bind hRest

/- Discovery succeeds where the plan can be served. -/
theorem ends_discover
    {tag : String}
    (hTyped : s.WellTyped free)
    (hTag : tag ∈ [p.subscribableTag, p.sourceTag]) :
    Build.Ends cluster s (Discovery.discover cluster tag)
      (fun kinds =>
        s.refuses "definitions" = false ∧
        (∀ raw ∈ s.announced tag,
          Definition.resolvable raw = true) ∧
        ∀ coords, coords ∈ kinds ↔
          s.Discovers tag coords)
      (s.Faults p) := by
  apply Build.ends_discover s.steady_cluster
  refine (Store.kinds_of_wellTyped hTyped tag).mono
    (fun _ h => h) ?_
  intro f hFault
  rcases hFault with ⟨hCause, hDocumented⟩
  refine Or.inl ⟨hDocumented, ?_⟩
  intro hServes
  rcases hCause with hRefused | ⟨raw, hMem, hNot⟩
  · rw [hServes.listings "definitions" (by simp)]
      at hRefused
    cases hRefused
  · rw [hServes.resolvable tag hTag raw hMem] at hNot
    cases hNot

/-
  Instances of discovered kinds are converted unless their
  labels do not fit.
-/
theorem ends_instance
    {tag : String}
    {coords : KindCoordinates}
    {raw : Json}
    {convert : Json → Except Failure α}
    (hTyped : s.WellTyped free)
    (hTag : tag ∈ [p.subscribableTag, p.sourceTag])
    (hDiscovers : s.Discovers tag coords)
    (hMem : raw ∈ s.instances coords)
    (hConvert : ∀ free, Resource.shape free raw →
      (convert raw).Ends (fun _ => True)
        fun f => free ≠ [] ∧ f.IsInvalid) :
    (convert raw).Ends (fun _ => True) (s.Faults p) := by
  have hObject := (List.mem_filter.mp hMem).1
  cases hShape : Resource.shape [] raw with
  | true =>
      refine (hConvert [] hShape).mono (fun _ h => h) ?_
      intro f hFault
      rcases hFault with ⟨hFree, _⟩
      exact (hFree rfl).elim
  | false =>
      refine (hConvert free (hTyped .objects raw hObject)).mono
        (fun _ h => h) ?_
      intro f hFault
      rcases hFault with ⟨_, hInvalid⟩
      exact Or.inr
        (.invalid hTag hDiscovers hMem hShape hInvalid)

end Plan

------------------------------------------------------------
-- Providers and Sources
------------------------------------------------------------

namespace Plan

open Store (cluster)

variable {p : Plan} {s : Store} {free : List String}

theorem ends_brokers (hTyped : s.WellTyped free) :
    Build.Ends cluster s (p.brokers cluster)
      (fun _ => s.refuses "brokers" = false)
      (s.Faults p) := by
  have hReply :
      s.replies .brokers =
        s.listing "brokers" s.brokers := rfl
  refine ends_converted hReply
    (fun hServes => hServes.listings _ (by simp)) ?_
  intro raw hMem
  exact (Conversion.broker_of_shape
    (hTyped .brokers raw hMem)).ends

theorem ends_eventTypes (hTyped : s.WellTyped free) :
    Build.Ends cluster s (p.eventTypes cluster)
      (fun _ => s.refuses "eventtypes" = false)
      (s.Faults p) := by
  have hReply :
      s.replies .eventTypes =
        s.listing "eventtypes" s.eventTypes := rfl
  refine ends_converted hReply
    (fun hServes => hServes.listings _ (by simp)) ?_
  intro raw hMem
  refine (Conversion.eventType_of_shape
    (hTyped .eventTypes raw hMem)).mono (fun _ h => h) ?_
  rintro f ⟨hLong, rfl⟩
  exact Or.inr (.unwritten hMem hLong)

theorem ends_subscribables (hTyped : s.WellTyped free) :
    Build.Ends cluster s (p.subscribables cluster)
      (fun _ =>
        s.refuses "definitions" = false ∧
        (∀ raw ∈ s.announced p.subscribableTag,
          Definition.resolvable raw = true) ∧
        ∀ coords, s.Discovers p.subscribableTag coords →
          s.refuses coords.resource = false)
      (s.Faults p) := by
  have hTag :
      p.subscribableTag ∈
        [p.subscribableTag, p.sourceTag] := by simp
  refine (ends_discover hTyped hTag).bind ?_
  intro kinds hKinds
  rcases hKinds with ⟨hServed, hResolvable, hKinds⟩
  have hEach : ∀ coords ∈ kinds,
      Build.Ends cluster s (p.subscribablesOf cluster coords)
        (fun _ => s.refuses coords.resource = false)
        (s.Faults p) := by
    intro coords hKind
    have hDiscovers := (hKinds coords).mp hKind
    refine ends_converted
      (Store.replies_instances hTyped coords)
      (fun hServes => hServes.subscribables _ hDiscovers) ?_
    intro raw hMem
    exact ends_instance hTyped hTag hDiscovers hMem
      fun _ hShape =>
        Conversion.subscribable_of_shape coords hShape
  refine (Build.ends_mapM hEach).bind ?_
  intro parts hAll
  refine Build.ends_pure ⟨hServed, hResolvable, ?_⟩
  intro coords hDiscovers
  rcases hAll.flip.exists_left_of_mem
      ((hKinds coords).mpr hDiscovers) with
    ⟨_, _, hListed⟩
  exact hListed

/- A source kind is listed if its declaration can be read. -/
theorem ends_sourcesOfKind
    {coords : KindCoordinates}
    (hTyped : s.WellTyped free)
    (x : Index)
    (hDiscovers : s.Discovers p.sourceTag coords) :
    Build.Ends cluster s (p.sourcesOfKind cluster x coords)
      (fun _ => ∀ declared,
        p.conversion.declaredTypes coords = .ok declared →
          s.refuses coords.resource = false)
      (s.Faults p) := by
  unfold sourcesOfKind
  cases hDeclared : p.conversion.declaredTypes coords with
  | error f =>
      refine (Build.ends_tell _).bind fun _ _ => ?_
      refine (Build.ends_skip _).bind fun _ _ => ?_
      apply Build.ends_pure
      intro declared hOk
      cases hOk
  | ok declared =>
      refine ends_converted_bind
        (Store.replies_instances hTyped coords)
        (fun hServes => hServes.sources _ declared
          hDiscovers hDeclared) ?_ ?_
      · intro raw hMem
        exact ends_instance hTyped (by simp) hDiscovers hMem
          fun _ hShape =>
            Conversion.source_of_shape coords declared hShape
      · intro found hListed
        exact Build.ends_pure fun _ _ => hListed

theorem ends_sources
    (hTyped : s.WellTyped free)
    (x : Index) :
    Build.Ends cluster s (p.sources cluster x)
      (fun _ =>
        (∀ raw ∈ s.announced p.sourceTag,
          Definition.resolvable raw = true) ∧
        ∀ coords declared,
          s.Discovers p.sourceTag coords →
          p.conversion.declaredTypes coords = .ok declared →
            s.refuses coords.resource = false)
      (s.Faults p) := by
  have hTag :
      p.sourceTag ∈ [p.subscribableTag, p.sourceTag] := by
    simp
  refine (ends_discover hTyped hTag).bind ?_
  intro kinds hKinds
  rcases hKinds with ⟨-, hResolvable, hKinds⟩
  have hEach := Build.ends_mapM fun coords hKind =>
    ends_sourcesOfKind hTyped x ((hKinds coords).mp hKind)
  refine hEach.bind ?_
  intro parts hAll
  refine Build.ends_pure ⟨hResolvable, ?_⟩
  intro coords declared hDiscovers hDeclared
  rcases hAll.flip.exists_left_of_mem
      ((hKinds coords).mpr hDiscovers) with
    ⟨_, _, hListed⟩
  exact hListed declared hDeclared

end Plan

------------------------------------------------------------
-- Subscriptions
------------------------------------------------------------

namespace Plan

open Store (cluster)

variable {p : Plan} {s : Store} {free : List String}

theorem ends_subscriptions (hTyped : s.WellTyped free) :
    Build.Ends cluster s (subscriptions cluster)
      (fun _ =>
        s.refuses "triggers" = false ∧
          s.refuses "subscriptions" = false)
      (s.Faults p) := by
  have hTriggers :
      s.replies .triggers =
        s.listing "triggers" s.triggers := rfl
  have hSubscriptions :
      s.replies .subscriptions =
        s.listing "subscriptions" s.subscriptions := rfl
  refine ends_converted_bind hTriggers
    (fun hServes => hServes.listings _ (by simp)) ?_ ?_
  · intro raw hMem
    exact (Conversion.trigger_of_shape
      (hTyped .triggers raw hMem)).ends
  · intro triggers hFirst
    refine ends_converted_bind hSubscriptions
      (fun hServes => hServes.listings _ (by simp)) ?_ ?_
    · intro raw hMem
      exact (Conversion.channelSubscription_of_shape
        (hTyped .subscriptions raw hMem)).ends
    · intro others hLast
      exact Build.ends_pure ⟨hFirst, hLast⟩

end Plan

------------------------------------------------------------
-- Filing
------------------------------------------------------------

namespace Consumption

open Store (cluster)
open Log (SubscriptionOutcome)

/- Every identity that is filed meets a condition. -/
def All (G : Json → Prop) (known : Consumption) : Prop :=
  ∀ id, ∀ v ∈ Table.pushed id known, G v

theorem mem_addOnce
    {known : List Json}
    {v w : Json}
    (hMem : v ∈ addOnce w known) :
    v ∈ known ∨ v = w := by
  unfold addOnce at hMem
  split at hMem
  · exact Or.inl hMem
  · simpa using hMem

theorem mem_addAll
    {known vs : List Json}
    {v : Json}
    (hMem : v ∈ addAll known vs) :
    v ∈ known ∨ v ∈ vs := by
  induction vs generalizing known with
  | nil => exact Or.inl hMem
  | cons w vs ih =>
      rcases ih hMem with hFirst | hRest
      · rcases mem_addOnce hFirst with hKnown | rfl
        · exact Or.inl hKnown
        · exact Or.inr List.mem_cons_self
      · exact Or.inr (List.mem_cons_of_mem w hRest)

/- Filing adds nothing but the identity, which is a key. -/
theorem fileAll_ends
    {G : Json → Prop}
    {known : Consumption}
    {v : Json}
    (ids : List String)
    (hAll : known.All G)
    (hGood : v.isKey = true → G v) :
    (known.fileAll v ids).Ends (All G)
      (fun e => v.isKey = false ∧ e = .notKey v.kind) := by
  unfold fileAll
  split
  case isTrue hFiles =>
    intro id w hMem
    rw [pushed_foldl_file] at hMem
    rcases mem_addAll hMem with hOld | hNew
    · exact hAll id w hOld
    · rcases List.mem_map.mp hNew with ⟨id', hId, rfl⟩
      have hReceived := (List.mem_filter.mp hId).1
      have hSome : ids.isEmpty = false :=
        List.isEmpty_eq_false_iff.mpr
          (List.ne_nil_of_mem hReceived)
      rw [hSome, Bool.or_false] at hFiles
      exact hGood hFiles
  case isFalse hFails =>
    rw [Bool.or_eq_true, not_or] at hFails
    exact ⟨Bool.not_eq_true _ ▸ hFails.1, rfl⟩

variable {p : Plan} {s : Store} {free : List String}

/- A resolved identity is a true label of an instance. -/
theorem ends_outcome
    {E : Failure → Prop}
    (hTyped : s.WellTyped free)
    (x : Index)
    (sub : Subscription) :
    Build.Ends cluster s
      (outcome cluster p.identityLabel x sub)
      (fun o => ∀ v ids, o = .resolved v ids →
        v.truthy = true ∧
          ∃ raw ∈ s.objects, v = p.identityOf raw)
      E := by
  unfold outcome
  cases hSettle : settle x sub with
  | inl o =>
      apply Build.ends_pure
      rintro v ids rfl
      exact (settle_ne_resolved hSettle).elim
  | inr found =>
      rcases found with ⟨target, ref⟩
      refine (Build.ends_attempt s.steady_cluster _).bind ?_
      rintro _ rfl
      have hIdentity := Store.identity_of_wellTyped hTyped
        ref p.identityLabel
      rcases hReply :
          s.replies (.identity ref p.identityLabel)
        with e | v
      · rw [hReply] at hIdentity
        rcases hIdentity with ⟨m | ⟨m, status⟩, rfl⟩
        all_goals
          apply Build.ends_pure
          intro v ids hResolved
          cases hResolved
      · rw [hReply] at hIdentity
        apply Build.ends_pure
        intro v' ids hResolved
        unfold resolve at hResolved
        split at hResolved
        · rename_i hTruthy
          cases hResolved
          refine ⟨hTruthy, ?_⟩
          rcases hIdentity with rfl | hFound
          · cases hTruthy
          · exact hFound
        · cases hResolved

/- One turn files identities or fails with a misfit. -/
theorem ends_process
    {known : Consumption}
    (hTyped : s.WellTyped free)
    (x : Index)
    (hAll : known.All (s.IsIdentity p))
    (sub : Subscription) :
    Build.Ends cluster s
      (process cluster p.identityLabel x known sub)
      (All (s.IsIdentity p)) (s.Faults p) := by
  refine (ends_outcome hTyped x sub).bind ?_
  intro o hOutcome
  refine (Build.ends_tell _).bind fun _ _ => ?_
  cases o with
  | resolved v ids =>
      rcases hOutcome v ids rfl with ⟨hTruthy, raw, hMem, rfl⟩
      have hFiled := fileAll_ends ids hAll
        fun hKey => ⟨hTruthy, hKey, raw, hMem, rfl⟩
      apply Build.ends_ofExcept
      cases hGiven :
          known.fileAll (p.identityOf raw) ids with
      | ok known' =>
          rw [hGiven] at hFiled
          exact hFiled
      | error e =>
          rw [hGiven] at hFiled
          rcases hFiled with ⟨hKey, rfl⟩
          exact Or.inr (.unfiled hMem hTruthy hKey)
  | lookupFailed words =>
      exact (Build.ends_skip _).bind fun _ _ =>
        Build.ends_pure hAll
  | _ => exact Build.ends_pure hAll

end Consumption

namespace Plan

open Store (cluster)

variable {p : Plan} {s : Store} {free : List String}

/- All subscriptions have their turns, in order. -/
theorem ends_consumption
    (hTyped : s.WellTyped free)
    (x : Index)
    (ss : List Subscription) :
    Build.Ends cluster s (p.consumption cluster x ss)
      (Consumption.All (s.IsIdentity p)) (s.Faults p) := by
  apply Build.ends_foldlM
  · intro known hAll sub _
    exact Consumption.ends_process hTyped x hAll sub
  · intro id v hMem
    cases hMem

end Plan

------------------------------------------------------------
-- Builds
------------------------------------------------------------

namespace Plan

open Store (cluster)

variable {p : Plan} {s : Store} {free : List String}

/-
  A build over a well-typed store gives a mesh, and then the
  store serves the plan, or it fails as is documented, and
  then the store does not, or else it meets a misfit.
-/
theorem ends_build (hTyped : s.WellTyped free) :
    Build.Ends cluster s (p.build cluster)
      (fun m => s.Serves p ∧
        ∀ e ∈ m.eventTypes, ∀ v ∈ e.consumedBy,
          s.IsIdentity p v)
      (s.Faults p) := by
  have hProviders :
      Build.Ends cluster s (p.providers cluster)
        (fun _ => s.refuses "brokers" = false ∧
          s.refuses "definitions" = false ∧
          (∀ raw ∈ s.announced p.subscribableTag,
            Definition.resolvable raw = true) ∧
          ∀ coords, s.Discovers p.subscribableTag coords →
            s.refuses coords.resource = false)
        (s.Faults p) := by
    refine (ends_brokers hTyped).bind ?_
    intro bs hBrokers
    refine (ends_subscribables hTyped).bind ?_
    intro ss hSubscribables
    exact Build.ends_pure ⟨hBrokers, hSubscribables⟩
  refine hProviders.bind ?_
  intro x hX
  rcases hX with ⟨hBrokers, hDefinitions, hResolvable, hListed⟩
  refine (ends_eventTypes hTyped).bind ?_
  intro es hEventTypes
  refine (Build.ends_tellAll _).bind fun _ _ => ?_
  refine (ends_sources hTyped _).bind ?_
  intro sources hSources
  rcases hSources with ⟨hResolvable', hListed'⟩
  refine (ends_subscriptions hTyped).bind ?_
  intro ss hSs
  rcases hSs with ⟨hTriggers, hSubscriptions⟩
  refine (ends_consumption hTyped _ ss).bind ?_
  intro consumed hAll
  refine (Build.ends_tell _).bind fun _ _ => ?_
  refine Build.ends_pure ⟨?_, ?_⟩
  · refine ⟨?_, ?_, hListed, hListed'⟩
    · simpa using ⟨hBrokers, hEventTypes, hTriggers,
        hSubscriptions, hDefinitions⟩
    · simpa using ⟨hResolvable, hResolvable'⟩
  · intro e hMem v hConsumer
    rcases List.mem_map.mp hMem with ⟨entry, _, rfl⟩
    exact hAll entry.1 v hConsumer

/- The outcome of a run is that of its build. -/
theorem ends_run (hTyped : s.WellTyped free) :
    (p.run cluster s).1.Ends
      (fun m => s.Serves p ∧
        ∀ e ∈ m.eventTypes, ∀ v ∈ e.consumedBy,
          s.IsIdentity p v)
      (s.Faults p) :=
  (ends_build hTyped _ (cluster.keeps_start s)).2

end Plan

end EventTopology
