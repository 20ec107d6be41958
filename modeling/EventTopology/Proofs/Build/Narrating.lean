import EventTopology.Proofs.Build.Hearing
import EventTopology.Cluster.Store
import EventTopology.Client.Session
import EventTopology.Build.Plan

/-
  This file follows what a build tells of subscriptions.  It
  adds to what a step hears the events that it tells, as far
  as they are about subscriptions; a cluster that tells none
  of these is quiet.

  Key definitions include:
    * `Log.Event.isSubscription`
    * `Cluster.Quiet`
    * `Build.Mute`
    * `Build.Narrates`

  What steps tell is described by:
    * `Plan.mute_collect`
    * `Build.Hears.narrates`
    * `Build.narrates_bind`
-/

------------------------------------------------------------
-- Events of Subscriptions
------------------------------------------------------------

namespace EventTopology

namespace Log.Event

/- Is an event named as one of a subscription? -/
def isSubscription (e : Event) : Bool :=
  "mesh.subscription.".toList.isPrefixOf
    e.entry.event.toList

/- Only outcomes of subscriptions have such names. -/
theorem isSubscription_eq (e : Event) :
    e.isSubscription =
      match e with
      | .subscription _ _ _ _ => true
      | _ => false := by
  cases e with
  | subscription o origin ns name =>
      cases o <;>
        simp [isSubscription, entry,
          SubscriptionOutcome.entry]
  | _ => simp [isSubscription, entry, List.isPrefixOf]

end Log.Event

/- What a run has told of subscriptions, in order. -/
def Run.told
    {σ : Type}
    (run : Run σ) : List Log.Event :=
  run.events.filter (·.isSubscription)

------------------------------------------------------------
-- Quiet Clusters
------------------------------------------------------------

/- The answers of a cluster tell nothing of subscriptions. -/
def Cluster.Quiet
    {σ : Type}
    (c : Cluster σ) : Prop :=
  ∀ r s, ∀ e ∈ (c.answer r s).events,
    e.isSubscription = false

theorem Cluster.quiet_ofTable
    (table : Request → Except Failure Json) :
    (Cluster.ofTable table).Quiet := by
  intro r s e hMem
  cases hMem

/- A store tells at most which subscriber it lacks. -/
theorem Store.quiet_cluster : Store.cluster.Quiet := by
  intro r s e hMem
  change e ∈ (s.answer r).2 at hMem
  rw [Log.Event.isSubscription_eq]
  cases r with
  | identity ref label =>
      change e ∈ (s.resolveIdentity ref label).2 at hMem
      unfold Store.resolveIdentity at hMem
      split at hMem
      · cases hMem
      · split at hMem
        · cases hMem
        · rcases List.mem_singleton.mp hMem with rfl
          rfl
        · cases hMem
  | _ => cases hMem

namespace Session

open Client

theorem quiet_list
    {lib : Library}
    {group version plural tag : String}
    {s : Session}
    {e : Log.Event}
    (hMem :
      e ∈ (list lib group version plural tag s).events) :
    e.isSubscription = false := by
  rw [Log.Event.isSubscription_eq]
  unfold list at hMem
  dsimp only at hMem
  split at hMem
  · cases hMem
  · rename_i f s' _
    cases f with
    | api status reason =>
        rcases List.mem_singleton.mp hMem with rfl
        rfl
    | lookup missing status reason =>
        rcases List.mem_singleton.mp hMem with rfl
        rfl
    | http words =>
        rcases List.mem_singleton.mp hMem with rfl
        rfl
    | _ => cases hMem

theorem quiet_resolveIdentity
    {lib : Library}
    {ref : ObjectReference}
    {label : String}
    {s : Session}
    {e : Log.Event}
    (hMem :
      e ∈ (resolveIdentity lib ref label s).events) :
    e.isSubscription = false := by
  rw [Log.Event.isSubscription_eq]
  unfold resolveIdentity at hMem
  split at hMem
  · cases hMem
  · rename_i f s' _
    cases f with
    | noSuchKind =>
        rcases List.mem_singleton.mp hMem with rfl
        rfl
    | lookup missing =>
        cases missing with
        | true =>
            rcases List.mem_singleton.mp hMem with rfl
            rfl
        | false => cases hMem
    | _ => cases hMem

/- A session tells at most which calls have failed. -/
theorem quiet_cluster (lib : Library) :
    (cluster lib).Quiet := by
  intro r s e hMem
  cases r with
  | identity ref label => exact quiet_resolveIdentity hMem
  | _ => exact quiet_list hMem

end Session

------------------------------------------------------------
-- Mute Steps
------------------------------------------------------------

namespace Build

variable {σ α β : Type}

/- A step that tells nothing of subscriptions. -/
def Mute (b : Build σ α) : Prop :=
  ∀ run, (exec b run).2.told = run.told

theorem mute_tell
    {e : Log.Event}
    (hOther : e.isSubscription = false) :
    Mute (tell e : Build σ Unit) := by
  intro run
  simp [Run.told, hOther]

theorem mute_tellAll
    {es : List Log.Event}
    (hOthers : ∀ e ∈ es, e.isSubscription = false) :
    Mute (tellAll es : Build σ Unit) := by
  intro run
  have hNone : es.filter (·.isSubscription) = [] := by
    simpa using hOthers
  simp [Run.told, hNone]

theorem mute_attempt
    {c : Cluster σ}
    (hQuiet : c.Quiet)
    (r : Request) :
    Mute (attempt c r) := by
  intro run
  have hNone :
      (c.answer r run.state).events.filter
        (·.isSubscription) = [] := by
    simpa using hQuiet r run.state
  simp [Run.told, hNone]

theorem Mute.bind
    {b : Build σ α}
    {f : α → Build σ β}
    (hFirst : Mute b)
    (hRest : ∀ a, Mute (f a)) :
    Mute (b >>= f) := by
  intro run
  have hTold := hFirst run
  rw [exec_bind]
  rcases hExec : exec b run with ⟨e | a, next⟩ <;>
    rw [hExec] at hTold
  case error => exact hTold
  case ok => exact (hRest a next).trans hTold

theorem mute_mapM
    {f : α → Build σ β}
    (hEach : ∀ a, Mute (f a))
    (as : List α) :
    Mute (as.mapM f) := by
  induction as with
  | nil => exact fun _ => rfl
  | cons a as ih =>
      rw [List.mapM_cons]
      exact (hEach a).bind fun b => ih.bind fun bs _ => rfl

theorem mute_list
    {c : Cluster σ}
    (hQuiet : c.Quiet)
    (name : String)
    (r : Request) :
    Mute (list c name r) := by
  refine (mute_attempt hQuiet r).bind fun o => ?_
  have hOther (n : String) :=
    Log.Event.isSubscription_eq (.listingNotFound n)
  have hFailed (n w : String) :=
    Log.Event.isSubscription_eq (.listingFailed n w)
  rcases o with e | v
  · rcases e with (m | ⟨m, status⟩) | _
    case cluster.notFound =>
      exact (mute_tell (hOther name)).bind fun _ _ => rfl
    case cluster.failed =>
      exact (mute_tell (hFailed name m)).bind fun _ _ => rfl
    all_goals exact fun _ => rfl
  · exact fun _ => rfl

end Build

namespace Plan

open Build

variable {σ α : Type}
variable {c : Cluster σ}

/- Neither listing nor reading tells of subscriptions. -/
theorem mute_converted
    (hQuiet : c.Quiet)
    (name : String)
    (r : Request)
    (convert : Json → Except Failure α) :
    Mute
      (do convertAll convert (← Build.list c name r)) :=
  (mute_list hQuiet name r).bind fun _ _ => rfl

theorem mute_discover
    (hQuiet : c.Quiet)
    (tag : String) :
    Mute (Discovery.discover c tag) := by
  refine (mute_attempt hQuiet _).bind fun o => ?_
  have hNone :=
    Log.Event.isSubscription_eq (.definitionsNotFound tag)
  have hSome (kinds : List String) :=
    Log.Event.isSubscription_eq (.kindsDiscovered tag kinds)
  rcases o with e | v
  · rcases e with (m | ⟨m, status⟩) | _
    case cluster.notFound =>
      exact (mute_tell hNone).bind fun _ _ => rfl
    all_goals exact fun _ => rfl
  · refine Mute.bind (fun _ => rfl) fun kinds => ?_
    exact (mute_tell (hSome _)).bind fun _ _ => rfl

end Plan

/- Linking tells only of references that dangle. -/
theorem Index.isSubscription_linkAll
    (x : Index)
    (es : List (String × EventType)) :
    ∀ e ∈ (x.linkAll es).2, e.isSubscription = false := by
  induction es generalizing x with
  | nil => simp [linkAll]
  | cons entry es ih =>
      rcases entry with ⟨id, eventType⟩
      have hFirst : ∀ e ∈ (x.linkEventType id eventType).2,
          e.isSubscription = false := by
        intro e hMem
        rw [Log.Event.isSubscription_eq]
        unfold linkEventType at hMem
        split at hMem
        · cases hMem
        · split at hMem
          · cases hMem
          · rcases List.mem_singleton.mp hMem with rfl
            rfl
      intro e hMem
      rcases List.mem_append.mp hMem with hMem | hMem
      · exact hFirst e hMem
      · exact ih _ e hMem

namespace Plan

open Build

variable {σ : Type}
variable {c : Cluster σ}

theorem mute_providers
    (hQuiet : c.Quiet)
    (p : Plan) :
    Mute (p.providers c) := by
  refine (mute_converted hQuiet _ _ _).bind fun bs => ?_
  refine Mute.bind ?_ fun ss _ => rfl
  refine (mute_discover hQuiet _).bind fun kinds => ?_
  refine (mute_mapM (fun coords => ?_) kinds).bind
    fun parts _ => rfl
  exact mute_converted hQuiet _ _ _

theorem mute_sourcesOfKind
    (hQuiet : c.Quiet)
    (p : Plan)
    (x : Index)
    (coords : KindCoordinates) :
    Mute (p.sourcesOfKind c x coords) := by
  unfold sourcesOfKind
  cases p.conversion.declaredTypes coords with
  | error f =>
      have hOther :=
        Log.Event.isSubscription_eq
          (.sourceKindSkipped coords.definition f.message)
      exact (mute_tell hOther).bind fun _ =>
        Mute.bind (fun _ => rfl) fun _ _ => rfl
  | ok declared =>
      change Mute (p.sourcesOf c x coords declared)
      refine Mute.bind (mute_list hQuiet _ _) fun raws => ?_
      exact Mute.bind (fun _ => rfl) fun found _ => rfl

theorem mute_sources
    (hQuiet : c.Quiet)
    (p : Plan)
    (x : Index) :
    Mute (p.sources c x) := by
  refine (mute_discover hQuiet _).bind fun kinds => ?_
  exact (mute_mapM (p.mute_sourcesOfKind hQuiet x) kinds).bind
    fun parts _ => rfl

theorem mute_subscriptions (hQuiet : c.Quiet) :
    Mute (subscriptions c) := by
  unfold subscriptions
  refine (mute_list hQuiet _ _).bind fun raws => ?_
  refine Mute.bind (fun _ => rfl) fun triggers => ?_
  refine (mute_list hQuiet _ _).bind fun raws' => ?_
  exact Mute.bind (fun _ => rfl) fun others _ => rfl

end Plan

------------------------------------------------------------
-- What Steps Narrate
------------------------------------------------------------

namespace Build

variable {σ α β : Type}

/-
  What a step gives is tied to what it hears and skips, as
  in `Hears`, and to what it tells of subscriptions.  What
  it tells is only known where the cluster is quiet.
-/
def Narrates
    (c : Cluster σ)
    (s : σ)
    (b : Build σ α)
    (P : Answers → α → List SkipReason →
      List Log.Event → Prop) : Prop :=
  ∀ run, c.Keeps s run →
    c.Keeps s (exec b run).2 ∧
    run.requests <+: (exec b run).2.requests ∧
    ∀ a run', exec b run = (.ok a, run') →
      ∃ skipped told, run'.skips = run.skips ++ skipped ∧
        (c.Quiet → run'.told = run.told ++ told) ∧
        ∀ answers : Answers,
          (∀ r o, c.Heard s run'.requests r o →
            answers r o) →
          P answers a skipped told

variable {c : Cluster σ} {s : σ}
variable
  {P Q : Answers → α → List SkipReason →
    List Log.Event → Prop}

/- What a step narrates may be told less exactly. -/
theorem Narrates.mono
    {b : Build σ α}
    (hNarrates : Narrates c s b P)
    (hSub : ∀ answers a skipped told,
      P answers a skipped told → Q answers a skipped told) :
    Narrates c s b Q := by
  intro run hKeeps
  rcases hNarrates run hKeeps with ⟨hKept, hPrefix, hEnd⟩
  refine ⟨hKept, hPrefix, ?_⟩
  intro a run' hExec
  rcases hEnd a run' hExec with
    ⟨skipped, told, hSkips, hTold, hP⟩
  exact ⟨skipped, told, hSkips, hTold,
    fun answers hAnswers =>
      hSub _ _ _ _ (hP answers hAnswers)⟩

/- What is told may be left out. -/
theorem Narrates.hears
    {b : Build σ α}
    {R : Answers → α → List SkipReason → Prop}
    (hNarrates : Narrates c s b P)
    (hSub : ∀ answers a skipped told,
      P answers a skipped told → R answers a skipped) :
    Hears c s b R := by
  intro run hKeeps
  rcases hNarrates run hKeeps with ⟨hKept, hPrefix, hEnd⟩
  refine ⟨hKept, hPrefix, ?_⟩
  intro a run' hExec
  rcases hEnd a run' hExec with ⟨skipped, told, hSkips, _, hP⟩
  exact ⟨skipped, hSkips, fun answers hAnswers =>
    hSub _ _ _ _ (hP answers hAnswers)⟩

/- A step that hears and is mute tells nothing. -/
theorem Hears.narrates
    {b : Build σ α}
    {R : Answers → α → List SkipReason → Prop}
    (hHears : Hears c s b R)
    (hMute : c.Quiet → Mute b) :
    Narrates c s b (fun answers a skipped told =>
      R answers a skipped ∧ told = []) := by
  intro run hKeeps
  rcases hHears run hKeeps with ⟨hKept, hPrefix, hEnd⟩
  refine ⟨hKept, hPrefix, ?_⟩
  intro a run' hExec
  rcases hEnd a run' hExec with ⟨skipped, hSkips, hR⟩
  refine ⟨skipped, [], hSkips, ?_, fun answers hAnswers =>
    ⟨hR answers hAnswers, rfl⟩⟩
  intro hQuiet
  have hTold := hMute hQuiet run
  rw [hExec] at hTold
  exact hTold.trans (List.append_nil _).symm

/- An event of a subscription is all that is told of it. -/
theorem narrates_tell
    {e : Log.Event}
    (hNamed : e.isSubscription = true) :
    Narrates c s (tell e) (fun _ _ skipped told =>
      skipped = [] ∧ told = [e]) := by
  intro run hKeeps
  refine ⟨hKeeps, List.prefix_rfl, ?_⟩
  intro a run' hExec
  cases hExec
  refine ⟨[], [e], by simp, ?_, fun _ _ => ⟨rfl, rfl⟩⟩
  intro _
  simp [Run.told, hNamed]

/- The parts of a composed step narrate one after the other. -/
theorem narrates_bind
    {b : Build σ α}
    {f : α → Build σ β}
    {R : α → Answers → β → List SkipReason →
      List Log.Event → Prop}
    (hFirst : Narrates c s b P)
    (hRest : ∀ a, Narrates c s (f a) (R a)) :
    Narrates c s (b >>= f) (fun answers z skipped told =>
      ∃ a early late toldEarly toldLate,
        P answers a early toldEarly ∧
        R a answers z late toldLate ∧
        skipped = early ++ late ∧
        told = toldEarly ++ toldLate) := by
  intro run hKeeps
  rcases hFirst run hKeeps with ⟨hKept, hPrefix, hEnd⟩
  rw [exec_bind]
  rcases hExec : exec b run with ⟨e | a, run'⟩
  · rw [hExec] at hKept hPrefix
    exact ⟨hKept, hPrefix, nofun⟩
  · rw [hExec] at hKept hPrefix
    rcases hRest a run' hKept with
      ⟨hKept', hPrefix', hEnd'⟩
    refine ⟨hKept', hPrefix.trans hPrefix', ?_⟩
    intro z run'' hExec'
    simp only [hExec'] at hPrefix'
    rcases hEnd a run' hExec with
      ⟨early, toldEarly, hEarly, hToldEarly, hP⟩
    rcases hEnd' z run'' hExec' with
      ⟨late, toldLate, hLate, hToldLate, hR⟩
    refine ⟨early ++ late, toldEarly ++ toldLate, ?_, ?_,
      ?_⟩
    · rw [hLate, hEarly, List.append_assoc]
    · intro hQuiet
      rw [hToldLate hQuiet, hToldEarly hQuiet,
        List.append_assoc]
    · intro answers hAnswers
      refine ⟨a, early, late, toldEarly, toldLate, ?_,
        hR answers hAnswers, rfl, rfl⟩
      apply hP answers
      intro r o hHeard
      exact hAnswers r o (hHeard.mono hPrefix')

end Build

end EventTopology
