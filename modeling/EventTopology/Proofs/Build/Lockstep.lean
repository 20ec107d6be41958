import EventTopology.Proofs.Build.Findings

/-
  This file compares two builds step by step.  Each goes over
  a cluster of its own, and both ask the same requests in the
  same order, so that what they give depends only on how the
  answers compare.  The clusters may be of any kind; nothing
  is assumed about an answer but what it is compared with.

  Key definitions include:
    * `Except.Matches`
    * `Cluster.Corresponds`
    * `Twins`
    * `Twins.InStep`
    * `Build.Alike`

  How composed steps compare is described by:
    * `Build.Alike.bind`
    * `Build.alike_mapM`
    * `Build.alike_mapM_filter`
    * `Build.alike_foldlM`
-/

------------------------------------------------------------
-- Matching Outcomes
------------------------------------------------------------

namespace Except

variable {ε α β γ δ : Type}

/- Two outcomes are values in relation or errors in another. -/
def Matches
    (o : Except ε α)
    (o' : Except ε β)
    (R : α → β → Prop)
    (E : ε → ε → Prop) : Prop :=
  match o, o' with
  | .ok a, .ok b => R a b
  | .error e, .error e' => E e e'
  | _, _ => False

variable {o : Except ε α} {o' : Except ε β}
variable {R S : α → β → Prop}
variable {E F : ε → ε → Prop}

/- A match may be told less exactly. -/
theorem Matches.mono
    (hMatches : o.Matches o' R E)
    (hValue : ∀ a b, R a b → S a b)
    (hError : ∀ e e', E e e' → F e e') :
    o.Matches o' S F := by
  cases o with
  | ok a =>
      cases o' with
      | ok b => exact hValue a b hMatches
      | error e' => exact hMatches
  | error e =>
      cases o' with
      | ok b => exact hMatches
      | error e' => exact hError e e' hMatches

/- An outcome matches itself. -/
theorem matches_self
    {R : α → α → Prop}
    (o : Except ε α)
    (hValue : ∀ a, o = .ok a → R a a)
    (hError : ∀ e, E e e) :
    o.Matches o R E := by
  cases o with
  | ok a => exact hValue a rfl
  | error e => exact hError e

/- What follows two outcomes may rely on how they match. -/
theorem Matches.bind
    {f : α → Except ε γ}
    {f' : β → Except ε δ}
    {Q : γ → δ → Prop}
    (hFirst : o.Matches o' R E)
    (hRest : ∀ a b, R a b → (f a).Matches (f' b) Q E) :
    (o >>= f).Matches (o' >>= f') Q E := by
  cases o with
  | ok a =>
      cases o' with
      | ok b => exact hRest a b hFirst
      | error e' => exact hFirst.elim
  | error e =>
      cases o' with
      | ok b => exact hFirst.elim
      | error e' => exact hFirst

/- What matches a value is a value. -/
theorem Matches.exists_ok
    {a : α}
    (hMatches : o.Matches o' R E)
    (hOk : o = .ok a) :
    ∃ b, o' = .ok b ∧ R a b := by
  subst hOk
  cases o' with
  | ok b => exact ⟨b, rfl, hMatches⟩
  | error e' => exact hMatches.elim

/- Outcomes that match as equals are equal. -/
theorem eq_of_matches
    {o o' : Except ε α}
    (hMatches : o.Matches o' (fun a b => b = a)
      fun e e' => e' = e) :
    o' = o := by
  cases o with
  | ok a =>
      cases o' with
      | ok b => exact congrArg Except.ok hMatches
      | error e' => exact hMatches.elim
  | error e =>
      cases o' with
      | ok b => exact hMatches.elim
      | error e' => exact congrArg Except.error hMatches

end Except

------------------------------------------------------------
-- Twins
------------------------------------------------------------

namespace EventTopology

/-
  After the same requests, two clusters answer the next one
  in correspondence, each from a state of its own.
-/
def Cluster.Corresponds
    {σ τ : Type}
    (c : Cluster σ)
    (s : σ)
    (d : Cluster τ)
    (t : τ)
    (A : Request → Except Failure Json →
      Except Failure Json → Prop) : Prop :=
  ∀ before r, A r (c.answer r (c.after s before)).outcome
    (d.answer r (d.after t before)).outcome

/-
  Two clusters, each in a state of its own, over which two
  builds go in step.
-/
structure Twins (σ τ : Type) where
  first : Cluster σ
  firstState : σ
  second : Cluster τ
  secondState : τ
  /- What the builds may ask. -/
  mayAsk : Request → Prop := fun _ => True
  /- The reasons that both builds note at the same items. -/
  shares : SkipReason → Bool := fun _ => true

namespace Twins

variable {σ τ : Type}

/-
  The two clusters give these answers to a request, after
  the same requests before.
-/
def Answered
    (w : Twins σ τ)
    (r : Request)
    (o o' : Except Failure Json) : Prop :=
  ∃ before,
    o = (w.first.answer r
      (w.first.after w.firstState before)).outcome ∧
    o' = (w.second.answer r
      (w.second.after w.secondState before)).outcome

/- Corresponding clusters give corresponding answers. -/
theorem Answered.corresponds
    {w : Twins σ τ}
    {r : Request}
    {o o' : Except Failure Json}
    {A : Request → Except Failure Json →
      Except Failure Json → Prop}
    (hAnswered : w.Answered r o o')
    (hCorresponds : w.first.Corresponds w.firstState
      w.second w.secondState A) :
    A r o o' := by
  rcases hAnswered with ⟨before, rfl, rfl⟩
  exact hCorresponds before r

/- A request that may be asked is answered alike. -/
def Agree (w : Twins σ τ) (r : Request) : Prop :=
  w.mayAsk r ∧ ∀ o o', w.Answered r o o' → o' = o

/- Where answers correspond as equals, clusters agree. -/
theorem agree_of_corresponds
    {w : Twins σ τ}
    {r : Request}
    {A : Request → Except Failure Json →
      Except Failure Json → Prop}
    (hAsk : w.mayAsk r)
    (hCorresponds : w.first.Corresponds w.firstState
      w.second w.secondState A)
    (hSame : ∀ o o', A r o o' → o' = o) :
    w.Agree r :=
  ⟨hAsk, fun o o' hAnswered =>
    hSame o o' (hAnswered.corresponds hCorresponds)⟩

/- Two runs have asked and noted the same. -/
structure InStep
    (w : Twins σ τ)
    (run : Run σ)
    (run' : Run τ) : Prop where
  keeps : w.first.Keeps w.firstState run
  keeps' : w.second.Keeps w.secondState run'
  requests : run'.requests = run.requests
  asked : ∀ r ∈ run.requests, w.mayAsk r
  skips : run'.skips.filter w.shares =
    run.skips.filter w.shares

/- Two runs that have not begun are in step. -/
theorem inStep_start (w : Twins σ τ) :
    w.InStep ⟨w.firstState, [], [], []⟩
      ⟨w.secondState, [], [], []⟩ where
  keeps := w.first.keeps_start w.firstState
  keeps' := w.second.keeps_start w.secondState
  requests := rfl
  asked := by simp
  skips := rfl

end Twins

------------------------------------------------------------
-- Steps in Step
------------------------------------------------------------

namespace Build

variable {σ τ α β : Type}

/-
  From runs in step, two steps of builds lead to runs in step
  and have outcomes that match.
-/
def Alike
    (w : Twins σ τ)
    (b : Build σ α)
    (b' : Build τ β)
    (R : α → β → Prop)
    (E : Failure → Failure → Prop) : Prop :=
  ∀ run run', w.InStep run run' →
    w.InStep (exec b run).2 (exec b' run').2 ∧
      (exec b run).1.Matches (exec b' run').1 R E

variable {w : Twins σ τ}
variable {b : Build σ α} {b' : Build τ β}
variable {R S : α → β → Prop}
variable {E F : Failure → Failure → Prop}

theorem Alike.mono
    (hAlike : Alike w b b' R E)
    (hValue : ∀ a a', R a a' → S a a')
    (hFailure : ∀ e e', E e e' → F e e') :
    Alike w b b' S F := by
  intro run run' hStep
  rcases hAlike run run' hStep with ⟨hStep', hMatches⟩
  exact ⟨hStep', hMatches.mono hValue hFailure⟩

theorem alike_pure
    {a : α}
    {a' : β}
    (hValue : R a a') :
    Alike w (pure a) (pure a') R E :=
  fun _ _ hStep => ⟨hStep, hValue⟩

theorem alike_throw
    {e e' : Failure}
    (hFailure : E e e') :
    Alike w (throw e) (throw e') R E :=
  fun _ _ hStep => ⟨hStep, hFailure⟩

theorem alike_ofExcept
    {o : Except Failure α}
    {o' : Except Failure β}
    (hMatches : o.Matches o' R E) :
    Alike w (ofExcept o) (ofExcept o') R E :=
  fun _ _ hStep => ⟨hStep, hMatches⟩

/- What is told is not compared. -/
theorem alike_tellAll (es es' : List Log.Event) :
    Alike w (tellAll es) (tellAll es')
      (fun _ _ => True) E :=
  fun _ _ hStep => ⟨{ hStep with }, trivial⟩

theorem alike_tell (e e' : Log.Event) :
    Alike w (tell e) (tell e') (fun _ _ => True) E :=
  fun _ _ hStep => ⟨{ hStep with }, trivial⟩

theorem alike_skip (r : SkipReason) :
    Alike w (skip r) (skip r) (fun _ _ => True) E := by
  intro run run' hStep
  refine ⟨{ hStep with skips := ?_ }, trivial⟩
  simp only [exec_skip, List.filter_append, hStep.skips]

/- Both clusters are asked, and each gives its answer. -/
theorem alike_attempt
    {r : Request}
    (hAsk : w.mayAsk r) :
    Alike w (attempt w.first r) (attempt w.second r)
      (w.Answered r) E := by
  intro run run' hStep
  have hState : run.state =
      w.first.after w.firstState run.requests := hStep.keeps
  have hState' : run'.state =
      w.second.after w.secondState run.requests :=
    hStep.requests ▸ hStep.keeps'
  refine ⟨⟨?_, ?_, ?_, ?_, hStep.skips⟩, ?_⟩
  · exact hStep.keeps.attempt r
  · exact hStep.keeps'.attempt r
  · simp only [exec_attempt, hStep.requests]
  · intro r' hMem
    rcases List.mem_append.mp hMem with hOld | hNew
    · exact hStep.asked r' hOld
    · rw [List.mem_singleton.mp hNew]
      exact hAsk
  · refine ⟨run.requests, ?_, ?_⟩
    · rw [← hState]
    · rw [← hState']

/- What follows two steps may rely on how they compare. -/
theorem Alike.bind
    {γ δ : Type}
    {f : α → Build σ γ}
    {f' : β → Build τ δ}
    {Q : γ → δ → Prop}
    (hFirst : Alike w b b' R E)
    (hRest : ∀ a a', R a a' →
      Alike w (f a) (f' a') Q E) :
    Alike w (b >>= f) (b' >>= f') Q E := by
  intro run run' hStep
  rcases hFirst run run' hStep with ⟨hStep', hMatches⟩
  rw [exec_bind, exec_bind]
  rcases hExec : exec b run with ⟨e | a, next⟩ <;>
    rcases hExec' : exec b' run' with ⟨e' | a', next'⟩ <;>
    rw [hExec, hExec'] at hStep' hMatches
  case error.error => exact ⟨hStep', hMatches⟩
  case ok.ok => exact hRest a a' hMatches next next' hStep'
  all_goals exact hMatches.elim

/-
  Where a build gets to its end, so does the first of its
  steps, in both of two runs in step.
-/
theorem Alike.ok_of_bind
    {γ δ : Type}
    {f : α → Build σ γ}
    {run last : Run σ}
    {run' : Run τ}
    {z : γ}
    (hAlike : Alike w b b' R E)
    (hStep : w.InStep run run')
    (hExec : exec (b >>= f) run = (.ok z, last))
    (f' : β → Build τ δ) :
    ∃ a a' next next',
      R a a' ∧ w.InStep next next' ∧
      exec (f a) next = (.ok z, last) ∧
      exec (b' >>= f') run' = exec (f' a') next' := by
  rcases hAlike run run' hStep with ⟨hStep', hMatches⟩
  rw [exec_bind] at hExec
  rw [exec_bind]
  rcases hFirst : exec b run with ⟨e | a, next⟩ <;>
    rw [hFirst] at hExec hStep' hMatches
  case error => cases hExec
  case ok =>
    rcases hFirst' : exec b' run' with ⟨o', next'⟩
    rw [hFirst'] at hStep' hMatches
    rcases hMatches.exists_ok rfl with ⟨a', rfl, hRelated⟩
    exact ⟨a, a', next, next', hRelated, hStep', hExec, rfl⟩

/- A value may be changed on both sides. -/
theorem Alike.map
    {γ δ : Type}
    {g : α → γ}
    {g' : β → δ}
    {Q : γ → δ → Prop}
    (hAlike : Alike w b b' R E)
    (hValue : ∀ a a', R a a' → Q (g a) (g' a')) :
    Alike w (do return g (← b)) (do return g' (← b'))
      Q E :=
  hAlike.bind fun a a' hRelated =>
    alike_pure (hValue a a' hRelated)

/- Steps done for every element of two lists compare. -/
theorem alike_mapM
    {γ δ : Type}
    {f : γ → Build σ α}
    {f' : δ → Build τ β}
    {cs : List γ}
    {ds : List δ}
    (hEach : List.Forall₂ (fun c d =>
      Alike w (f c) (f' d) R E) cs ds) :
    Alike w (cs.mapM f) (ds.mapM f')
      (List.Forall₂ R) E := by
  induction hEach with
  | nil =>
      rw [List.mapM_nil, List.mapM_nil]
      exact alike_pure List.Forall₂.nil
  | cons hFirst _ ih =>
      rw [List.mapM_cons, List.mapM_cons]
      refine hFirst.bind fun a a' hRelated => ?_
      refine ih.bind fun as as' hAll => ?_
      exact alike_pure (List.Forall₂.cons hRelated hAll)

/- Over one list, steps that give the same give it at last. -/
theorem alike_mapM_same
    {γ : Type}
    {f : γ → Build σ α}
    {f' : γ → Build τ α}
    (cs : List γ)
    (hEach : ∀ c ∈ cs,
      Alike w (f c) (f' c) (fun a a' => a' = a) E) :
    Alike w (cs.mapM f) (cs.mapM f')
      (fun as as' => as' = as) E := by
  refine (alike_mapM (List.forall₂_same.mpr hEach)).mono ?_
    fun _ _ h => h
  intro as as' hAll
  rw [eq_comm, ← List.forall₂_eq_eq_eq]
  exact hAll.imp fun _ _ h => h.symm

/- What all steps over a list keep related stays related. -/
theorem alike_foldlM
    {γ : Type}
    {f : α → γ → Build σ α}
    {f' : β → γ → Build τ β}
    (cs : List γ)
    (hEach : ∀ c ∈ cs, ∀ a a', R a a' →
      Alike w (f a c) (f' a' c) R E)
    {a : α}
    {a' : β}
    (hStart : R a a') :
    Alike w (cs.foldlM f a) (cs.foldlM f' a') R E := by
  induction cs generalizing a a' with
  | nil =>
      rw [List.foldlM_nil, List.foldlM_nil]
      exact alike_pure hStart
  | cons c cs ih =>
      rw [List.forall_mem_cons] at hEach
      rw [List.foldlM_cons, List.foldlM_cons]
      refine (hEach.1 a a' hStart).bind fun z z' hNext => ?_
      exact ih hEach.2 hNext

/-
  A step of the first build gives a value, asks nothing and
  notes nothing that is shared.
-/
def Silent
    (w : Twins σ τ)
    (b : Build σ α)
    (a : α) : Prop :=
  ∀ run, ∃ run',
    exec b run = (.ok a, run') ∧
      run'.state = run.state ∧
      run'.requests = run.requests ∧
      run'.skips.filter w.shares =
        run.skips.filter w.shares

/- A silent step of one build alone keeps both in step. -/
theorem alike_of_silent
    {γ : Type}
    {f : α → Build σ γ}
    {Q : γ → β → Prop}
    {a : α}
    (hSilent : Silent w b a)
    (hRest : Alike w (f a) b' Q E) :
    Alike w (b >>= f) b' Q E := by
  intro run run' hStep
  rcases hSilent run with
    ⟨next, hExec, hState, hRequests, hSkips⟩
  have hNext : w.InStep next run' := {
    keeps := by
      have hKeeps := hStep.keeps
      unfold Cluster.Keeps at hKeeps ⊢
      rw [hState, hRequests, hKeeps]
    keeps' := hStep.keeps'
    requests := by rw [hStep.requests, hRequests]
    asked := by
      rw [hRequests]
      exact hStep.asked
    skips := by rw [hStep.skips, hSkips] }
  rw [exec_bind, hExec]
  exact hRest next run' hNext

/-
  Elements for which the first build gives nothing silently
  may be left out by the second.
-/
theorem alike_mapM_filter
    {γ : Type}
    {keep : γ → Bool}
    {f : γ → Build σ (List α)}
    {f' : γ → Build τ (List α)}
    (cs : List γ)
    (hKept : ∀ c ∈ cs, keep c = true →
      Alike w (f c) (f' c) (fun as as' => as' = as) E)
    (hLeft : ∀ c ∈ cs, keep c = false →
      Silent w (f c) []) :
    Alike w (cs.mapM f) ((cs.filter keep).mapM f')
      (fun parts parts' =>
        parts'.flatten = parts.flatten) E := by
  induction cs with
  | nil =>
      rw [List.mapM_nil, List.filter_nil, List.mapM_nil]
      exact alike_pure rfl
  | cons c cs ih =>
      rw [List.forall_mem_cons] at hKept hLeft
      rw [List.mapM_cons]
      cases hKeep : keep c with
      | true =>
          rw [List.filter_cons_of_pos hKeep, List.mapM_cons]
          refine (hKept.1 hKeep).bind ?_
          rintro _ as rfl
          refine (ih hKept.2 hLeft.2).map ?_
          intro parts parts' hSame
          rw [List.flatten_cons, List.flatten_cons, hSame]
      | false =>
          rw [List.filter_cons_of_neg (by simp [hKeep])]
          refine alike_of_silent (hLeft.1 hKeep) ?_
          rw [← bind_pure ((cs.filter keep).mapM f')]
          refine (ih hKept.2 hLeft.2).bind ?_
          intro parts parts' hSame
          exact alike_pure hSame

end Build

namespace Plan

variable {σ τ : Type}

/- Builds that are alike have matching outcomes. -/
theorem matches_run
    {p : Plan}
    {w : Twins σ τ}
    {R : Mesh → Mesh → Prop}
    {E : Failure → Failure → Prop}
    (hAlike : Build.Alike w (p.build w.first)
      (p.build w.second) R E) :
    w.InStep (p.run w.first w.firstState).2
        (p.run w.second w.secondState).2 ∧
      (p.run w.first w.firstState).1.Matches
        (p.run w.second w.secondState).1 R E :=
  hAlike _ _ w.inStep_start

end Plan

end EventTopology
