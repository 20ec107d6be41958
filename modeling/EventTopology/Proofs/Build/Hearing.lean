import EventTopology.Build.Run
import Mathlib.Data.List.Forall2

/-
  This file relates the steps of a build to the answers that
  a cluster gives on the way.  A cluster may answer
  differently each time it is asked; what a run has heard is
  read off the requests it has recorded.

  Key definitions include:
    * `Build.exec`
    * `Cluster.after`
    * `Cluster.Heard`
    * `Build.Hears`

  What composed steps hear is described by:
    * `Build.hears_bind`
    * `Build.hears_mapM`
-/

------------------------------------------------------------
-- Executing Steps
------------------------------------------------------------

namespace EventTopology

namespace Build

variable {σ α β : Type}

/- The outcome of a step that starts at a run. -/
def exec
    (b : Build σ α)
    (run : Run σ) : Except Failure α × Run σ :=
  b.run.run run

@[simp] theorem exec_pure
    (a : α)
    (run : Run σ) :
    exec (pure a : Build σ α) run = (.ok a, run) := rfl

/- A step that fails ends all that was to follow. -/
theorem exec_bind
    (b : Build σ α)
    (f : α → Build σ β)
    (run : Run σ) :
    exec (b >>= f) run =
      match exec b run with
      | (.ok a, run') => exec (f a) run'
      | (.error e, run') => (.error e, run') := by
  change exec
      (ExceptT.mk (ExceptT.bindCont f (exec b run).1))
      (exec b run).2 = _
  rcases exec b run with ⟨_ | _, _⟩ <;> rfl

@[simp] theorem exec_throw
    (e : Failure)
    (run : Run σ) :
    exec (throw e : Build σ α) run = (.error e, run) := rfl

@[simp] theorem exec_ofExcept
    (e : Except Failure α)
    (run : Run σ) :
    exec (ofExcept e) run = (e, run) := rfl

@[simp] theorem exec_tell
    (e : Log.Event)
    (run : Run σ) :
    exec (tell e) run =
      (.ok (), { run with events := run.events ++ [e] }) :=
  rfl

@[simp] theorem exec_tellAll
    (es : List Log.Event)
    (run : Run σ) :
    exec (tellAll es) run =
      (.ok (), { run with events := run.events ++ es }) :=
  rfl

@[simp] theorem exec_skip
    (r : SkipReason)
    (run : Run σ) :
    exec (skip r) run =
      (.ok (), { run with skips := run.skips ++ [r] }) :=
  rfl

@[simp] theorem exec_attempt
    (c : Cluster σ)
    (r : Request)
    (run : Run σ) :
    exec (attempt c r) run =
      (.ok (c.answer r run.state).outcome,
        { run with
          state := (c.answer r run.state).state
          requests := run.requests ++ [r]
          events :=
            run.events ++
              (c.answer r run.state).events }) :=
  rfl

end Build

------------------------------------------------------------
-- Answers Heard
------------------------------------------------------------

/- Which outcomes requests were answered with. -/
abbrev Answers := Request → Except Failure Json → Prop

namespace Cluster

variable {σ : Type}

/- The state of a cluster after requests. -/
def after (c : Cluster σ) (s : σ) (rs : List Request) : σ :=
  rs.foldl (fun s r => (c.answer r s).state) s

/- What every answer keeps is kept by all of them. -/
theorem after_induction
    {c : Cluster σ}
    {P : σ → Prop}
    {s : σ}
    (hAnswer : ∀ r s, P s → P (c.answer r s).state)
    (hStart : P s)
    (rs : List Request) :
    P (c.after s rs) := by
  induction rs generalizing s with
  | nil => exact hStart
  | cons r rs ih => exact ih (hAnswer r s hStart)

/-
  One of the requests made in order from a state was
  answered with an outcome.
-/
def Heard
    (c : Cluster σ)
    (s : σ)
    (rs : List Request) : Answers :=
  fun r o =>
    ∃ before, before ++ [r] <+: rs ∧
      o = (c.answer r (c.after s before)).outcome

/- What was heard early stays heard. -/
theorem Heard.mono
    {c : Cluster σ}
    {s : σ}
    {rs rs' : List Request}
    {r : Request}
    {o : Except Failure Json}
    (hPrefix : rs <+: rs')
    (hHeard : c.Heard s rs r o) :
    c.Heard s rs' r o := by
  rcases hHeard with ⟨before, hBefore, hOutcome⟩
  exact ⟨before, hBefore.trans hPrefix, hOutcome⟩

/-
  A run keeps account of a cluster when its state is the one
  after the recorded requests.
-/
def Keeps (c : Cluster σ) (s : σ) (run : Run σ) : Prop :=
  run.state = c.after s run.requests

/- A run that has not begun keeps account. -/
theorem keeps_start (c : Cluster σ) (s : σ) :
    c.Keeps s ⟨s, [], [], []⟩ := rfl

/- A run that asks once more keeps account. -/
theorem Keeps.attempt
    {c : Cluster σ}
    {s : σ}
    {run : Run σ}
    (hKeeps : c.Keeps s run)
    (r : Request) :
    c.Keeps s (Build.exec (Build.attempt c r) run).2 := by
  have hState : run.state = c.after s run.requests := hKeeps
  simp [Keeps, after, hState]

end Cluster

------------------------------------------------------------
-- What Steps Hear
------------------------------------------------------------

namespace Build

variable {σ α β : Type}

/-
  What a step gives is tied to what it hears and skips.  The
  answers may be any that include the ones heard, so that
  statements about parts speak of the whole run.
-/
def Hears
    (c : Cluster σ)
    (s : σ)
    (b : Build σ α)
    (P : Answers → α → List SkipReason → Prop) : Prop :=
  ∀ run, c.Keeps s run →
    c.Keeps s (exec b run).2 ∧
    run.requests <+: (exec b run).2.requests ∧
    ∀ a run', exec b run = (.ok a, run') →
      ∃ skipped, run'.skips = run.skips ++ skipped ∧
        ∀ answers : Answers,
          (∀ r o, c.Heard s run'.requests r o →
            answers r o) →
          P answers a skipped

end Build

namespace Build

variable {σ α β : Type}
variable {c : Cluster σ} {s : σ}
variable {P Q : Answers → α → List SkipReason → Prop}

/- What a step hears may be told less exactly. -/
theorem Hears.mono
    {b : Build σ α}
    (hHears : Hears c s b P)
    (hSub : ∀ answers a skipped,
      P answers a skipped → Q answers a skipped) :
    Hears c s b Q := by
  intro run hKeeps
  rcases hHears run hKeeps with ⟨hKept, hPrefix, hEnd⟩
  refine ⟨hKept, hPrefix, ?_⟩
  intro a run' hExec
  rcases hEnd a run' hExec with ⟨skipped, hSkips, hP⟩
  exact ⟨skipped, hSkips, fun answers hAnswers =>
    hSub _ _ _ (hP answers hAnswers)⟩

/- A step that asks nothing hears nothing. -/
theorem hears_of_silent
    {b : Build σ α}
    (hSilent : ∀ run,
      (exec b run).2.state = run.state ∧
        (exec b run).2.requests = run.requests)
    (hEnd : ∀ run a run', exec b run = (.ok a, run') →
      ∃ skipped, run'.skips = run.skips ++ skipped ∧
        ∀ answers, P answers a skipped) :
    Hears c s b P := by
  intro run hKeeps
  rcases hSilent run with ⟨hState, hRequests⟩
  refine ⟨?_, ?_, ?_⟩
  · unfold Cluster.Keeps
    rw [hState, hRequests]
    exact hKeeps
  · exact hRequests ▸ List.prefix_rfl
  · intro a run' hExec
    rcases hEnd run a run' hExec with ⟨skipped, hSkips, hP⟩
    exact ⟨skipped, hSkips, fun answers _ => hP answers⟩

theorem hears_pure (a : α) :
    Hears c s (pure a)
      (fun _ a' skipped => a' = a ∧ skipped = []) := by
  apply hears_of_silent
  · intro run
    exact ⟨rfl, rfl⟩
  · intro run a' run' hExec
    cases hExec
    exact ⟨[], by simp⟩

theorem hears_throw (e : Failure) :
    Hears c s (throw e) (fun _ (_ : α) _ => False) := by
  apply hears_of_silent
  · intro run
    exact ⟨rfl, rfl⟩
  · intro run a run' hExec
    cases hExec

theorem hears_ofExcept (e : Except Failure α) :
    Hears c s (ofExcept e)
      (fun _ a skipped => e = .ok a ∧ skipped = []) := by
  apply hears_of_silent
  · intro run
    exact ⟨rfl, rfl⟩
  · intro run a run' hExec
    cases hExec
    exact ⟨[], by simp⟩

theorem hears_tell (e : Log.Event) :
    Hears c s (tell e) (fun _ _ skipped => skipped = []) := by
  apply hears_of_silent
  · intro run
    exact ⟨rfl, rfl⟩
  · intro run a run' hExec
    cases hExec
    exact ⟨[], by simp⟩

theorem hears_tellAll (es : List Log.Event) :
    Hears c s (tellAll es)
      (fun _ _ skipped => skipped = []) := by
  apply hears_of_silent
  · intro run
    exact ⟨rfl, rfl⟩
  · intro run a run' hExec
    cases hExec
    exact ⟨[], by simp⟩

theorem hears_skip (r : SkipReason) :
    Hears c s (skip r)
      (fun _ _ skipped => skipped = [r]) := by
  apply hears_of_silent
  · intro run
    exact ⟨rfl, rfl⟩
  · intro run a run' hExec
    cases hExec
    exact ⟨[r], by simp⟩

/- An attempt gives just the answer that it hears. -/
theorem hears_attempt (r : Request) :
    Hears c s (attempt c r)
      (fun answers o skipped =>
        answers r o ∧ skipped = []) := by
  intro run hKeeps
  have hState : run.state = c.after s run.requests := hKeeps
  refine ⟨hKeeps.attempt r, ?_, ?_⟩
  · simp
  · intro o run' hExec
    cases hExec
    refine ⟨[], by simp, ?_⟩
    intro answers hAnswers
    refine ⟨hAnswers r _ ⟨run.requests, ?_, ?_⟩, rfl⟩
    · simp
    · rw [hState]

/- The parts of a composed step hear one after the other. -/
theorem hears_bind
    {b : Build σ α}
    {f : α → Build σ β}
    {R : α → Answers → β → List SkipReason → Prop}
    (hFirst : Hears c s b P)
    (hRest : ∀ a, Hears c s (f a) (R a)) :
    Hears c s (b >>= f) (fun answers z skipped =>
      ∃ a early late, P answers a early ∧
        R a answers z late ∧ skipped = early ++ late) := by
  intro run hKeeps
  rcases hFirst run hKeeps with ⟨hKept, hPrefix, hEnd⟩
  rw [exec_bind]
  rcases hExec : exec b run with ⟨e | a, run'⟩
  · rw [hExec] at hKept hPrefix
    refine ⟨hKept, hPrefix, ?_⟩
    intro z run'' hFailed
    cases hFailed
  · rw [hExec] at hKept hPrefix
    rcases hRest a run' hKept with
      ⟨hKept', hPrefix', hEnd'⟩
    refine ⟨hKept', hPrefix.trans hPrefix', ?_⟩
    intro z run'' hExec'
    simp only [hExec'] at hPrefix'
    rcases hEnd a run' hExec with ⟨early, hEarly, hP⟩
    rcases hEnd' z run'' hExec' with ⟨late, hLate, hR⟩
    refine ⟨early ++ late, ?_, ?_⟩
    · rw [hLate, hEarly, List.append_assoc]
    · intro answers hAnswers
      refine ⟨a, early, late, ?_, hR answers hAnswers, rfl⟩
      apply hP answers
      intro r o hHeard
      exact hAnswers r o (hHeard.mono hPrefix')

/-
  A step done for every element of a list hears for each in
  turn.
-/
theorem hears_mapM
    {f : α → Build σ β}
    {R : α → Answers → β → List SkipReason → Prop}
    (hEach : ∀ a, Hears c s (f a) (R a))
    (as : List α) :
    Hears c s (as.mapM f) (fun answers bs skipped =>
      ∃ parts : List (β × List SkipReason),
        List.Forall₂ (fun a part =>
          R a answers part.1 part.2) as parts ∧
        bs = parts.map (·.1) ∧
        skipped = parts.flatMap (·.2)) := by
  induction as with
  | nil =>
      rw [List.mapM_nil]
      apply (hears_pure []).mono
      rintro answers bs skipped ⟨rfl, rfl⟩
      exact ⟨[], List.Forall₂.nil, rfl, rfl⟩
  | cons a as ih =>
      rw [List.mapM_cons]
      apply (hears_bind (hEach a) fun b =>
        hears_bind ih fun bs => hears_pure (b :: bs)).mono
      rintro answers bs skipped
        ⟨b, early, late, hR, hLate, rfl⟩
      rcases hLate with
        ⟨bs', middle, last, hParts, ⟨rfl, rfl⟩, rfl⟩
      rcases hParts with ⟨parts, hAll, rfl, rfl⟩
      exact ⟨(b, early) :: parts,
        List.Forall₂.cons hR hAll, rfl, by simp⟩

end Build

end EventTopology
