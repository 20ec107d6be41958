import EventTopology.Proofs.Build.Steady
import EventTopology.Proofs.Ending

/-
  This file says how the steps of a build end, whatever they
  told before: with a value that meets one condition or with
  a failure that meets another.  Over a steady cluster the
  ending is that of what the cluster replies.

  Key definitions include:
    * `Build.Ends`
    * `Replies.list`
    * `Replies.kinds`

  How composed steps end is described by:
    * `Build.Ends.bind`
    * `Build.ends_mapM`
    * `Build.ends_foldlM`
-/

------------------------------------------------------------
-- Endings of Steps
------------------------------------------------------------

namespace EventTopology

namespace Build

variable {σ α β : Type}

/-
  From every run that keeps account of a cluster, a step
  ends in one of two conditions and still keeps account.
-/
def Ends
    (c : Cluster σ)
    (s : σ)
    (b : Build σ α)
    (P : α → Prop)
    (E : Failure → Prop) : Prop :=
  ∀ run, c.Keeps s run →
    c.Keeps s (exec b run).2 ∧ (exec b run).1.Ends P E

variable {c : Cluster σ} {s : σ}
variable {b : Build σ α}
variable {P : α → Prop}
variable {E F : Failure → Prop}

theorem ends_pure
    {a : α}
    (hValue : P a) :
    Ends c s (pure a) P E :=
  fun _ hKeeps => ⟨hKeeps, hValue⟩

theorem ends_throw
    {f : Failure}
    (hFailure : E f) :
    Ends c s (throw f) P E :=
  fun _ hKeeps => ⟨hKeeps, hFailure⟩

theorem ends_ofExcept
    {o : Except Failure α}
    (hEnds : o.Ends P E) :
    Ends c s (ofExcept o) P E :=
  fun _ hKeeps => ⟨hKeeps, hEnds⟩

theorem ends_tell (e : Log.Event) :
    Ends c s (tell e) (fun _ => True) E :=
  fun _ hKeeps => ⟨hKeeps, trivial⟩

theorem ends_tellAll (es : List Log.Event) :
    Ends c s (tellAll es) (fun _ => True) E :=
  fun _ hKeeps => ⟨hKeeps, trivial⟩

theorem ends_skip (r : SkipReason) :
    Ends c s (skip r) (fun _ => True) E :=
  fun _ hKeeps => ⟨hKeeps, trivial⟩

/- A steady cluster gives its reply and nothing else. -/
theorem ends_attempt
    {replies : Replies}
    (hSteady : c.Steady s replies)
    (r : Request) :
    Ends c s (attempt c r) (fun o => o = replies r) E := by
  intro run hKeeps
  have hState : run.state = c.after s run.requests := hKeeps
  refine ⟨hKeeps.attempt r, ?_⟩
  have hReply := hSteady run.requests r
  rw [← hState] at hReply
  exact hReply

/- What follows a step may rely on its condition. -/
theorem Ends.bind
    {f : α → Build σ β}
    {R : β → Prop}
    (hFirst : Ends c s b P E)
    (hRest : ∀ a, P a → Ends c s (f a) R E) :
    Ends c s (b >>= f) R E := by
  intro run hKeeps
  rcases hFirst run hKeeps with ⟨hKept, hEnd⟩
  rw [exec_bind]
  rcases hExec : exec b run with ⟨e | a, run'⟩
  · rw [hExec] at hKept hEnd
    exact ⟨hKept, hEnd⟩
  · rw [hExec] at hKept hEnd
    exact hRest a hEnd run' hKept

/- A step is done for every element of a list. -/
theorem ends_mapM
    {f : α → Build σ β}
    {R : α → β → Prop}
    {as : List α}
    (hEach : ∀ a ∈ as, Ends c s (f a) (R a) E) :
    Ends c s (as.mapM f) (List.Forall₂ R as) E := by
  induction as with
  | nil =>
      rw [List.mapM_nil]
      exact ends_pure List.Forall₂.nil
  | cons a as ih =>
      rw [List.mapM_cons]
      refine (hEach a List.mem_cons_self).bind ?_
      intro z hFirst
      have hRest := ih fun a' hMem =>
        hEach a' (List.mem_cons_of_mem a hMem)
      refine hRest.bind ?_
      intro zs hAll
      exact ends_pure (List.Forall₂.cons hFirst hAll)

/- What every step keeps up holds in the end. -/
theorem ends_foldlM
    {f : β → α → Build σ β}
    {I : β → Prop}
    {as : List α}
    (hStep : ∀ z, I z → ∀ a ∈ as, Ends c s (f z a) I E)
    {z : β}
    (hStart : I z) :
    Ends c s (as.foldlM f z) I E := by
  induction as generalizing z with
  | nil =>
      rw [List.foldlM_nil]
      exact ends_pure hStart
  | cons a as ih =>
      rw [List.foldlM_cons]
      refine (hStep z hStart a List.mem_cons_self).bind ?_
      intro z' hNext
      refine ih ?_ hNext
      intro z'' hKept a' hMem
      exact hStep z'' hKept a' (List.mem_cons_of_mem a hMem)

end Build

------------------------------------------------------------
-- Listings and Discovery
------------------------------------------------------------

namespace Replies

/- What a listing comes to where a reply is what is heard. -/
def list
    (replies : Replies)
    (name : String)
    (r : Request) : Except Failure (List Json) :=
  match replies r with
  | .ok v => Failure.ofShape v.iterate
  | .error (.cluster (.notFound _)) => .ok []
  | .error (.cluster e) => .error (.listing name e)
  | .error f => .error f

/- What discovery comes to. -/
def kinds
    (replies : Replies)
    (tag : String) : Except Failure (List KindCoordinates) :=
  match replies (.definitions tag) with
  | .ok found => Discovery.coordinates found
  | .error (.cluster (.notFound _)) => .ok []
  | .error (.cluster e) => .error (.definitions tag e)
  | .error f => .error f

end Replies

namespace Build

variable {σ α : Type}
variable {c : Cluster σ} {s : σ}
variable {replies : Replies}
variable {E : Failure → Prop}

theorem ends_list
    {P : List Json → Prop}
    {name : String}
    {r : Request}
    (hSteady : c.Steady s replies)
    (hEnds : (replies.list name r).Ends P E) :
    Ends c s (list c name r) P E := by
  refine (ends_attempt hSteady r).bind ?_
  rintro _ rfl
  unfold Replies.list at hEnds
  rcases hReply : replies r with e | v
  · rw [hReply] at hEnds
    rcases e with (m | ⟨m, status⟩) | _
    case cluster.notFound =>
      exact (ends_tell _).bind fun _ _ => ends_pure hEnds
    case cluster.failed =>
      exact (ends_tell _).bind fun _ _ => ends_throw hEnds
    all_goals exact ends_throw hEnds
  · rw [hReply] at hEnds
    exact ends_ofExcept hEnds

theorem ends_discover
    {P : List KindCoordinates → Prop}
    {tag : String}
    (hSteady : c.Steady s replies)
    (hEnds : (replies.kinds tag).Ends P E) :
    Ends c s (Discovery.discover c tag) P E := by
  refine (ends_attempt hSteady _).bind ?_
  rintro _ rfl
  unfold Replies.kinds at hEnds
  rcases hReply : replies (.definitions tag) with e | v
  · rw [hReply] at hEnds
    rcases e with (m | ⟨m, status⟩) | _
    case cluster.notFound =>
      exact (ends_tell _).bind fun _ _ => ends_pure hEnds
    all_goals exact ends_throw hEnds
  · rw [hReply] at hEnds
    refine (ends_ofExcept hEnds).bind ?_
    intro kinds hKinds
    exact (ends_tell _).bind fun _ _ => ends_pure hKinds

end Build

end EventTopology
