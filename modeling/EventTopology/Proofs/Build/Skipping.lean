import EventTopology.Proofs.Build.Phases

/-
  This file says for which reasons a build skips items.
  Only while sources are collected are declarations found
  unreadable; after that only lookups are skipped, even by a
  build that fails later.

  Key definitions include:
    * `Build.SkipsOnly`
    * `Plan.isMalformed`

  The main results are:
    * `Plan.count_declaration_run`
    * `Plan.length_unread`
-/

------------------------------------------------------------
-- Reasons for Skipping
------------------------------------------------------------

namespace EventTopology

namespace Build

variable {σ α β : Type}
variable {P : SkipReason → Prop}

/- Whatever becomes of a step, it notes only some reasons. -/
def SkipsOnly
    (P : SkipReason → Prop)
    (b : Build σ α) : Prop :=
  ∀ run, ∃ skipped,
    (exec b run).2.skips = run.skips ++ skipped ∧
      ∀ r ∈ skipped, P r

/- A step that notes nothing notes no other reasons. -/
theorem skipsOnly_of_none
    {b : Build σ α}
    (hNone : ∀ run, (exec b run).2.skips = run.skips) :
    SkipsOnly P b :=
  fun run => ⟨[], by simp [hNone run], by simp⟩

theorem skipsOnly_skip
    {r : SkipReason}
    (hReason : P r) :
    SkipsOnly P (skip r : Build σ Unit) :=
  fun _ => ⟨[r], rfl, by simpa using hReason⟩

theorem SkipsOnly.bind
    {b : Build σ α}
    {f : α → Build σ β}
    (hFirst : SkipsOnly P b)
    (hRest : ∀ a, SkipsOnly P (f a)) :
    SkipsOnly P (b >>= f) := by
  intro run
  rcases hFirst run with ⟨early, hEarly, hReasons⟩
  rw [exec_bind]
  rcases hExec : exec b run with ⟨e | a, next⟩ <;>
    rw [hExec] at hEarly
  case error => exact ⟨early, hEarly, hReasons⟩
  case ok =>
    rcases hRest a next with ⟨late, hLate, hReasons'⟩
    refine ⟨early ++ late, ?_, ?_⟩
    · change (exec (f a) next).2.skips = _
      rw [hLate, hEarly, List.append_assoc]
    · intro r hMem
      exact (List.mem_append.mp hMem).elim
        (hReasons r) (hReasons' r)

theorem skipsOnly_foldlM
    {f : β → α → Build σ β}
    (hEach : ∀ z a, SkipsOnly P (f z a))
    (as : List α)
    (z : β) :
    SkipsOnly P (as.foldlM f z) := by
  induction as generalizing z with
  | nil => exact skipsOnly_of_none fun _ => rfl
  | cons a as ih =>
      rw [List.foldlM_cons]
      exact (hEach z a).bind ih

/- A listing skips nothing, and neither does reading it. -/
theorem skipsOnly_converted
    (c : Cluster σ)
    (name : String)
    (r : Request)
    (convert : Json → Except Failure α) :
    SkipsOnly P
      (do Plan.convertAll convert
            (← Build.list c name r)) := by
  refine SkipsOnly.bind ?_ fun raws =>
    skipsOnly_of_none fun _ => rfl
  rw [list_eq]
  refine (skipsOnly_of_none fun _ => rfl).bind fun o => ?_
  rcases o with e | v
  · rcases e with (m | ⟨m, status⟩) | _
    all_goals exact skipsOnly_of_none fun _ => rfl
  · exact skipsOnly_of_none fun _ => rfl

end Build

------------------------------------------------------------
-- Lookups
------------------------------------------------------------

namespace Consumption

open Build

variable {σ : Type}

/- A subscription is skipped for its lookup or not at all. -/
theorem skipsOnly_process
    (c : Cluster σ)
    (label : String)
    (x : Index)
    (known : Consumption)
    (s : Subscription) :
    SkipsOnly (· = .lookup) (process c label x known s) := by
  unfold process
  refine SkipsOnly.bind ?_ fun o => ?_
  · unfold outcome
    cases settle x s with
    | inl o => exact skipsOnly_of_none fun _ => rfl
    | inr found =>
        refine SkipsOnly.bind
          (skipsOnly_of_none fun _ => rfl) fun o => ?_
        rcases o with e | v
        · rcases e with (m | ⟨m, status⟩) | _
          all_goals exact skipsOnly_of_none fun _ => rfl
        · exact skipsOnly_of_none fun _ => rfl
  · refine SkipsOnly.bind (skipsOnly_of_none fun _ => rfl)
      fun _ => ?_
    cases o with
    | lookupFailed words =>
        refine SkipsOnly.bind (skipsOnly_skip rfl)
          fun _ => ?_
        exact skipsOnly_of_none fun _ => rfl
    | _ => exact skipsOnly_of_none fun _ => rfl

end Consumption

namespace Plan

open Build

variable {σ : Type}

theorem skipsOnly_subscriptions (c : Cluster σ) :
    SkipsOnly (· = .lookup) (subscriptions c) := by
  unfold subscriptions
  rw [← bind_assoc]
  refine (skipsOnly_converted c _ _ _).bind fun ts => ?_
  rw [← bind_assoc]
  exact (skipsOnly_converted c _ _ _).bind fun us =>
    skipsOnly_of_none fun _ => rfl

theorem skipsOnly_complete
    (p : Plan)
    (c : Cluster σ)
    (found : Index × List Source)
    (ss : List Subscription) :
    SkipsOnly (· = .lookup) (p.complete c found ss) :=
  (skipsOnly_foldlM
    (Consumption.skipsOnly_process c p.identityLabel found.1)
    ss []).bind fun _ => skipsOnly_of_none fun _ => rfl

/-
  Once a build has collected everything, no declaration is
  skipped any more.
-/
theorem count_declaration_run
    {p : Plan}
    {c : Cluster σ}
    {s : σ}
    {found : Index × List Source}
    {run : Run σ}
    (hCollect : exec (p.collect c) ⟨s, [], [], []⟩ =
      (.ok found, run)) :
    (p.run c s).2.skips.count .declaration =
      run.skips.count .declaration := by
  change (exec (p.build c) _).2.skips.count _ = _
  rw [build_eq, exec_bind, hCollect]
  rcases (skipsOnly_subscriptions c).bind
      (p.skipsOnly_complete c found) run with
    ⟨skipped, hSkips, hLookups⟩
  have hNone : skipped.count .declaration = 0 := by
    rw [List.count_eq_zero]
    intro hMem
    cases hLookups _ hMem
  change (exec (subscriptions c >>= p.complete c found)
    run).2.skips.count _ = _
  rw [hSkips, List.count_append, hNone, Nat.add_zero]

end Plan

------------------------------------------------------------
-- Declarations
------------------------------------------------------------

namespace Plan

/- Can the event types that a kind declares be read? -/
def declares
    (p : Plan)
    (coords : KindCoordinates) : Bool :=
  (p.conversion.declaredTypes coords).isOk

/-
  Does a definition define a kind whose declaration cannot
  be read?
-/
def isMalformed (p : Plan) (raw : Json) : Bool :=
  match Definition.coordinates raw with
  | .ok coords => !p.declares coords
  | .error _ => false

/- As many kinds are left out as definitions are malformed. -/
theorem length_unread
    {p : Plan}
    {answers : Answers}
    {x : Index}
    {parts : List (Option (List Source))}
    (hFinds : p.FindsSources answers x parts) :
    ∃ raws, answers.Lists (.definitions p.sourceTag) raws ∧
      (parts.filter (·.isNone)).length =
        raws.countP p.isMalformed := by
  rcases hFinds with ⟨kinds, ⟨raws, hLists, hEach⟩, hParts⟩
  refine ⟨raws, hLists, ?_⟩
  clear hLists
  induction hEach generalizing parts with
  | nil =>
      cases hParts
      rfl
  | @cons raw coords raws kinds hCoords _ ih =>
      rcases List.forall₂_cons_left_iff.mp hParts with
        ⟨part, parts', hPart, hRest, rfl⟩
      have hSame : p.isMalformed raw = part.isNone := by
        unfold FindsSourcesOf at hPart
        unfold isMalformed declares
        rw [hCoords]
        cases hDeclared :
            p.conversion.declaredTypes coords with
        | error e =>
            rw [hDeclared] at hPart
            dsimp only at hPart ⊢
            rw [hPart, hDeclared]
            rfl
        | ok declared =>
            rw [hDeclared] at hPart
            rcases hPart with ⟨_, _, rfl⟩
            dsimp only
            rw [hDeclared]
            rfl
      rw [List.countP_cons, ← ih hRest, hSame]
      cases part <;> simp

end Plan

end EventTopology
