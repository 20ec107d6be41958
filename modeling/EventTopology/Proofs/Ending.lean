import EventTopology.Resource.Conversion
import Mathlib.Data.List.Forall2

/-
  This file says how outcomes end: a value meets one
  condition, a failure another.  Outcomes without failures
  are those that meet no condition but the first.

  Key definitions include:
    * `Except.Ends`
    * `Except.Succeeds`

  How composed outcomes end is described by:
    * `Except.Ends.bind`
    * `Except.ends_mapM`
    * `Except.mapM_ends_first`
    * `Except.ends_foldlM`
    * `Except.filterM_eq`
    * `Except.filterM_eq_filter`
-/

------------------------------------------------------------
-- Endings
------------------------------------------------------------

namespace Except

variable {ε α β : Type}

/- A value meets one condition, an error another. -/
def Ends
    (o : Except ε α)
    (P : α → Prop)
    (E : ε → Prop) : Prop :=
  match o with
  | .ok a => P a
  | .error e => E e

/- There is a value, and it meets a condition. -/
abbrev Succeeds
    (o : Except ε α)
    (P : α → Prop) : Prop :=
  o.Ends P fun _ => False

variable {o : Except ε α}
variable {P Q : α → Prop}
variable {E F : ε → Prop}

/- An ending may be told less exactly. -/
theorem Ends.mono
    (hEnds : o.Ends P E)
    (hValue : ∀ a, P a → Q a)
    (hError : ∀ e, E e → F e) :
    o.Ends Q F := by
  cases o with
  | ok a => exact hValue a hEnds
  | error e => exact hError e hEnds

/- Where there is a value, it is that of the outcome. -/
theorem Ends.self
    (hEnds : o.Ends P E) :
    o.Ends (fun a => o = .ok a ∧ P a) E := by
  cases o with
  | ok a => exact ⟨rfl, hEnds⟩
  | error e => exact hEnds

/- What follows a value may rely on its condition. -/
theorem Ends.bind
    {f : α → Except ε β}
    {R : β → Prop}
    (hFirst : o.Ends P E)
    (hRest : ∀ a, P a → (f a).Ends R E) :
    (o >>= f).Ends R E := by
  cases o with
  | ok a => exact hRest a hFirst
  | error e => exact hFirst

/- A value is changed, an error stays. -/
theorem Ends.map
    {g : α → β}
    {R : β → Prop}
    (hEnds : o.Ends P E)
    (hValue : ∀ a, P a → R (g a)) :
    (o.map g).Ends R E := by
  cases o with
  | ok a => exact hValue a hEnds
  | error e => exact hEnds

theorem Succeeds.exists_ok
    (hSucceeds : o.Succeeds P) :
    ∃ a, o = .ok a ∧ P a := by
  cases o with
  | ok a => exact ⟨a, rfl, hSucceeds⟩
  | error e => exact hSucceeds.elim

/- A value rules the condition on errors out. -/
theorem Succeeds.ends
    (hSucceeds : o.Succeeds P) :
    o.Ends P E :=
  Ends.mono hSucceeds (fun _ h => h) fun _ h => h.elim

end Except

------------------------------------------------------------
-- Lists of Outcomes
------------------------------------------------------------

namespace Except

variable {ε α β : Type}
variable {E : ε → Prop}

/- A list is converted unless one of its elements fails. -/
theorem ends_mapM
    {f : α → Except ε β}
    {R : α → β → Prop}
    {as : List α}
    (hEach : ∀ a ∈ as, (f a).Ends (R a) E) :
    (as.mapM f).Ends (List.Forall₂ R as) E := by
  induction as with
  | nil => exact List.Forall₂.nil
  | cons a as ih =>
      rw [List.mapM_cons]
      refine (hEach a List.mem_cons_self).bind ?_
      intro b hFirst
      have hRest := ih fun a' hMem =>
        hEach a' (List.mem_cons_of_mem a hMem)
      refine hRest.bind ?_
      intro bs hAll
      exact List.Forall₂.cons hFirst hAll

/-
  A list is converted, or the first of its elements that
  fails decides how.
-/
theorem mapM_ends_first
    (f : α → Except ε β)
    (as : List α) :
    (as.mapM f).Ends
      (List.Forall₂ (fun a b => f a = .ok b) as)
      (fun e => ∃ before a after,
        as = before ++ a :: after ∧
        (∀ a' ∈ before, ∃ b, f a' = .ok b) ∧
        f a = .error e) := by
  induction as with
  | nil => exact List.Forall₂.nil
  | cons a as ih =>
      rw [List.mapM_cons]
      cases hFirst : f a with
      | error e =>
          exact ⟨[], a, as, rfl, by simp, hFirst⟩
      | ok b =>
          refine (ih.mono (fun _ h => h) ?_).bind ?_
          · rintro e ⟨before, a', after, rfl, hBefore, hEnd⟩
            refine ⟨a :: before, a', after, rfl, ?_, hEnd⟩
            exact List.forall_mem_cons.mpr
              ⟨⟨b, hFirst⟩, hBefore⟩
          · intro bs hAll
            exact List.Forall₂.cons hFirst hAll

/- What every step keeps up holds in the end. -/
theorem ends_foldlM
    {f : β → α → Except ε β}
    {I : β → Prop}
    {as : List α}
    (hStep : ∀ b, I b → ∀ a ∈ as, (f b a).Ends I E)
    {b : β}
    (hStart : I b) :
    (as.foldlM f b).Ends I E := by
  induction as generalizing b with
  | nil => exact hStart
  | cons a as ih =>
      rw [List.foldlM_cons]
      refine (hStep b hStart a List.mem_cons_self).bind ?_
      intro b' hNext
      refine ih ?_ hNext
      intro b'' hKept a' hMem
      exact hStep b'' hKept a' (List.mem_cons_of_mem a hMem)

/- Has a test been passed? -/
def holds : Except ε Bool → Bool
| .ok b => b
| .error _ => false

/- A filter whose test never fails is an ordinary one. -/
theorem filterM_eq
    {p : α → Except ε Bool}
    {as : List α}
    (hEach : ∀ a ∈ as, (p a).Succeeds fun _ => True) :
    as.filterM p = .ok (as.filter fun a => (p a).holds) := by
  -- The elements kept so far stand before, in reverse.
  have hAux (kept : List α) :
      List.filterAuxM p as kept =
        .ok ((as.filter fun a => (p a).holds).reverse ++
          kept) := by
    induction as generalizing kept with
    | nil => rfl
    | cons a as ih =>
        have hRest := ih fun a' hMem =>
          hEach a' (List.mem_cons_of_mem a hMem)
        rcases (hEach a List.mem_cons_self).exists_ok with
          ⟨b, hTest, -⟩
        have hHolds : (p a).holds = b := by
          rw [hTest]
          rfl
        rw [List.filterAuxM, hTest, List.filter_cons,
          hHolds]
        cases b with
        | true =>
            refine (hRest (a :: kept)).trans ?_
            simp
        | false => exact hRest kept
  unfold List.filterM
  rw [hAux []]
  simp [bind, Except.bind, pure, Except.pure]

/- A filter by a test that gives what another one says. -/
theorem filterM_eq_filter
    {p : α → Except ε Bool}
    {q : α → Bool}
    {as : List α}
    (hEach : ∀ a ∈ as, p a = .ok (q a)) :
    as.filterM p = .ok (as.filter q) := by
  have hTest : ∀ a ∈ as, (p a).Succeeds fun _ => True := by
    intro a hMem
    rw [hEach a hMem]
    trivial
  rw [filterM_eq hTest]
  apply congrArg Except.ok
  apply List.filter_congr
  intro a hMem
  rw [hEach a hMem]
  rfl

end Except

------------------------------------------------------------
-- Faults of Shape
------------------------------------------------------------

namespace Except.Ends

variable {α : Type}
variable {o : Except EventTopology.Json.ShapeFault α}
variable {P : α → Prop}
variable {E : EventTopology.Json.ShapeFault → Prop}

/- A fault of shape is a failure. -/
theorem lift
    (hEnds : o.Ends P E) :
    (liftM o : Except EventTopology.Failure α).Ends P
      fun f => ∃ e, E e ∧ f = .shape e := by
  cases o with
  | ok a => exact hEnds
  | error e => exact ⟨e, hEnds, rfl⟩

end Except.Ends

namespace Except.Succeeds

variable {α : Type}
variable {o : Except EventTopology.Json.ShapeFault α}
variable {P : α → Prop}
variable {E : EventTopology.Failure → Prop}

/- Without a fault of shape there is no failure. -/
theorem ofShape
    (hSucceeds : o.Succeeds P) :
    (EventTopology.Failure.ofShape o).Ends P E := by
  cases o with
  | ok a => exact hSucceeds
  | error e => exact hSucceeds.elim

theorem lift
    (hSucceeds : o.Succeeds P) :
    (liftM o : Except EventTopology.Failure α).Ends P E :=
  hSucceeds.ofShape

end Except.Succeeds
