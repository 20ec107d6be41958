import EventTopology.Mesh.Entity
import Mathlib.Data.List.Nodup

/-
  This file shows that event types may be sorted before or
  after some of them are singled out: sorting is stable, and
  the order of a mesh is a total preorder.  Event types that
  differ in namespace or name come out in one order only.

  The main results are:
    * `List.filter_mergeSort`
    * `EventType.mergeSort_eq_of_perm`
    * `EventType.filter_mergeSort_le`
-/

------------------------------------------------------------
-- Stable Sorting
------------------------------------------------------------

namespace List

variable {α : Type}

/- A list is split one way into what fits and what does not. -/
private theorem append_eq_of_split
    {q : α → Bool}
    {k₁ k₂ l₁ l₂ : List α}
    (hEq : k₁ ++ k₂ = l₁ ++ l₂)
    (hk₁ : ∀ b ∈ k₁, q b = true)
    (hk₂ : ∀ b ∈ k₂, q b = false)
    (hl₁ : ∀ b ∈ l₁, q b = true)
    (hl₂ : ∀ b ∈ l₂, q b = false) :
    k₁ = l₁ ∧ k₂ = l₂ := by
  have hFirst : k₁ = l₁ := by
    have hFit := congrArg (List.filter q) hEq
    rw [filter_append, filter_append,
      filter_eq_self.mpr hk₁, filter_eq_self.mpr hl₁,
      filter_eq_nil_iff.mpr fun b hb => by simp [hk₂ b hb],
      filter_eq_nil_iff.mpr fun b hb => by simp [hl₂ b hb]]
      at hFit
    simpa using hFit
  subst hFirst
  exact ⟨rfl, append_cancel_left hEq⟩

/- A filter commutes with stable sorting. -/
theorem filter_mergeSort
    {le : α → α → Bool}
    (hTrans : ∀ a b c, le a b → le b c → le a c)
    (hTotal : ∀ a b, le a b || le b a)
    (p : α → Bool)
    (l : List α) :
    (l.mergeSort le).filter p =
      (l.filter p).mergeSort le := by
  induction l with
  | nil => simp
  | cons a l ih =>
      rcases mergeSort_cons hTrans hTotal a l with
        ⟨l₁, l₂, hWhole, hRest, hBefore⟩
      rw [hRest, filter_append] at ih
      rw [hWhole, filter_append]
      cases hp : p a with
      | false =>
          rw [filter_cons_of_neg (by simp [hp]),
            filter_cons_of_neg (by simp [hp])]
          exact ih
      | true =>
          rw [filter_cons_of_pos hp, filter_cons_of_pos hp]
          rcases mergeSort_cons hTrans hTotal a
              (l.filter p) with
            ⟨k₁, k₂, hWhole', hRest', hBefore'⟩
          have hAfter : ∀ b ∈ l₂, le a b := by
            have hSorted :=
              pairwise_mergeSort hTrans hTotal (a :: l)
            rw [hWhole] at hSorted
            exact (pairwise_cons.mp
              (pairwise_append.mp hSorted).2.1).1
          have hAfter' : ∀ b ∈ k₂, le a b := by
            have hSorted :=
              pairwise_mergeSort hTrans hTotal
                (a :: l.filter p)
            rw [hWhole'] at hSorted
            exact (pairwise_cons.mp
              (pairwise_append.mp hSorted).2.1).1
          -- Both sortings place `a` at the one spot that
          -- parts what it precedes from what it follows.
          have hSplit := append_eq_of_split
            (ih.trans hRest')
            (fun b hb => hBefore b (mem_filter.mp hb).1)
            (fun b hb => by
              simp [hAfter b (mem_filter.mp hb).1])
            hBefore'
            (fun b hb => by simp [hAfter' b hb])
          rw [hWhole', hSplit.1, hSplit.2]

end List

------------------------------------------------------------
-- The Order of a Mesh
------------------------------------------------------------

namespace EventTopology

namespace EventType

theorem le_iff {e f : EventType} :
    e.le f = true ↔
      Text.before e.ns f.ns ∨
        e.ns = f.ns ∧ Text.before f.name e.name = false := by
  simp [le]

theorem le_trans
    (e f g : EventType)
    (hFirst : e.le f)
    (hSecond : f.le g) :
    e.le g := by
  rw [le_iff] at hFirst hSecond ⊢
  rcases hFirst with hNs | ⟨hNs, hName⟩
  · rcases hSecond with hNs' | ⟨hNs', _⟩
    · exact .inl (Text.before_trans hNs hNs')
    · exact .inl (hNs' ▸ hNs)
  · rcases hSecond with hNs' | ⟨hNs', hName'⟩
    · exact .inl (hNs ▸ hNs')
    · exact .inr ⟨hNs.trans hNs',
        Text.not_before_trans hName hName'⟩

theorem le_total (e f : EventType) :
    e.le f || f.le e := by
  rw [Bool.or_eq_true, le_iff, le_iff]
  cases hNs : Text.before e.ns f.ns with
  | true => exact .inl (.inl rfl)
  | false =>
      cases hNs' : Text.before f.ns e.ns with
      | true => exact .inr (.inl rfl)
      | false =>
          have hSame := Text.eq_of_not_before hNs hNs'
          cases hName : Text.before f.name e.name with
          | false => exact .inl (.inr ⟨hSame, rfl⟩)
          | true =>
              have hName' := Text.before_asymm hName
              exact .inr (.inr ⟨hSame.symm, hName'⟩)

/- Each before the other, two event types are namesakes. -/
theorem eq_of_le_of_le
    {e f : EventType}
    (hLe : e.le f)
    (hGe : f.le e) :
    e.ns = f.ns ∧ e.name = f.name := by
  rw [le_iff] at hLe hGe
  rcases hLe with hNs | ⟨hNs, hName⟩
  · have hNot := Text.before_asymm hNs
    rcases hGe with hNs' | ⟨hNs', _⟩
    · rw [hNot] at hNs'
      cases hNs'
    · rw [hNs'] at hNs hNot
      rw [hNs] at hNot
      cases hNot
  · rcases hGe with hNs' | ⟨_, hName'⟩
    · have hNot := Text.before_asymm hNs'
      rw [hNs] at hNs' hNot
      rw [hNot] at hNs'
      cases hNs'
    · exact ⟨hNs, Text.eq_of_not_before hName' hName⟩

/-
  Event types with namespaces and names of their own are
  sorted alike from whatever order.
-/
theorem mergeSort_eq_of_perm
    {es es' : List EventType}
    (hPerm : es'.Perm es)
    (hDistinct : (es.map fun e => (e.ns, e.name)).Nodup) :
    es'.mergeSort le = es.mergeSort le := by
  have hSorted (l : List EventType) :=
    List.pairwise_mergeSort le_trans le_total l
  refine List.Perm.eq_of_pairwise ?_ (hSorted es')
    (hSorted es) ?_
  · intro e f he hf hLe hGe
    rw [List.mem_mergeSort] at he hf
    have hSame := eq_of_le_of_le hLe hGe
    exact List.inj_on_of_nodup_map hDistinct
      (hPerm.mem_iff.mp he) hf
      (Prod.ext hSame.1 hSame.2)
  · exact (List.mergeSort_perm es' le).trans
      (hPerm.trans (List.mergeSort_perm es le).symm)

/- Event types may be singled out before they are sorted. -/
theorem filter_mergeSort_le
    (p : EventType → Bool)
    (es : List EventType) :
    (es.mergeSort le).filter p =
      (es.filter p).mergeSort le :=
  List.filter_mergeSort le_trans le_total p es

end EventType

end EventTopology
