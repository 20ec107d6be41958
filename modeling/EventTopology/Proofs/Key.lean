import EventTopology.Mesh.Key
import Mathlib.Data.List.Basic

/-
  This file shows when keys tell what they were made of.  A
  name without a slash is not confused with any other, and
  four such names are not confused with any four texts.

  Key definitions include:
    * `Key.Plain`

  The main results are:
    * `Key.namespaced_inj`
    * `Key.qualified_inj`
-/

------------------------------------------------------------
-- Plain Names
------------------------------------------------------------

namespace EventTopology

namespace Key

/- A name without a slash. -/
def Plain (s : String) : Prop :=
  '/' ∉ s.toList

instance (s : String) : Decidable (Plain s) :=
  inferInstanceAs (Decidable (_ ∉ _))

theorem toList_namespaced (ns name : String) :
    (namespaced ns name).toList =
      ns.toList ++ '/' :: name.toList := by
  simp [namespaced]

/- A list is split one way at the first slash. -/
private theorem append_slash_inj
    {as as' bs bs' : List Char}
    (hAs : '/' ∉ as)
    (hAs' : '/' ∉ as')
    (hEq : as ++ '/' :: bs = as' ++ '/' :: bs') :
    as = as' ∧ bs = bs' := by
  induction as generalizing as' with
  | nil =>
      cases as' with
      | nil => exact ⟨rfl, (List.cons.inj hEq).2⟩
      | cons a as' =>
          have hHead := (List.cons.inj hEq).1
          rw [← hHead] at hAs'
          exact (hAs' List.mem_cons_self).elim
  | cons a as ih =>
      cases as' with
      | nil =>
          have hHead := (List.cons.inj hEq).1
          rw [hHead] at hAs
          exact (hAs List.mem_cons_self).elim
      | cons a' as' =>
          rcases List.cons.inj hEq with ⟨rfl, hTail⟩
          rcases ih (List.not_mem_of_not_mem_cons hAs)
              (List.not_mem_of_not_mem_cons hAs') hTail with
            ⟨rfl, hRest⟩
          exact ⟨rfl, hRest⟩

/- Keys in plain namespaces tell namespace and name. -/
theorem namespaced_inj
    {ns ns' name name' : String}
    (hNs : Plain ns)
    (hNs' : Plain ns')
    (hEq : namespaced ns name = namespaced ns' name') :
    ns = ns' ∧ name = name' := by
  have hLists := congrArg String.toList hEq
  rw [toList_namespaced, toList_namespaced] at hLists
  rcases append_slash_inj hNs hNs' hLists with
    ⟨hFirst, hSecond⟩
  exact ⟨String.toList_injective hFirst,
    String.toList_injective hSecond⟩

end Key

------------------------------------------------------------
-- Qualified Keys
------------------------------------------------------------

namespace Key

theorem qualified_eq (group kind ns name : String) :
    qualified group kind ns name =
      namespaced group
        (namespaced kind (namespaced ns name)) := by
  simp only [qualified, namespaced, String.append_assoc]

theorem plain_iff {s : String} :
    Plain s ↔ s.toList.count '/' = 0 :=
  List.count_eq_zero.symm

theorem count_qualified (group kind ns name : String) :
    (qualified group kind ns name).toList.count '/' =
      group.toList.count '/' + kind.toList.count '/' +
        ns.toList.count '/' + name.toList.count '/' +
        3 := by
  simp only [qualified_eq, toList_namespaced,
    List.count_append, List.count_cons_self]
  omega

/-
  A key of plain names equals no other key, even if the
  other is made of texts with slashes: it would have more of
  them.
-/
theorem qualified_inj
    {group group' kind kind' ns ns' name name' : String}
    (hGroup : Plain group)
    (hKind : Plain kind)
    (hNs : Plain ns)
    (hName : Plain name)
    (hEq : qualified group kind ns name =
      qualified group' kind' ns' name') :
    group = group' ∧ kind = kind' ∧ ns = ns' ∧
      name = name' := by
  have hCount :=
    congrArg (fun s : String => s.toList.count '/') hEq
  simp only [count_qualified, plain_iff.mp hGroup,
    plain_iff.mp hKind, plain_iff.mp hNs,
    plain_iff.mp hName] at hCount
  have hGroup' : Plain group' := plain_iff.mpr (by omega)
  have hKind' : Plain kind' := plain_iff.mpr (by omega)
  have hNs' : Plain ns' := plain_iff.mpr (by omega)
  rw [qualified_eq, qualified_eq] at hEq
  rcases namespaced_inj hGroup hGroup' hEq with
    ⟨hFirst, hEq⟩
  rcases namespaced_inj hKind hKind' hEq with
    ⟨hSecond, hEq⟩
  rcases namespaced_inj hNs hNs' hEq with ⟨hThird, hLast⟩
  exact ⟨hFirst, hSecond, hThird, hLast⟩

end Key

end EventTopology
