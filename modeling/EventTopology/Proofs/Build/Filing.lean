import EventTopology.Proofs.Build.Findings
import Mathlib.Data.List.Induction
import Mathlib.Data.List.Nodup

/-
  This file describes filing from the side of one event
  type: of all the turns of subscriptions, only those count
  that file an identity under its id.

  Key definitions include:
    * `Turn.filed`
    * `Consumption.addAll`

  The main results are:
    * `Findings.pushed_consumed`
    * `Consumption.addAll_texts`
    * `Consumption.mem_addAll_iff`
    * `Consumption.addAll_perm`
-/

------------------------------------------------------------
-- Filing Under One Id
------------------------------------------------------------

namespace EventTopology

namespace Consumption

/- Add identities, each of them once. -/
def addAll
    (known identities : List Json) : List Json :=
  identities.foldl (fun l v => addOnce v l) known

theorem pushed_file
    (v : Json)
    (c : Consumption)
    (id other : String) :
    Table.pushed id (file v c other) =
      addAll (Table.pushed id c)
        (if other = id then [v] else []) := by
  by_cases h : other = id
  · subst h
    simp [file, addAll, Table.pushed,
      Table.lookup_insert_self]
  · simp [file, addAll, Table.pushed, h,
      Table.lookup_insert_of_ne _ _ (Ne.symm h)]

theorem addAll_append
    (known vs ws : List Json) :
    addAll known (vs ++ ws) =
      addAll (addAll known vs) ws :=
  List.foldl_append

/- Filing counts as often as the id occurs. -/
theorem pushed_foldl_file
    (v : Json)
    (ids : List String)
    (c : Consumption)
    (id : String) :
    Table.pushed id (ids.foldl (file v) c) =
      addAll (Table.pushed id c)
        ((ids.filter (· = id)).map fun _ => v) := by
  induction ids generalizing c with
  | nil => rfl
  | cons other ids ih =>
      rw [List.foldl_cons, ih, pushed_file, ← addAll_append]
      congr 1
      by_cases h : other = id <;> simp [h]

end Consumption

namespace Turn

/- What a turn files under one id. -/
def filed (x : Index) (id : String) (t : Turn) : List Json :=
  match t.identity? with
  | none => []
  | some v => ((t.ids x).filter (· = id)).map fun _ => v

theorem mem_filed_iff
    {x : Index}
    {id : String}
    {t : Turn}
    {v : Json} :
    v ∈ t.filed x id ↔
      t.identity? = some v ∧ id ∈ t.ids x := by
  unfold filed
  cases t.identity? with
  | none => simp
  | some w =>
      simp only [List.mem_map, List.mem_filter,
        decide_eq_true_eq, Option.some.injEq]
      constructor
      · rintro ⟨_, ⟨hIn, rfl⟩, rfl⟩
        exact ⟨rfl, hIn⟩
      · rintro ⟨rfl, hIn⟩
        exact ⟨id, ⟨hIn, rfl⟩, rfl⟩

theorem pushed_take
    (x : Index)
    (known : Consumption)
    (t : Turn)
    (id : String) :
    Table.pushed id (t.take x known) =
      Consumption.addAll (Table.pushed id known)
        (t.filed x id) := by
  unfold take filed
  cases t.identity? with
  | none => rfl
  | some v => exact Consumption.pushed_foldl_file v _ _ id

/- What turns file is added in order. -/
theorem pushed_foldl_take
    (x : Index)
    (ts : List Turn)
    (known : Consumption)
    (id : String) :
    Table.pushed id (ts.foldl (take x) known) =
      Consumption.addAll (Table.pushed id known)
        (ts.flatMap (filed x id)) := by
  induction ts generalizing known with
  | nil => rfl
  | cons t ts ih =>
      rw [List.foldl_cons, ih, pushed_take,
        ← Consumption.addAll_append, List.flatMap_cons]

end Turn

/- The consumers under one id are those filed there. -/
theorem Findings.pushed_consumed
    (f : Findings)
    (id : String) :
    Table.pushed id f.consumed =
      Consumption.addAll []
        (f.turns.flatMap (Turn.filed f.index id)) :=
  Turn.pushed_foldl_take f.index f.turns [] id

end EventTopology

------------------------------------------------------------
-- Texts as Identities
------------------------------------------------------------

/- First occurrences have no further ones. -/
theorem List.nodup_eraseDups
    {α : Type}
    [BEq α] [LawfulBEq α]
    (as : List α) :
    as.eraseDups.Nodup := by
  induction as using List.reverseRecOn with
  | nil => exact List.nodup_nil
  | append_singleton as a ih =>
      rw [List.eraseDups_append]
      by_cases h : a ∈ as
      · simpa [List.removeAll, h] using ih
      · have hNew : ∀ b ∈ as.eraseDups, b ≠ a := by
          rintro b hMem rfl
          exact h (List.mem_eraseDups.mp hMem)
        simpa [List.removeAll, h, List.eraseDups_cons,
          List.nodup_append, ih] using hNew

namespace EventTopology

namespace Consumption

theorem addOnce_text
    (i : String)
    (known : List String) :
    addOnce (.str i) (known.map .str) =
      (if i ∈ known then known else known ++ [i]).map
        .str := by
  have hAny :
      ((known.map Json.str).any
          (Json.sameKey · (.str i)) = true) ↔
        i ∈ known := by
    simp [Json.sameKey]
  unfold addOnce
  by_cases h : i ∈ known
  · rw [if_pos (hAny.mpr h), if_pos h]
  · rw [if_neg (mt hAny.mp h), if_neg h, List.map_append]
    rfl

/- Of texts, the first occurrences remain. -/
theorem addAll_texts (is : List String) :
    addAll [] (is.map .str) = is.eraseDups.map .str := by
  induction is using List.reverseRecOn with
  | nil => rfl
  | append_singleton is i ih =>
      rw [List.map_append, addAll_append, ih,
        List.eraseDups_append]
      have hOne :
          ([i].removeAll is).eraseDups =
            if i ∈ is then [] else [i] := by
        by_cases h : i ∈ is <;>
          simp [List.removeAll, h, List.eraseDups_cons]
      change addOnce (.str i) (is.eraseDups.map .str) = _
      rw [addOnce_text, hOne]
      simp only [List.mem_eraseDups]
      by_cases h : i ∈ is <;> simp [h]

/- Texts are told by what they read. -/
theorem map_str_text
    {vs : List Json}
    (hTexts : ∀ v ∈ vs, ∃ i, v = .str i) :
    (vs.map Json.text).map .str = vs := by
  rw [List.map_map]
  refine (List.map_congr_left fun v hMem => ?_).trans
    (List.map_id vs)
  rcases hTexts v hMem with ⟨i, rfl⟩
  rfl

/- Of texts, all that are added are there, and no others. -/
theorem mem_addAll_iff
    {vs : List Json}
    (hTexts : ∀ v ∈ vs, ∃ i, v = .str i)
    {v : Json} :
    v ∈ addAll [] vs ↔ v ∈ vs := by
  rw [← map_str_text hTexts, addAll_texts]
  simp

/-
  The order of texts only decides in which order they are
  added, each once.
-/
theorem addAll_perm
    {vs vs' : List Json}
    (hTexts : ∀ v ∈ vs, ∃ i, v = .str i)
    (hPerm : vs'.Perm vs) :
    (addAll [] vs').Perm (addAll [] vs) ∧
      (addAll [] vs').Nodup := by
  have hAll := addAll_texts (vs.map Json.text)
  have hAll' := addAll_texts (vs'.map Json.text)
  rw [map_str_text hTexts] at hAll
  rw [map_str_text fun v hMem =>
    hTexts v (hPerm.mem_iff.mp hMem)] at hAll'
  have hOnce := List.nodup_eraseDups (vs'.map Json.text)
  have hSame :
      (vs'.map Json.text).eraseDups.Perm
        (vs.map Json.text).eraseDups := by
    rw [List.perm_ext_iff_of_nodup hOnce
      (List.nodup_eraseDups _)]
    intro i
    rw [List.mem_eraseDups, List.mem_eraseDups]
    exact (hPerm.map Json.text).mem_iff
  rw [hAll, hAll']
  exact ⟨hSame.map _, hOnce.map fun _ _ => Json.str.inj⟩

end Consumption

end EventTopology
