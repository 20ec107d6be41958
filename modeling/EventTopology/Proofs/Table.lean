import EventTopology.Table
import Mathlib.Data.List.Induction
import Mathlib.Data.List.Nodup

/-
  This file proves laws of tables and of indices: keys stay
  distinct, entries come from what was put in, and a filter
  that respects keys may be applied before or after filling
  a table.

  The main results are:
    * `Table.nodup_keys_ofList`
    * `Table.lookup_eq_some_iff`
    * `Table.keys_ofList_sublist`
    * `Table.lookup_ofList`
    * `Table.filter_ofList`
    * `Table.pushed_foldl_push`
-/

------------------------------------------------------------
-- Keys and Entries
------------------------------------------------------------

namespace EventTopology

namespace Table

variable {α : Type}

/- Setting a key adds that key and no other. -/
theorem mem_keys_insert_iff
    {key k : String}
    {v : α}
    {t : Table α} :
    k ∈ keys (insert key v t) ↔ k = key ∨ k ∈ keys t := by
  induction t with
  | nil => simp [insert, keys]
  | cons e t ih =>
      rcases e with ⟨k', w⟩
      by_cases h : k' = key
      · subst h
        simp [insert, keys]
      · simp only [keys] at ih
        simp only [insert, h, keys, if_false, List.map_cons,
          List.mem_cons, ih]
        exact or_left_comm

/- An entry is the one just set or an earlier one. -/
theorem mem_of_mem_insert
    {key : String}
    {v : α}
    {t : Table α}
    {e : String × α}
    (hMem : e ∈ insert key v t) :
    e = (key, v) ∨ e ∈ t := by
  induction t with
  | nil =>
      left
      simpa [insert] using hMem
  | cons e' t ih =>
      rcases e' with ⟨k, w⟩
      by_cases h : k = key
      · simp only [insert, h, if_true,
          List.mem_cons] at hMem
        rcases hMem with hNew | hOld
        · exact Or.inl hNew
        · exact Or.inr (List.mem_cons_of_mem _ hOld)
      · simp only [insert, h, if_false,
          List.mem_cons] at hMem
        rcases hMem with hFirst | hRest
        · exact Or.inr (List.mem_cons.mpr (Or.inl hFirst))
        · rcases ih hRest with hNew | hOld
          · exact Or.inl hNew
          · exact Or.inr (List.mem_cons_of_mem _ hOld)

/- Distinct keys stay distinct. -/
theorem nodup_keys_insert
    (key : String)
    (v : α)
    {t : Table α}
    (hNodup : (keys t).Nodup) :
    (keys (insert key v t)).Nodup := by
  induction t with
  | nil => simp [insert, keys]
  | cons e t ih =>
      rcases e with ⟨k, w⟩
      have hCons : k ∉ keys t ∧ (keys t).Nodup :=
        List.nodup_cons.mp hNodup
      by_cases h : k = key
      · subst h
        simpa [insert, keys] using hNodup
      · have hRest := ih hCons.2
        have hFresh : k ∉ keys (insert key v t) := by
          rw [mem_keys_insert_iff]
          rintro (hKey | hMem)
          · exact h hKey
          · exact hCons.1 hMem
        simpa [insert, h, keys] using
          And.intro hFresh hRest

/- A key that is set stays where it is or comes last. -/
theorem keys_insert_sublist
    (key : String)
    (v : α)
    (t : Table α) :
    (keys (insert key v t)).Sublist (keys t ++ [key]) := by
  induction t with
  | nil => simp [insert, keys]
  | cons e t ih =>
      rcases e with ⟨k, w⟩
      by_cases h : k = key
      · subst h
        simp [insert, keys]
      · simpa [insert, h, keys] using ih

/- What is found under a key is an entry. -/
theorem mem_of_lookup
    {t : Table α}
    {key : String}
    {v : α}
    (hFound : lookup key t = some v) :
    (key, v) ∈ t := by
  induction t with
  | nil => cases hFound
  | cons e t ih =>
      rcases e with ⟨k, w⟩
      by_cases h : k = key
      · subst h
        simp only [lookup, if_true, Option.some.injEq]
          at hFound
        rw [hFound]
        exact List.mem_cons_self
      · simp only [lookup, h, if_false] at hFound
        exact List.mem_cons_of_mem _ (ih hFound)

/- With distinct keys, lookups find just the entries. -/
theorem lookup_eq_some_iff
    {t : Table α}
    (hNodup : (keys t).Nodup)
    {key : String}
    {v : α} :
    lookup key t = some v ↔ (key, v) ∈ t := by
  induction t with
  | nil => simp [lookup]
  | cons e t ih =>
      rcases e with ⟨k, w⟩
      have hCons : k ∉ keys t ∧ (keys t).Nodup :=
        List.nodup_cons.mp hNodup
      by_cases h : k = key
      · subst h
        have hNotMem : (k, v) ∉ t := by
          intro hMem
          exact hCons.1 (List.mem_map_of_mem hMem)
        simp [lookup, hNotMem, eq_comm]
      · simp [lookup, h, ih hCons.2, Ne.symm h]

end Table

------------------------------------------------------------
-- Filling Tables
------------------------------------------------------------

namespace Table

variable {α : Type}

/- Filling a table one entry further. -/
theorem ofList_concat
    (entries : List (String × α))
    (e : String × α) :
    ofList (entries ++ [e]) =
      insert e.1 e.2 (ofList entries) := by
  simp [ofList]

/- The keys of a filled table are distinct. -/
theorem nodup_keys_ofList
    (entries : List (String × α)) :
    (keys (ofList entries)).Nodup := by
  induction entries using List.reverseRecOn with
  | nil => exact List.nodup_nil
  | append_singleton entries e ih =>
      rw [ofList_concat]
      exact nodup_keys_insert e.1 e.2 ih

/- The keys of a filled table are those put in. -/
theorem mem_keys_ofList_iff
    {entries : List (String × α)}
    {k : String} :
    k ∈ keys (ofList entries) ↔
      k ∈ entries.map (·.1) := by
  induction entries using List.reverseRecOn with
  | nil => exact Iff.rfl
  | append_singleton entries e ih =>
      rw [ofList_concat, mem_keys_insert_iff, ih]
      simp [or_comm]

/- The entries of a filled table are among those put in. -/
theorem mem_of_mem_ofList
    {entries : List (String × α)}
    {e : String × α}
    (hMem : e ∈ ofList entries) :
    e ∈ entries := by
  induction entries using List.reverseRecOn with
  | nil => cases hMem
  | append_singleton entries e' ih =>
      rw [ofList_concat] at hMem
      rcases mem_of_mem_insert hMem with rfl | hOld
      · simp
      · exact List.mem_append_left _ (ih hOld)

/- The keys of a filled table keep the order of entries. -/
theorem keys_ofList_sublist
    (entries : List (String × α)) :
    (keys (ofList entries)).Sublist
      (entries.map (·.1)) := by
  induction entries using List.reverseRecOn with
  | nil => exact List.Sublist.refl []
  | append_singleton entries e ih =>
      rw [ofList_concat, List.map_append, List.map_singleton]
      have hSet :=
        keys_insert_sublist e.1 e.2 (ofList entries)
      exact hSet.trans (ih.append_right [e.1])

/- The value of a key is the last one put in for it. -/
theorem lookup_ofList
    (entries : List (String × α))
    (key : String) :
    lookup key (ofList entries) =
      (entries.filter (·.1 = key)).getLast?.map (·.2) := by
  induction entries using List.reverseRecOn with
  | nil => rfl
  | append_singleton entries e ih =>
      rcases e with ⟨k, v⟩
      rw [ofList_concat, List.filter_append]
      by_cases h : k = key
      · subst h
        simp [lookup_insert_self]
      · simp [lookup_insert_of_ne _ _ (Ne.symm h), ih, h]

/- A key that is new comes last. -/
theorem insert_of_not_mem
    {key : String}
    {t : Table α}
    (v : α)
    (hNew : key ∉ keys t) :
    insert key v t = t ++ [(key, v)] := by
  induction t with
  | nil => rfl
  | cons e t ih =>
      rcases e with ⟨k, w⟩
      simp only [keys, List.map_cons, List.mem_cons,
        not_or] at hNew
      simp [insert, Ne.symm hNew.1, ih hNew.2]

/- Entries with keys of their own are a table. -/
theorem ofList_eq_self
    {entries : List (String × α)}
    (hKeys : (keys entries).Nodup) :
    ofList entries = entries := by
  induction entries using List.reverseRecOn with
  | nil => rfl
  | append_singleton entries e ih =>
      rcases e with ⟨k, v⟩
      rw [keys, List.map_append, List.nodup_append] at hKeys
      rcases hKeys with ⟨hRest, _, hDisjoint⟩
      rw [ofList_concat, ih hRest]
      apply insert_of_not_mem
      intro hMem
      exact hDisjoint k hMem k (by simp) rfl

/-
  Setting a key commutes with a filter that treats all
  entries of the key alike.
-/
theorem filter_insert
    {p : String × α → Bool}
    {key : String}
    {v : α}
    {t : Table α}
    (hAlike : ∀ w, (key, w) ∈ t → p (key, w) = p (key, v)) :
    (insert key v t).filter p =
      if p (key, v) then insert key v (t.filter p)
      else t.filter p := by
  induction t with
  | nil => cases h : p (key, v) <;> simp [insert, h]
  | cons e t ih =>
      rcases e with ⟨k, w⟩
      have hRest := ih fun w' hMem =>
        hAlike w' (List.mem_cons_of_mem _ hMem)
      by_cases hKey : k = key
      · subst hKey
        have hHead := hAlike w List.mem_cons_self
        cases h : p (k, v) with
        | true => simp [insert, h, hHead.trans h]
        | false => simp [insert, h, hHead.trans h]
      · cases h : p (key, v) with
        | true =>
            rw [h, if_pos rfl] at hRest
            cases hp : p (k, w) <;>
              simp [insert, hKey, hp, hRest]
        | false =>
            rw [h] at hRest
            cases hp : p (k, w) <;>
              simp_all [insert]

/-
  A filter that treats all entries of any key alike may be
  applied before a table is filled.
-/
theorem filter_ofList
    {p : String × α → Bool}
    {entries : List (String × α)}
    (hAlike : ∀ k v w, (k, v) ∈ entries →
      (k, w) ∈ entries → p (k, v) = p (k, w)) :
    (ofList entries).filter p =
      ofList (entries.filter p) := by
  induction entries using List.reverseRecOn with
  | nil => rfl
  | append_singleton entries e ih =>
      rcases e with ⟨k, v⟩
      have hRest := ih fun k' v' w' hv hw =>
        hAlike k' v' w' (List.mem_append_left _ hv)
          (List.mem_append_left _ hw)
      rw [ofList_concat, filter_insert, hRest,
        List.filter_append]
      · cases h : p (k, v) with
        | true => simp [h, ofList_concat]
        | false => simp [h]
      · intro w hMem
        exact hAlike k w v
          (List.mem_append_left _ (mem_of_mem_ofList hMem))
          (by simp)

end Table

------------------------------------------------------------
-- Filling Indices
------------------------------------------------------------

namespace Table

variable {α β : Type}

/-
  Under a key of an index stands, in order, whatever was
  filed under it.
-/
theorem pushed_foldl_push
    (key : α → String)
    (value : α → β)
    (as : List α)
    (t : Table (List β))
    (k : String) :
    pushed k
        (as.foldl
          (fun t a => push (key a) (value a) t) t) =
      pushed k t ++
        (as.filter (key · = k)).map value := by
  induction as generalizing t with
  | nil => simp
  | cons a as ih =>
      rw [List.foldl_cons, ih]
      by_cases h : key a = k
      · subst h
        simp [pushed_push_self]
      · simp [pushed_push_of_ne _ _ (Ne.symm h), h]

end Table

------------------------------------------------------------
-- Joining and Changing Tables
------------------------------------------------------------

namespace Table

variable {α β : Type}

/- What the first of two tables has is found first. -/
theorem lookup_append
    (key : String)
    (s t : Table α) :
    lookup key (s ++ t) =
      (lookup key s).or (lookup key t) := by
  induction s with
  | nil => rfl
  | cons e s ih =>
      rcases e with ⟨k, v⟩
      by_cases h : k = key
      · simp [lookup, h]
      · simp [lookup, h, ih]

/- Changed values are found under the same keys. -/
theorem lookup_map
    (f : α → β)
    (key : String)
    (t : Table α) :
    lookup key (t.map fun e => (e.1, f e.2)) =
      (lookup key t).map f := by
  induction t with
  | nil => rfl
  | cons e t ih =>
      rcases e with ⟨k, v⟩
      by_cases h : k = key
      · simp [lookup, h]
      · simp [lookup, h, ih]

/- Where a table has a key, something is found there. -/
theorem mem_keys_iff
    {t : Table α}
    {key : String} :
    key ∈ keys t ↔ lookup key t ≠ none := by
  induction t with
  | nil => simp [keys, lookup]
  | cons e t ih =>
      rcases e with ⟨k, v⟩
      by_cases h : k = key
      · simp [keys, lookup, h]
      · simp only [keys] at ih
        simp [keys, lookup, h, ih, Ne.symm h]

/- A table without what it has for a key. -/
def without (key : String) : Table α → Table α
| [] => []
| (k, v) :: t =>
    if k = key then without key t
    else (k, v) :: without key t

theorem lookup_without_self
    (key : String)
    (t : Table α) :
    lookup key (without key t) = none := by
  induction t with
  | nil => rfl
  | cons e t ih =>
      rcases e with ⟨k, v⟩
      by_cases h : k = key
      · simp [without, h, ih]
      · simp [without, lookup, h, ih]

theorem lookup_without_of_ne
    {key other : String}
    (t : Table α)
    (hNe : other ≠ key) :
    lookup other (without key t) = lookup other t := by
  induction t with
  | nil => rfl
  | cons e t ih =>
      rcases e with ⟨k, v⟩
      by_cases h : k = key
      · subst h
        simp [without, lookup, hNe.symm, ih]
      · by_cases h' : k = other
        · subst h'
          simp [without, lookup, h]
        · simp [without, lookup, h, h', ih]

end Table

end EventTopology
