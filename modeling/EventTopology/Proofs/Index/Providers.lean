import EventTopology.Build.Index
import Mathlib.Data.List.Nodup

/-
  This file describes the providers of an index: of several
  with one key the first is kept, wherever it came from.

  Key definitions include:
    * `Index.unclaimed`

  The main results are:
    * `Index.foldl_addBroker`
    * `Index.foldl_addSubscribable`
    * `Index.nodup_providerKeys_foldl`
    * `Index.filter_unclaimed`
-/

------------------------------------------------------------
-- Unclaimed Records
------------------------------------------------------------

namespace EventTopology

namespace Index

variable {α : Type}

/-
  The records whose keys are neither taken nor claimed by an
  earlier record.
-/
def unclaimed
    (key : α → String) :
    List String → List α → List α
| _, [] => []
| taken, a :: as =>
    if key a ∈ taken then unclaimed key taken as
    else a :: unclaimed key (key a :: taken) as

/- Only which keys are taken matters. -/
theorem unclaimed_congr
    (key : α → String)
    {taken taken' : List String}
    (as : List α)
    (hSame : ∀ k, k ∈ taken ↔ k ∈ taken') :
    unclaimed key taken as = unclaimed key taken' as := by
  induction as generalizing taken taken' with
  | nil => rfl
  | cons a as ih =>
      have hNext : ∀ k,
          k ∈ key a :: taken ↔ k ∈ key a :: taken' := by
        intro k
        simp [hSame k]
      simp only [unclaimed, hSame (key a), ih hSame,
        ih hNext]

/- Where no key is claimed twice, all records are kept. -/
theorem unclaimed_eq_self
    {key : α → String}
    {taken : List String}
    {as : List α}
    (hDistinct : (as.map key).Nodup)
    (hFree : ∀ a ∈ as, key a ∉ taken) :
    unclaimed key taken as = as := by
  induction as generalizing taken with
  | nil => rfl
  | cons a as ih =>
      rw [List.map_cons, List.nodup_cons] at hDistinct
      rw [List.forall_mem_cons] at hFree
      rw [unclaimed, if_neg hFree.1, ih hDistinct.2]
      intro b hMem hTaken
      rcases List.mem_cons.mp hTaken with hSame | hOld
      · exact hDistinct.1
          (hSame ▸ List.mem_map_of_mem hMem)
      · exact hFree.2 b hMem hOld

/- No record is made up. -/
theorem mem_of_mem_unclaimed
    {key : α → String}
    {taken : List String}
    {as : List α}
    {a : α}
    (hMem : a ∈ unclaimed key taken as) :
    a ∈ as := by
  induction as generalizing taken with
  | nil => cases hMem
  | cons b as ih =>
      unfold unclaimed at hMem
      split at hMem
      · exact List.mem_cons_of_mem _ (ih hMem)
      · rcases List.mem_cons.mp hMem with rfl | hRest
        · exact List.mem_cons_self
        · exact List.mem_cons_of_mem _ (ih hRest)

/- A kept record has a key that was free. -/
theorem not_mem_of_mem_unclaimed
    {key : α → String}
    {taken : List String}
    {as : List α}
    {a : α}
    (hMem : a ∈ unclaimed key taken as) :
    key a ∉ taken := by
  induction as generalizing taken with
  | nil => cases hMem
  | cons b as ih =>
      unfold unclaimed at hMem
      split at hMem
      · exact ih hMem
      · rename_i hFree
        rcases List.mem_cons.mp hMem with rfl | hRest
        · exact hFree
        · intro hTaken
          exact ih hRest (List.mem_cons_of_mem _ hTaken)

/- Kept records have keys of their own. -/
theorem nodup_map_unclaimed
    (key : α → String)
    (taken : List String)
    (as : List α) :
    ((unclaimed key taken as).map key).Nodup := by
  induction as generalizing taken with
  | nil => exact List.nodup_nil
  | cons a as ih =>
      unfold unclaimed
      split
      · exact ih taken
      · rw [List.map_cons, List.nodup_cons]
        refine ⟨?_, ih (key a :: taken)⟩
        intro hMem
        rcases List.mem_map.mp hMem with ⟨b, hb, hKey⟩
        apply not_mem_of_mem_unclaimed hb
        rw [hKey]
        exact List.mem_cons_self

/-
  A filter may be applied before claims are made, if what it
  keeps never shares a key with what it drops, and the taken
  keys of what it keeps are known.
-/
theorem filter_unclaimed
    {key : α → String}
    {p : α → Bool}
    {taken taken' : List String}
    {as : List α}
    (hTaken : ∀ a ∈ as, p a →
      (key a ∈ taken ↔ key a ∈ taken'))
    (hApart : ∀ a ∈ as, ∀ b ∈ as, p a → key a = key b →
      p b) :
    (unclaimed key taken as).filter p =
      unclaimed key taken' (as.filter p) := by
  induction as generalizing taken taken' with
  | nil => rfl
  | cons b as ih =>
      have hApart' := fun a ha c hc =>
        hApart a (List.mem_cons_of_mem b ha) c
          (List.mem_cons_of_mem b hc)
      have hTaken' := fun a ha =>
        hTaken a (List.mem_cons_of_mem b ha)
      cases hp : p b with
      | true =>
          have hHead := hTaken b List.mem_cons_self hp
          rw [List.filter_cons_of_pos hp]
          by_cases hClaimed : key b ∈ taken
          · rw [unclaimed, if_pos hClaimed, unclaimed,
              if_pos (hHead.mp hClaimed)]
            exact ih hTaken' hApart'
          · rw [unclaimed, if_neg hClaimed, unclaimed,
              if_neg (mt hHead.mpr hClaimed),
              List.filter_cons_of_pos hp]
            congr 1
            apply ih _ hApart'
            intro a ha hpa
            simp [hTaken' a ha hpa]
      | false =>
          rw [List.filter_cons_of_neg (by simp [hp])]
          by_cases hClaimed : key b ∈ taken
          · rw [unclaimed, if_pos hClaimed]
            exact ih hTaken' hApart'
          · rw [unclaimed, if_neg hClaimed,
              List.filter_cons_of_neg (by simp [hp])]
            apply ih _ hApart'
            intro a ha hpa
            -- A record that is dropped claims a key that no
            -- kept record has.
            have hNe : key a ≠ key b := by
              intro hKey
              have hpb := hApart a
                (List.mem_cons_of_mem b ha) b
                List.mem_cons_self hpa hKey
              simp [hp] at hpb
            simp [hNe, hTaken' a ha hpa]

end Index

------------------------------------------------------------
-- Adding Providers
------------------------------------------------------------

namespace Index

/- Of brokers with one key the first is kept. -/
theorem foldl_addBroker
    (bs : List Broker)
    (x : Index) :
    bs.foldl addBroker x =
      { x with
        brokers := x.brokers ++
          unclaimed Broker.key x.providerKeys bs } := by
  induction bs generalizing x with
  | nil => simp [unclaimed]
  | cons b bs ih =>
      rw [List.foldl_cons, ih]
      by_cases hTaken : b.key ∈ x.providerKeys
      · simp [addBroker, hasProvider, hTaken, unclaimed]
      · have hAdd : x.addBroker b =
            { x with brokers := x.brokers ++ [b] } := by
          simp [addBroker, hasProvider, hTaken]
        rw [hAdd, unclaimed, if_neg hTaken]
        simp only [List.append_assoc, List.cons_append,
          List.nil_append]
        rw [unclaimed_congr Broker.key bs]
        intro k
        simp [providerKeys, or_left_comm, eq_comm]

/- Of subscribables with one key the first is kept. -/
theorem foldl_addSubscribable
    (ss : List Subscribable)
    (x : Index) :
    ss.foldl addSubscribable x =
      { x with
        subscribables := x.subscribables ++
          unclaimed Subscribable.key x.providerKeys
            ss } := by
  induction ss generalizing x with
  | nil => simp [unclaimed]
  | cons s ss ih =>
      rw [List.foldl_cons, ih]
      by_cases hTaken : s.key ∈ x.providerKeys
      · simp [addSubscribable, hasProvider, hTaken,
          unclaimed]
      · have hAdd : x.addSubscribable s =
            { x with
              subscribables := x.subscribables ++ [s] } := by
          simp [addSubscribable, hasProvider, hTaken]
        rw [hAdd, unclaimed, if_neg hTaken]
        simp only [List.append_assoc, List.cons_append,
          List.nil_append]
        rw [unclaimed_congr Subscribable.key ss]
        intro k
        simp only [providerKeys, List.map_append,
          List.map_singleton, List.mem_append,
          List.mem_cons, List.not_mem_nil, or_false]
        rw [← or_assoc, or_comm]

/- All providers have keys of their own. -/
theorem nodup_providerKeys_foldl
    (bs : List Broker)
    (ss : List Subscribable) :
    (ss.foldl addSubscribable
      (bs.foldl addBroker {})).providerKeys.Nodup := by
  rw [foldl_addSubscribable, foldl_addBroker]
  simp only [providerKeys, List.nil_append,
    List.map_nil, List.append_nil]
  rw [List.nodup_append]
  refine ⟨nodup_map_unclaimed _ _ _,
    nodup_map_unclaimed _ _ _, ?_⟩
  rintro k hBroker k' hSubscribable rfl
  rcases List.mem_map.mp hSubscribable with ⟨s, hs, rfl⟩
  exact not_mem_of_mem_unclaimed hs hBroker

end Index

end EventTopology
