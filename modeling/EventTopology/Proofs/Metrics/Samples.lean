import EventTopology.Build.Plan
import EventTopology.Metrics.Registry
import Mathlib.Data.List.Nodup

/-
  This file says which samples a registry shows of the
  builds that it has recorded.

  Key definitions include:
    * `Registry.sizes`
    * `Registry.skippedFor`
    * `Registry.Tallies`
    * `Registry.Shows`

  The main results are:
    * `Metrics.Series.lookup_eq_some_iff`
    * `Registry.skippedFor_recordSkips`
    * `Registry.Tallies.succeed`
    * `Registry.Tallies.fail`
    * `Registry.Tallies.shows`
-/

------------------------------------------------------------
-- Series
------------------------------------------------------------

namespace EventTopology

namespace Metrics

namespace Series

variable {α : Type}

/- The rows of label values that a series has. -/
def keys (s : Series α) : List (List String) :=
  s.map (·.1)

/- Changing a measurement adds its row and no other. -/
theorem mem_keys_update_iff
    {key k : List String}
    {start : α}
    {f : α → α}
    {s : Series α} :
    k ∈ keys (update key start f s) ↔
      k = key ∨ k ∈ keys s := by
  induction s with
  | nil => simp [update, keys]
  | cons e s ih =>
      rcases e with ⟨k', v⟩
      simp only [keys] at ih
      by_cases h : k' = key
      · subst h
        simp [update, keys]
      · simp only [update, h, if_false, keys, List.map_cons,
          List.mem_cons, ih]
        exact or_left_comm

/- No row is there twice. -/
theorem nodup_keys_update
    (key : List String)
    (start : α)
    (f : α → α)
    {s : Series α}
    (hNodup : (keys s).Nodup) :
    (keys (update key start f s)).Nodup := by
  induction s with
  | nil => simp [update, keys]
  | cons e s ih =>
      rcases e with ⟨k, v⟩
      simp only [keys, List.map_cons, List.nodup_cons]
        at hNodup ih
      by_cases h : k = key
      · simpa [update, h, keys] using hNodup
      · have hNot : k ∉ keys (update key start f s) :=
          mt mem_keys_update_iff.mp
            (not_or.mpr ⟨h, hNodup.1⟩)
        simp only [update, h, if_false, keys, List.map_cons,
          List.nodup_cons]
        exact ⟨hNot, ih hNodup.2⟩

/- What holds of the rows and of a new one goes on to hold. -/
theorem forall_keys_update
    {P : List String → Prop}
    {key : List String}
    (start : α)
    (f : α → α)
    {s : Series α}
    (hOld : ∀ k ∈ keys s, P k)
    (hNew : P key) :
    ∀ k ∈ keys (update key start f s), P k := by
  intro k hMem
  rcases mem_keys_update_iff.mp hMem with rfl | hMem
  · exact hNew
  · exact hOld k hMem

/- Where no row is there twice, all that is there is found. -/
theorem lookup_eq_some_iff
    {key : List String}
    {v : α}
    {s : Series α}
    (hNodup : (keys s).Nodup) :
    lookup key s = some v ↔ (key, v) ∈ s := by
  induction s with
  | nil => simp [lookup]
  | cons e s ih =>
      rcases e with ⟨k, w⟩
      simp only [keys, List.map_cons, List.nodup_cons]
        at hNodup ih
      by_cases h : k = key
      · subst h
        have hNot : (k, v) ∉ s := fun hMem =>
          hNodup.1 (List.mem_map_of_mem (f := (·.1)) hMem)
        simp [lookup, hNot, eq_comm]
      · simp [lookup, h, Ne.symm h, ih hNodup.2]

end Series

end Metrics

------------------------------------------------------------
-- Samples by Name
------------------------------------------------------------

namespace Registry

open Metrics (Series Sample)

variable (r : Registry)
variable {labels : List (String × String)} {v : Amount}

/- A sample is that of a row with its value. -/
theorem mem_labelled_iff
    {α : Type}
    {name label : String}
    {value : α → Amount}
    {s : Series α} :
    ⟨name, labels, v⟩ ∈ labelled name label value s ↔
      ∃ key x, (key, x) ∈ s ∧ labels = [label].zip key ∧
        v = value x := by
  simp [labelled, eq_comm]

/- Only the builds are shown under the name of builds. -/
theorem mem_samples_builds :
    ⟨"eventmesh_builds_total", labels, v⟩ ∈ r.samples ↔
      ⟨"eventmesh_builds_total", labels, v⟩ ∈
        labelled "eventmesh_builds_total" "outcome" ofCount
          r.builds := by
  simp [samples, requestSamples, serviceSamples,
    buildSamples, labelled, Metrics.Histogram.samples,
    Metrics.Histogram.bucketSample]

theorem mem_samples_durations :
    ⟨"eventmesh_build_duration_seconds_count", labels, v⟩ ∈
        r.samples ↔
      labels = [] ∧ v = .whole r.buildDurations.count := by
  simp [samples, requestSamples, serviceSamples,
    buildSamples, labelled, Metrics.Histogram.samples,
    Metrics.Histogram.bucketSample]

theorem mem_samples_entities :
    ⟨"eventmesh_entities", labels, v⟩ ∈ r.samples ↔
      ⟨"eventmesh_entities", labels, v⟩ ∈
        labelled "eventmesh_entities" "kind" id
          r.entities := by
  simp [samples, requestSamples, serviceSamples,
    buildSamples, labelled, Metrics.Histogram.samples,
    Metrics.Histogram.bucketSample]

end Registry

------------------------------------------------------------
-- Tallied Builds
------------------------------------------------------------

namespace Registry

open Metrics (Series)

/- The sizes of the four lists of a mesh by kind. -/
def sizes (m : Mesh) : Series Amount :=
  [(["broker"], .whole m.brokers.length),
   (["subscribable"], .whole m.subscribables.length),
   (["eventtype"], .whole m.eventTypes.length),
   (["source"], .whole m.sources.length)]

/- What has been counted, if anything has. -/
def counted : Nat → Option Nat
| 0 => none
| n + 1 => some (n + 1)

theorem counted_eq_some_iff
    {n k : Nat} :
    counted n = some k ↔ 0 < n ∧ k = n := by
  cases n with
  | zero => simp [counted]
  | succ n => simp [counted, eq_comm]

/- Counting goes on from what has been counted. -/
theorem getD_counted (n : Nat) : (counted n).getD 0 = n := by
  cases n <;> rfl

/-
  A registry keeps account of the builds that ended: of the
  meshes that they gave, in order, and of the failures.
-/
structure Tallies
    (r : Registry)
    (meshes : List Mesh)
    (failures : Nat) : Prop where
  nodup : (Series.keys r.builds).Nodup
  outcomes : ∀ key ∈ Series.keys r.builds,
    key = ["success"] ∨ key = ["error"]
  success : Series.lookup ["success"] r.builds =
    counted meshes.length
  error : Series.lookup ["error"] r.builds =
    counted failures
  durations :
    r.buildDurations.count = meshes.length + failures
  entities : r.entities =
    (meshes.getLast?.map sizes).getD []

/- A registry that has recorded no build keeps account. -/
theorem tallies_start
    {r : Registry}
    (hBuilds : r.builds = [])
    (hDurations : r.buildDurations.count = 0)
    (hEntities : r.entities = []) :
    r.Tallies [] 0 where
  nodup := by simp [hBuilds, Series.keys]
  outcomes := by simp [hBuilds, Series.keys]
  success := by simp [hBuilds, Series.lookup, counted]
  error := by simp [hBuilds, Series.lookup, counted]
  durations := hDurations
  entities := hEntities

variable {r : Registry}
variable {meshes : List Mesh} {failures : Nat}

/- Skipped items are counted on their own. -/
theorem recordSkips_eq
    (r : Registry)
    (skips : List SkipReason) :
    ∃ skipped, r.recordSkips skips =
      { r with skipped := skipped } := by
  induction skips generalizing r with
  | nil => exact ⟨r.skipped, rfl⟩
  | cons reason skips ih =>
      rcases ih (r.recordSkip reason.name) with
        ⟨skipped, hSame⟩
      exact ⟨skipped, hSame⟩

/- How many items have been skipped for a reason. -/
def skippedFor
    (r : Registry)
    (reason : SkipReason) : Nat :=
  (Series.lookup [reason.name] r.skipped).getD 0

theorem skippedFor_recordSkip
    (r : Registry)
    (reason reason' : SkipReason) :
    (r.recordSkip reason'.name).skippedFor reason =
      r.skippedFor reason +
        if reason' = reason then 1 else 0 := by
  have hNames : reason' ≠ reason →
      [reason'.name] ≠ [reason.name] := by
    cases reason <;> cases reason' <;> decide
  unfold skippedFor recordSkip Series.count
  by_cases h : reason' = reason
  · subst h
    rw [Series.lookup_update_self, if_pos rfl]
    rfl
  · rw [Series.lookup_update_of_ne _ _ _ (hNames h).symm,
      if_neg h]
    rfl

/- Each skipped item adds to the count of its reason. -/
theorem skippedFor_recordSkips
    (r : Registry)
    (reason : SkipReason)
    (skips : List SkipReason) :
    (r.recordSkips skips).skippedFor reason =
      r.skippedFor reason + skips.count reason := by
  induction skips generalizing r with
  | nil => rfl
  | cons reason' skips ih =>
      change ((r.recordSkip reason'.name).recordSkips
        skips).skippedFor reason = _
      rw [ih, skippedFor_recordSkip, List.count_cons]
      simp only [beq_iff_eq]
      omega

/- The sizes of a mesh take the place of earlier ones. -/
theorem entities_setEntities
    (hEntities : r.entities =
      (meshes.getLast?.map sizes).getD [])
    (m : Mesh) :
    (r.setEntities m.counts).entities = sizes m := by
  cases hLast : meshes.getLast? with
  | none =>
      rw [hLast] at hEntities
      simp [setEntities, setEntity, hEntities,
        Series.update, sizes, Mesh.counts]
  | some m' =>
      rw [hLast] at hEntities
      simp [setEntities, setEntity, hEntities,
        Series.update, sizes, Mesh.counts]

/- A build that gives a mesh is counted as a success. -/
theorem Tallies.succeed
    (hTallies : r.Tallies meshes failures)
    (skips : List SkipReason)
    (duration : Amount)
    (m : Mesh) :
    (((r.recordSkips skips).recordBuild "success"
        duration).setEntities m.counts).Tallies
      (meshes ++ [m]) failures := by
  rcases r.recordSkips_eq skips with ⟨skipped, hSkips⟩
  rw [hSkips]
  refine ⟨?_, ?_, ?_, ?_, ?_, ?_⟩
  · exact Series.nodup_keys_update _ _ _ hTallies.nodup
  · exact Series.forall_keys_update _ _ hTallies.outcomes
      (Or.inl rfl)
  · change Series.lookup _ (Series.update _ _ _ r.builds) = _
    rw [Series.lookup_update_self, hTallies.success,
      getD_counted, List.length_append]
    rfl
  · change Series.lookup _ (Series.update _ _ _ r.builds) = _
    rw [Series.lookup_update_of_ne _ _ _ (by decide),
      hTallies.error]
  · change r.buildDurations.count + 1 = _
    rw [hTallies.durations, List.length_append,
      List.length_singleton]
    omega
  · rw [List.getLast?_concat]
    exact entities_setEntities hTallies.entities m

/- A build that gives none is counted as an error. -/
theorem Tallies.fail
    (hTallies : r.Tallies meshes failures)
    (skips : List SkipReason)
    (duration : Amount) :
    ((r.recordSkips skips).recordBuild "error"
      duration).Tallies meshes (failures + 1) := by
  rcases r.recordSkips_eq skips with ⟨skipped, hSkips⟩
  rw [hSkips]
  refine ⟨?_, ?_, ?_, ?_, ?_, hTallies.entities⟩
  · exact Series.nodup_keys_update _ _ _ hTallies.nodup
  · exact Series.forall_keys_update _ _ hTallies.outcomes
      (Or.inr rfl)
  · change Series.lookup _ (Series.update _ _ _ r.builds) = _
    rw [Series.lookup_update_of_ne _ _ _ (by decide),
      hTallies.success]
  · change Series.lookup _ (Series.update _ _ _ r.builds) = _
    rw [Series.lookup_update_self, hTallies.error,
      getD_counted]
    rfl
  · change r.buildDurations.count + 1 = _
    rw [hTallies.durations]
    omega

end Registry

------------------------------------------------------------
-- Shown Builds
------------------------------------------------------------

namespace Registry

open Metrics (Series)

/-
  What is shown of the builds that ended: how many gave a
  mesh and how many failed, how many durations there are,
  and the sizes of the last mesh.
-/
structure Shows
    (r : Registry)
    (meshes : List Mesh)
    (failures : Nat) : Prop where
  success : ∀ v,
    ⟨"eventmesh_builds_total", [("outcome", "success")], v⟩ ∈
        r.samples ↔
      0 < meshes.length ∧ v = .whole meshes.length
  error : ∀ v,
    ⟨"eventmesh_builds_total", [("outcome", "error")], v⟩ ∈
        r.samples ↔
      0 < failures ∧ v = .whole failures
  durations : ∀ v,
    ⟨"eventmesh_build_duration_seconds_count", [], v⟩ ∈
        r.samples ↔
      v = .whole ((meshes.length + failures : Nat) : Int)
  entities : ∀ labels v,
    ⟨"eventmesh_entities", labels, v⟩ ∈ r.samples ↔
      ∃ m, meshes.getLast? = some m ∧ (labels, v) ∈
        [([("kind", "broker")],
            .whole m.brokers.length),
         ([("kind", "subscribable")],
            .whole m.subscribables.length),
         ([("kind", "eventtype")],
            .whole m.eventTypes.length),
         ([("kind", "source")],
            .whole m.sources.length)]

variable {r : Registry}
variable {meshes : List Mesh} {failures : Nat}

/- An outcome is shown with its count, if it has one. -/
theorem mem_samples_of_outcome
    {outcome : String}
    {n : Nat}
    {v : Amount}
    (hTallies : r.Tallies meshes failures)
    (hCount : Series.lookup [outcome] r.builds = counted n) :
    ⟨"eventmesh_builds_total", [("outcome", outcome)], v⟩ ∈
        r.samples ↔
      0 < n ∧ v = .whole n := by
  rw [mem_samples_builds, mem_labelled_iff]
  constructor
  · rintro ⟨key, k, hMem, hLabels, rfl⟩
    have hKey : key = [outcome] := by
      have hIn : key ∈ Series.keys r.builds :=
        List.mem_map_of_mem (f := (·.1)) hMem
      rcases hTallies.outcomes key hIn with rfl | rfl
      · cases hLabels
        rfl
      · cases hLabels
        rfl
    rw [hKey, ← Series.lookup_eq_some_iff hTallies.nodup,
      hCount, counted_eq_some_iff] at hMem
    rw [hMem.2]
    exact ⟨hMem.1, rfl⟩
  · rintro ⟨hPos, rfl⟩
    refine ⟨[outcome], n, ?_, rfl, rfl⟩
    rw [← Series.lookup_eq_some_iff hTallies.nodup, hCount,
      counted_eq_some_iff]
    exact ⟨hPos, rfl⟩

/- What a registry keeps account of is what it shows. -/
theorem Tallies.shows
    (hTallies : r.Tallies meshes failures) :
    r.Shows meshes failures where
  success _ :=
    mem_samples_of_outcome hTallies hTallies.success
  error _ := mem_samples_of_outcome hTallies hTallies.error
  durations v := by
    rw [mem_samples_durations, hTallies.durations]
    simp
  entities labels v := by
    rw [mem_samples_entities, hTallies.entities]
    cases meshes.getLast? with
    | none => simp [labelled]
    | some m => simp [labelled, sizes]

end Registry

end EventTopology
