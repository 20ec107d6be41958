import EventTopology.Proofs.Metrics.Samples
import Mathlib.Algebra.BigOperators.Group.Finset.Piecewise

/-
  This file says which samples a registry shows of the
  requests that were finished.

  Key definitions include:
    * `Metrics.Finished`
    * `Registry.SameRequests`
    * `Registry.Logs`
    * `Registry.ShowsRequests`

  The main results are:
    * `Metrics.Finished.countP_isOn_eq_sum`
    * `Registry.Logs.finish`
    * `Registry.Logs.shows`
-/

------------------------------------------------------------
-- Finished Requests
------------------------------------------------------------

namespace EventTopology

namespace Metrics

/- A finished request, as far as it is counted. -/
structure Finished where
  method : String
  path : String
  status : Nat
deriving DecidableEq, Repr

namespace Finished

/- The row that a finished request is counted in. -/
def key (f : Finished) : List String :=
  [f.method, f.path, toString f.status]

/- Different statuses are written differently. -/
theorem key_injective : Function.Injective key := by
  rintro ⟨method, path, m⟩ ⟨method', path', n⟩ hKey
  simp only [key, List.cons.injEq, and_true] at hKey
  rcases hKey with ⟨rfl, rfl, hText⟩
  have hDigits : Nat.toDigits 10 m = Nat.toDigits 10 n := by
    rw [← Nat.toList_repr, ← Nat.toList_repr]
    exact congrArg String.toList hText
  have hSame : m = n := by
    rw [← Nat.ofDigitChars_ten_toDigits (n := m), hDigits,
      Nat.ofDigitChars_ten_toDigits]
  rw [hSame]

/- Is it one with a method and a path? -/
def isOn (method path : String) (f : Finished) : Bool :=
  f.method = method && f.path = path

/- The statuses of finished requests. -/
def statuses (done : List Finished) : Finset Nat :=
  (done.map (·.status)).toFinset

/- One request has one of the statuses. -/
theorem sum_status
    (method path : String)
    {f : Finished}
    {all : Finset Nat}
    (hMem : f.status ∈ all) :
    (∑ status ∈ all,
        if f = ⟨method, path, status⟩ then 1 else 0) =
      if f.isOn method path then 1 else 0 := by
  rcases f with ⟨method', path', status'⟩
  cases hOn : isOn method path ⟨method', path', status'⟩ with
  | true =>
      simp only [isOn, Bool.and_eq_true,
        decide_eq_true_eq] at hOn
      rcases hOn with ⟨rfl, rfl⟩
      simp [hMem]
  | false =>
      have hOther (status : Nat) :
          (⟨method', path', status'⟩ : Finished) ≠
            ⟨method, path, status⟩ := by
        rintro ⟨⟩
        simp [isOn] at hOn
      simp [hOther]

/-
  As many requests have a method and a path as there are
  with one status or another.
-/
theorem countP_isOn_eq_sum
    (method path : String)
    (done : List Finished) :
    done.countP (isOn method path) =
      ∑ status ∈ statuses done,
        done.count ⟨method, path, status⟩ := by
  -- The statuses may be those of more requests.
  have hAux (all : Finset Nat)
      (hAll : ∀ f ∈ done, f.status ∈ all) :
      done.countP (isOn method path) =
        ∑ status ∈ all,
          done.count ⟨method, path, status⟩ := by
    induction done with
    | nil => simp
    | cons f done ih =>
        rw [List.forall_mem_cons] at hAll
        rw [List.countP_cons, ih hAll.2,
          ← sum_status method path hAll.1,
          ← Finset.sum_add_distrib]
        refine Finset.sum_congr rfl fun status _ => ?_
        simp only [List.count_cons, beq_iff_eq]
  refine hAux _ fun f hMem => ?_
  rw [statuses, List.mem_toFinset]
  exact List.mem_map_of_mem hMem

end Finished

end Metrics

------------------------------------------------------------
-- Logged Requests
------------------------------------------------------------

namespace Registry

open Metrics (Series Finished)

/- What two registries hold of requests is the same. -/
structure SameRequests (r r' : Registry) : Prop where
  service : r'.service = r.service
  requests : r'.requests = r.requests
  durations : r'.durations = r.durations
  active : r'.active = r.active

theorem SameRequests.refl (r : Registry) : r.SameRequests r :=
  ⟨rfl, rfl, rfl, rfl⟩

/-
  A registry keeps account of the requests that were
  finished, while no other is being answered.
-/
structure Logs
    (r : Registry)
    (done : List Finished) : Prop where
  active : r.active = 0
  nodupRequests : (Series.keys r.requests).Nodup
  nodupDurations : (Series.keys r.durations).Nodup
  requestRows : ∀ key ∈ Series.keys r.requests,
    ∃ f : Finished, key = f.key
  durationRows : ∀ key ∈ Series.keys r.durations,
    ∃ method path, key = [method, path]
  requests : ∀ f : Finished,
    Series.lookup f.key r.requests = counted (done.count f)
  durations : ∀ method path,
    (Series.lookup [method, path] r.durations).map (·.count) =
      counted (done.countP (Finished.isOn method path))

/- A registry that knows of no request keeps account. -/
theorem logs_start
    {r : Registry}
    (hActive : r.active = 0)
    (hRequests : r.requests = [])
    (hDurations : r.durations = []) :
    r.Logs [] where
  active := hActive
  nodupRequests := by simp [hRequests, Series.keys]
  nodupDurations := by simp [hDurations, Series.keys]
  requestRows := by simp [hRequests, Series.keys]
  durationRows := by simp [hDurations, Series.keys]
  requests _ := by
    rw [hRequests]
    rfl
  durations _ _ := by
    rw [hDurations]
    rfl

variable {r r' : Registry} {done : List Finished}

theorem Logs.of_sameRequests
    (hLogs : r.Logs done)
    (hSame : r.SameRequests r') :
    r'.Logs done := by
  rcases hSame with ⟨-, hRequests, hDurations, hActive⟩
  constructor
  · rw [hActive]
    exact hLogs.active
  · rw [hRequests]
    exact hLogs.nodupRequests
  · rw [hDurations]
    exact hLogs.nodupDurations
  · rw [hRequests]
    exact hLogs.requestRows
  · rw [hDurations]
    exact hLogs.durationRows
  · rw [hRequests]
    exact hLogs.requests
  · rw [hDurations]
    exact hLogs.durations

/- One more is counted where it belongs. -/
theorem lookup_requests_succ
    (hLogs : r.Logs done)
    (f g : Finished) :
    Series.lookup g.key (r.requests.count f.key) =
      counted ((done ++ [f]).count g) := by
  rw [List.count_append, List.count_singleton]
  unfold Series.count
  by_cases hSame : f = g
  · subst hSame
    rw [Series.lookup_update_self, hLogs.requests,
      getD_counted, beq_self_eq_true, if_pos rfl]
    rfl
  · have hKey : g.key ≠ f.key := fun hKeys =>
      hSame (Finished.key_injective hKeys.symm)
    rw [Series.lookup_update_of_ne _ _ _ hKey,
      hLogs.requests, if_neg (by simpa using hSame)]
    rfl

theorem lookup_durations_succ
    (hLogs : r.Logs done)
    (f : Finished)
    (duration : Amount)
    (method path : String) :
    (Series.lookup [method, path]
        (r.durations.update [f.method, f.path] {}
          (·.observe duration))).map (·.count) =
      counted ((done ++ [f]).countP
        (Finished.isOn method path)) := by
  have hOld := hLogs.durations method path
  rw [List.countP_append, List.countP_singleton]
  cases hOn : f.isOn method path with
  | true =>
      simp only [Finished.isOn, Bool.and_eq_true,
        decide_eq_true_eq] at hOn
      rcases hOn with ⟨rfl, rfl⟩
      have hCount :
          ((Series.lookup [f.method, f.path]
            r.durations).getD {}).count =
            done.countP (Finished.isOn f.method f.path) := by
        rw [← getD_counted (done.countP _), ← hOld]
        cases Series.lookup _ r.durations <;> rfl
      rw [Series.lookup_update_self, ← hCount]
      rfl
  | false =>
      have hKey : [method, path] ≠ [f.method, f.path] := by
        rintro ⟨⟩
        simp [Finished.isOn] at hOn
      rw [Series.lookup_update_of_ne _ _ _ hKey, hOld]
      rfl

/- A request that is begun and ended is finished. -/
theorem Logs.finish
    (hLogs : r.Logs done)
    (hSame : r.beginRequest.SameRequests r')
    (f : Finished)
    (duration : Amount) :
    (r'.endRequest f.method f.path f.status duration).Logs
      (done ++ [f]) := by
  rcases hSame with ⟨-, hRequests, hDurations, hActive⟩
  change r'.requests = r.requests at hRequests
  change r'.durations = r.durations at hDurations
  change r'.active = r.active + 1 at hActive
  unfold endRequest
  rw [hRequests, hDurations, hActive, hLogs.active]
  exact
    { active := rfl
      nodupRequests :=
        Series.nodup_keys_update _ _ _ hLogs.nodupRequests
      nodupDurations :=
        Series.nodup_keys_update _ _ _ hLogs.nodupDurations
      requestRows := Series.forall_keys_update _ _
        hLogs.requestRows ⟨f, rfl⟩
      durationRows := Series.forall_keys_update _ _
        hLogs.durationRows ⟨f.method, f.path, rfl⟩
      requests := lookup_requests_succ hLogs f
      durations := lookup_durations_succ hLogs f duration }

end Registry

------------------------------------------------------------
-- Shown Requests
------------------------------------------------------------

namespace Registry

open Metrics (Series Finished)

variable (r : Registry)
variable {labels : List (String × String)} {v : Amount}

theorem mem_samples_requests :
    ⟨"http_requests_total", labels, v⟩ ∈ r.samples ↔
      ∃ key n, (key, n) ∈ r.requests ∧
        labels = r.requestLabels key ∧ v = ofCount n := by
  simp [samples, requestSamples, serviceSamples,
    buildSamples, labelled, Metrics.Histogram.samples,
    Metrics.Histogram.bucketSample, eq_comm (b := labels),
    eq_comm (b := v)]

theorem mem_samples_requestDurations :
    ⟨"http_request_duration_seconds_count", labels, v⟩ ∈
        r.samples ↔
      ∃ key h, (key, h) ∈ r.durations ∧
        labels = r.requestLabels key ∧
        v = ofCount h.count := by
  simp [samples, requestSamples, serviceSamples,
    buildSamples, labelled, Metrics.Histogram.samples,
    Metrics.Histogram.bucketSample, ofCount]

theorem mem_samples_active :
    ⟨"http_requests_active", labels, v⟩ ∈ r.samples ↔
      labels = [("service", r.service)] ∧
        v = .whole r.active := by
  simp [samples, requestSamples, serviceSamples,
    buildSamples, labelled, Metrics.Histogram.samples,
    Metrics.Histogram.bucketSample]

/- The labels of a row tell which row it is. -/
theorem key_eq_of_requestLabels
    {f g : Finished}
    (hLabels :
      r.requestLabels f.key = r.requestLabels g.key) :
    g.key = f.key := by
  simp only [requestLabels, Finished.key, List.cons.injEq,
    Prod.mk.injEq, true_and, and_true] at hLabels ⊢
  exact ⟨hLabels.1.symm, hLabels.2.1.symm,
    hLabels.2.2.symm⟩

/-
  What is shown of finished requests: that none is being
  answered, how many there were with each method, path and
  status, and of those with a method and a path as many
  durations as there are with all statuses together.
-/
structure ShowsRequests
    (r : Registry)
    (done : List Finished) : Prop where
  active : ∀ labels v,
    ⟨"http_requests_active", labels, v⟩ ∈ r.samples ↔
      labels = [("service", r.service)] ∧ v = .whole 0
  total : ∀ (f : Finished) v,
    ⟨"http_requests_total",
        [("method", f.method), ("path", f.path),
         ("service", r.service),
         ("status", toString f.status)], v⟩ ∈ r.samples ↔
      0 < done.count f ∧ v = ofCount (done.count f)
  durations : ∀ method path v,
    let n := ∑ status ∈ Finished.statuses done,
      done.count ⟨method, path, status⟩
    ⟨"http_request_duration_seconds_count",
        [("method", method), ("path", path),
         ("service", r.service)], v⟩ ∈ r.samples ↔
      0 < n ∧ v = ofCount n

variable {r}
variable {done : List Finished}

/- What a registry keeps account of is what it shows. -/
theorem Logs.shows (hLogs : r.Logs done) :
    r.ShowsRequests done where
  active labels v := by
    rw [mem_samples_active, hLogs.active]
  total f v := by
    rw [mem_samples_requests]
    have hCount : Series.lookup f.key r.requests =
        counted (done.count f) := hLogs.requests f
    constructor
    · rintro ⟨key, n, hMem, hLabels, rfl⟩
      rcases hLogs.requestRows key
        (List.mem_map_of_mem (f := (·.1)) hMem) with
          ⟨g, rfl⟩
      rw [r.key_eq_of_requestLabels hLabels,
        ← Series.lookup_eq_some_iff hLogs.nodupRequests,
        hCount, counted_eq_some_iff] at hMem
      rw [hMem.2]
      exact ⟨hMem.1, rfl⟩
    · rintro ⟨hPos, rfl⟩
      refine ⟨f.key, done.count f, ?_, rfl, rfl⟩
      rw [← Series.lookup_eq_some_iff hLogs.nodupRequests,
        hCount, counted_eq_some_iff]
      exact ⟨hPos, rfl⟩
  durations method path v := by
    intro n
    have hSum : done.countP (Finished.isOn method path) = n :=
      Finished.countP_isOn_eq_sum method path done
    have hCount (k : Nat) :
        (∃ h : Metrics.Histogram,
          ([method, path], h) ∈ r.durations ∧ h.count = k) ↔
        0 < n ∧ k = n := by
      rw [← counted_eq_some_iff, ← hSum,
        ← hLogs.durations method path,
        Option.map_eq_some_iff]
      simp only [Series.lookup_eq_some_iff
        hLogs.nodupDurations]
    rw [mem_samples_requestDurations]
    constructor
    · rintro ⟨key, h, hMem, hLabels, rfl⟩
      rcases hLogs.durationRows key
        (List.mem_map_of_mem (f := (·.1)) hMem) with
          ⟨method', path', rfl⟩
      cases hLabels
      rcases (hCount h.count).mp ⟨h, hMem, rfl⟩ with
        ⟨hPos, hSame⟩
      rw [hSame]
      exact ⟨hPos, rfl⟩
    · rintro ⟨hPos, rfl⟩
      rcases (hCount n).mpr ⟨hPos, rfl⟩ with
        ⟨h, hMem, hSame⟩
      exact ⟨[method, path], h, hMem, rfl, by rw [hSame]⟩

end Registry

end EventTopology
