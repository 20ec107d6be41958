import EventTopology.Metrics.Amount
import EventTopology.Text.Order

/-
  This file defines samples, which are what a registry shows
  of its measurements, and series, which hold one
  measurement for each row of label values.

  Key definitions include:
    * `Metrics.Sample`
    * `Metrics.Sample.le`
    * `Metrics.Series`
    * `Metrics.Series.update`
    * `Metrics.Histogram`
-/

------------------------------------------------------------
-- Samples
------------------------------------------------------------

namespace EventTopology

namespace Metrics

/- One shown measurement; labels are in order of name. -/
structure Sample where
  name : String
  labels : List (String × String) := []
  value : Amount

namespace Sample

/- The order of pairs of texts, first parts first. -/
def pairLt (p q : String × String) : Bool :=
  Text.before p.1 q.1 ||
    (p.1 = q.1 && Text.before p.2 q.2)

/- The order of rows of labels, a shorter row first. -/
def labelsLe :
    List (String × String) →
    List (String × String) → Bool
| [], _ => true
| _ :: _, [] => false
| p :: ps, q :: qs =>
    pairLt p q || (p = q && labelsLe ps qs)

/- The order of samples: by name, then by labels. -/
def le (s t : Sample) : Bool :=
  Text.before s.name t.name ||
    (s.name = t.name && labelsLe s.labels t.labels)

end Sample

end Metrics

------------------------------------------------------------
-- Series
------------------------------------------------------------

namespace Metrics

/- Measurements by the values of their labels. -/
abbrev Series (α : Type) := List (List String × α)

namespace Series

variable {α : Type}

/- The measurement for some label values. -/
def lookup (key : List String) : Series α → Option α
| [] => none
| (k, v) :: s => if k = key then some v else lookup key s

/-
  Change the measurement for some label values, which starts
  as given.
-/
def update
    (key : List String)
    (start : α)
    (f : α → α) : Series α → Series α
| [] => [(key, f start)]
| (k, v) :: s =>
    if k = key then (k, f v) :: s
    else (k, v) :: update key start f s

/- What was changed is what is found. -/
theorem lookup_update_self
    (key : List String)
    (start : α)
    (f : α → α)
    (s : Series α) :
    lookup key (update key start f s) =
      some (f ((lookup key s).getD start)) := by
  induction s with
  | nil => simp [update, lookup]
  | cons e s ih =>
      rcases e with ⟨k, v⟩
      by_cases h : k = key
      · simp [update, lookup, h]
      · simp [update, lookup, h, ih]

/- Other measurements stay as they are. -/
theorem lookup_update_of_ne
    {key other : List String}
    (start : α)
    (f : α → α)
    (s : Series α)
    (hNe : other ≠ key) :
    lookup other (update key start f s) =
      lookup other s := by
  induction s with
  | nil => simp [update, lookup, hNe.symm]
  | cons e s ih =>
      rcases e with ⟨k, v⟩
      by_cases h : k = key
      · subst h
        simp [update, lookup, hNe.symm]
      · by_cases h' : k = other
        · subst h'
          simp [update, lookup, h]
        · simp [update, lookup, h, h', ih]

/- Add one to a count. -/
def count (key : List String) : Series Nat → Series Nat :=
  update key 0 (· + 1)

end Series

end Metrics

------------------------------------------------------------
-- Histograms
------------------------------------------------------------

namespace Metrics

/- The upper bounds of buckets, but for the last one. -/
def bounds : List Float :=
  [0.005, 0.01, 0.025, 0.05, 0.075, 0.1, 0.25, 0.5, 0.75,
    1.0, 2.5, 5.0, 7.5, 10.0]

/- What is kept of observed amounts. -/
structure Histogram where
  count : Nat := 0
  sum : Float := 0.0
  /- How many amounts lie within each bound. -/
  buckets : List Nat := bounds.map fun _ => 0

namespace Histogram

/- Observe one more amount. -/
def observe (h : Histogram) (a : Amount) : Histogram :=
  let x := a.toFloat
  { count := h.count + 1
    sum := h.sum + x
    buckets := (bounds.zip h.buckets).map fun (bound, n) =>
      if x ≤ bound then n + 1 else n }

/- The sample of one bucket.  Its label comes first. -/
def bucketSample
    (name : String)
    (labels : List (String × String))
    (bound : String)
    (n : Nat) : Sample where
  name := name ++ "_bucket"
  labels := ("le", bound) :: labels
  value := .whole n

/-
  The samples of a histogram whose labels have names after
  that of the buckets' own label.
-/
def samples
    (name : String)
    (labels : List (String × String))
    (h : Histogram) : List Sample :=
  (bounds.zip h.buckets).map
      (fun (bound, n) =>
        bucketSample name labels (Decimal.text bound) n) ++
    [bucketSample name labels "+Inf" h.count,
     ⟨name ++ "_count", labels, .whole h.count⟩,
     ⟨name ++ "_sum", labels, .real h.sum⟩]

end Histogram

end Metrics

end EventTopology
