/-
  This file defines tables: finite maps from texts that keep
  the order in which their keys first occurred, and indices,
  which are tables of lists that grow at the end.

  Key definitions include:
    * `Table`
    * `Table.insert`
    * `Table.ofList`
    * `Table.lookup`
    * `Table.keys`
    * `Table.push`
    * `Table.pushed`

  Lookups are described exactly by:
    * `Table.lookup_insert_self`
    * `Table.lookup_insert_of_ne`
    * `Table.pushed_push_self`
    * `Table.pushed_push_of_ne`
-/

------------------------------------------------------------
-- Tables
------------------------------------------------------------

namespace EventTopology

/- A finite map from texts, in order of insertion. -/
abbrev Table (α : Type) := List (String × α)

namespace Table

variable {α : Type}

/-
  Give a key a value.  A key that is there already keeps its
  place.
-/
def insert
    (key : String)
    (v : α) : Table α → Table α
| [] => [(key, v)]
| (k, w) :: t =>
    if k = key then (key, v) :: t
    else (k, w) :: insert key v t

/- The entries in order; the last value of a key counts. -/
def ofList (entries : List (String × α)) : Table α :=
  entries.foldl (fun t e => insert e.1 e.2 t) []

/- The value of a key, if there is one. -/
def lookup (key : String) : Table α → Option α
| [] => none
| (k, v) :: t =>
    if k = key then some v else lookup key t

/- Is there a value for a key? -/
def has (key : String) (t : Table α) : Bool :=
  (lookup key t).isSome

/- The keys in order. -/
def keys (t : Table α) : List String :=
  t.map (·.1)

/- The values in order. -/
def values (t : Table α) : List α :=
  t.map (·.2)

/- A freshly set key has its value. -/
theorem lookup_insert_self
    (key : String)
    (v : α)
    (t : Table α) :
    lookup key (insert key v t) = some v := by
  induction t with
  | nil => simp [insert, lookup]
  | cons e t ih =>
      rcases e with ⟨k, w⟩
      by_cases h : k = key
      · simp [insert, lookup, h]
      · simp [insert, lookup, h, ih]

/- Setting one key leaves the others alone. -/
theorem lookup_insert_of_ne
    {key other : String}
    (v : α)
    (t : Table α)
    (hNe : other ≠ key) :
    lookup other (insert key v t) = lookup other t := by
  induction t with
  | nil => simp [insert, lookup, hNe.symm]
  | cons e t ih =>
      rcases e with ⟨k, w⟩
      by_cases h : k = key
      · subst h
        simp [insert, lookup, hNe.symm]
      · by_cases h' : k = other
        · subst h'
          simp [insert, lookup, h]
        · simp [insert, lookup, h, h', ih]

end Table

------------------------------------------------------------
-- Indices
------------------------------------------------------------

namespace Table

variable {α : Type}

/- The values filed under a key. -/
def pushed (key : String) (t : Table (List α)) : List α :=
  (lookup key t).getD []

/- File one more value under a key. -/
def push
    (key : String)
    (v : α)
    (t : Table (List α)) : Table (List α) :=
  insert key (pushed key t ++ [v]) t

/- A value filed under a key comes last there. -/
theorem pushed_push_self
    (key : String)
    (v : α)
    (t : Table (List α)) :
    pushed key (push key v t) = pushed key t ++ [v] := by
  simp [push, pushed, lookup_insert_self]

/- Filing under one key leaves the others alone. -/
theorem pushed_push_of_ne
    {key other : String}
    (v : α)
    (t : Table (List α))
    (hNe : other ≠ key) :
    pushed other (push key v t) = pushed other t := by
  simp [push, pushed, lookup_insert_of_ne _ _ hNe]

end Table

end EventTopology
