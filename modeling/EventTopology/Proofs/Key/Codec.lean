import EventTopology.Failure
import EventTopology.Proofs.Key
import EventTopology.Proofs.Text

/-
  This file shows that keys and their parts stand for each
  other.  Parts without slashes are read back from the key
  that is made of them, be they empty or not.  A text with
  as many slashes as a form of keys has is the key of the
  parts that are read of it, and all other texts are
  refused.

  Key definitions include:
    * `Key.Form`
    * `Key.Form.byName`
    * `Key.Form.byKind`
    * `Key.Form.Invertible`

  The main results are:
    * `Key.Form.read_eq_ok_iff`
    * `Key.Form.invertible_of_splits`
    * `Key.forms_invertible`
-/

------------------------------------------------------------
-- Forms of Keys
------------------------------------------------------------

namespace EventTopology

namespace Key

/-
  A form of keys: how keys are rendered from values, and how
  values are read of keys.
-/
structure Form (α : Type) where
  /- The number of slashes in a key of plain parts. -/
  slashes : Nat
  /- The texts that stand between the slashes. -/
  parts : α → List String
  render : α → String
  read : String → Except Fault α
  /- The fault of a text that is no key of the form. -/
  refusal : String → Fault

namespace Form

/- Keys of a namespace and a name. -/
def byName : Form (String × String) where
  slashes := 1
  parts p := [p.1, p.2]
  render p := namespaced p.1 p.2
  read := parseNamespaced
  refusal := .notNamespaced

/- Keys of a group, a kind, a namespace and a name. -/
def byKind : Form (String × String × String × String) where
  slashes := 3
  parts p := [p.1, p.2.1, p.2.2.1, p.2.2.2]
  render p := qualified p.1 p.2.1 p.2.2.1 p.2.2.2
  read := parseQualified
  refusal := .notQualified

variable {α : Type}

/- Rendering and reading undo each other. -/
structure Invertible (f : Form α) : Prop where
  /- Plain parts are read back from their key. -/
  read_render : ∀ a, (∀ part ∈ f.parts a, Plain part) →
    f.read (f.render a) = .ok a
  /- The slashes alone decide whether a text is a key. -/
  reads_iff : ∀ key,
    (∃ a, f.read key = .ok a) ↔
      key.toList.count '/' = f.slashes
  /- What is read of a key is rendered as that key. -/
  render_read : ∀ key a, f.read key = .ok a →
    f.render a = key ∧ ∀ part ∈ f.parts a, Plain part
  refuses : ∀ key, key.toList.count '/' ≠ f.slashes →
    f.read key = .error (f.refusal key) ∧
      (Failure.key (f.refusal key)).typeName = "ValueError"

end Form

end Key

------------------------------------------------------------
-- Keys That Are Split
------------------------------------------------------------

namespace Key

namespace Form

variable {α : Type}

/-
  A form whose keys are taken apart at their slashes.  It
  reads each row of as many parts as it should have.
-/
structure Splits (f : Form α) : Prop where
  render_eq : ∀ a,
    f.render a = "/".intercalate (f.parts a)
  length_parts : ∀ a, (f.parts a).length = f.slashes + 1
  exists_parts : ∀ parts, parts.length = f.slashes + 1 →
    ∃ a, f.parts a = parts
  read_parts : ∀ key a,
    Text.splitOn '/' key = f.parts a → f.read key = .ok a
  read_others : ∀ key,
    (Text.splitOn '/' key).length ≠ f.slashes + 1 →
      f.read key = .error (f.refusal key)

theorem splits_byName : byName.Splits where
  render_eq a := rfl
  length_parts a := rfl
  exists_parts parts hLength := by
    rcases List.length_eq_two.mp hLength with
      ⟨ns, name, hParts⟩
    exact ⟨(ns, name), hParts.symm⟩
  read_parts key a hSplit := by
    unfold byName parseNamespaced
    dsimp only
    rw [hSplit]
    rfl
  read_others key hLength := by
    unfold byName parseNamespaced
    dsimp only
    split
    · rename_i hSplit
      rw [hSplit] at hLength
      exact (hLength rfl).elim
    · rfl

theorem splits_byKind : byKind.Splits where
  render_eq a := rfl
  length_parts a := rfl
  exists_parts parts hLength := by
    match parts, hLength with
    | [group, kind, ns, name], _ =>
        exact ⟨(group, kind, ns, name), rfl⟩
  read_parts key a hSplit := by
    unfold byKind parseQualified
    dsimp only
    rw [hSplit]
    rfl
  read_others key hLength := by
    unfold byKind parseQualified
    dsimp only
    split
    · rename_i hSplit
      rw [hSplit] at hLength
      exact (hLength rfl).elim
    · rfl

variable {f : Form α}

/- What is read of a text are the parts that it splits into. -/
theorem read_eq_ok_iff
    (hSplits : f.Splits)
    {key : String}
    {a : α} :
    f.read key = .ok a ↔
      Text.splitOn '/' key = f.parts a := by
  constructor
  · intro hRead
    by_cases hLength :
        (Text.splitOn '/' key).length = f.slashes + 1
    · rcases hSplits.exists_parts _ hLength with
        ⟨b, hParts⟩
      have hReadB := hSplits.read_parts key b hParts.symm
      rw [hReadB] at hRead
      rw [← hParts, Except.ok.inj hRead]
    · rw [hSplits.read_others key hLength] at hRead
      cases hRead
  · exact hSplits.read_parts key a

/- A key is read as plain parts that it is rendered from. -/
theorem read_eq_ok_iff_render
    (hSplits : f.Splits)
    {key : String}
    {a : α} :
    f.read key = .ok a ↔
      key = f.render a ∧ ∀ part ∈ f.parts a, Plain part := by
  have hNe : f.parts a ≠ [] := by
    intro hNil
    have hLength := hSplits.length_parts a
    rw [hNil] at hLength
    cases hLength
  rw [read_eq_ok_iff hSplits, Text.splitOn_eq_iff hNe,
    hSplits.render_eq]
  rfl

/-
  A form whose keys are split is invertible: the number of
  parts of a text is that of its slashes and one more.
-/
theorem invertible_of_splits
    (hSplits : f.Splits) :
    f.Invertible where
  read_render a hPlain :=
    (read_eq_ok_iff_render hSplits).mpr ⟨rfl, hPlain⟩
  reads_iff key := by
    have hCount := Text.length_splitOn '/' key
    constructor
    · intro hReads
      rcases hReads with ⟨a, hRead⟩
      rw [read_eq_ok_iff hSplits] at hRead
      rw [hRead, hSplits.length_parts a] at hCount
      omega
    · intro hSlashes
      rw [hSlashes] at hCount
      rcases hSplits.exists_parts _ hCount with ⟨a, hParts⟩
      exact ⟨a, hSplits.read_parts key a hParts.symm⟩
  render_read key a hRead := by
    rcases (read_eq_ok_iff_render hSplits).mp hRead with
      ⟨hKey, hPlain⟩
    exact ⟨hKey.symm, hPlain⟩
  refuses key hSlashes := by
    have hCount := Text.length_splitOn '/' key
    refine ⟨hSplits.read_others key ?_, rfl⟩
    omega

end Form

end Key

------------------------------------------------------------
-- Both Forms
------------------------------------------------------------

namespace Key

/-
  Both forms of keys can be inverted on plain parts, of which
  any may be empty.  What follows a plain namespace may be
  any text: keys that are the same have the same namespace
  and the same rest.
-/
theorem forms_invertible :
    Form.byName.Invertible ∧ Form.byKind.Invertible ∧
    ∀ ns ns' name name', Plain ns → Plain ns' →
      namespaced ns name = namespaced ns' name' →
        ns = ns' ∧ name = name' := by
  refine ⟨Form.invertible_of_splits Form.splits_byName,
    Form.invertible_of_splits Form.splits_byKind, ?_⟩
  intro ns ns' name name' hNs hNs' hSame
  exact namespaced_inj hNs hNs' hSame

/-
  A service is read of its key, which starts with the empty
  group of core resources.  A name with a slash is no part
  of a key that can be read, but the namespace before it is
  still told apart.
-/
theorem service_forms :
    let order := namespaced "shop" "till/order"
    (∀ part ∈ ["", "Service", "shop", "billing"],
      Plain part) ∧
    parseQualified "/Service/shop/billing" =
      .ok ("", "Service", "shop", "billing") ∧
    Plain "shop" ∧
    (∀ ns name, Plain ns → namespaced ns name = order →
      ns = "shop" ∧ name = "till/order") ∧
    parseNamespaced order =
      .error (.notNamespaced "shop/till/order") := by
  intro order
  rcases forms_invertible with ⟨hByName, hByKind, hInj⟩
  have hPlain : ∀ part ∈ ["", "Service", "shop", "billing"],
      Plain part := by
    decide
  have hShop : Plain "shop" := by decide
  have hOrder : order = "shop/till/order" := by decide
  refine ⟨hPlain, ?_, hShop, ?_, ?_⟩
  · exact hByKind.read_render
      ("", "Service", "shop", "billing") hPlain
  · intro ns name hNs hSame
    exact hInj ns "shop" name "till/order" hNs hShop hSame
  · rw [hOrder]
    exact (hByName.refuses "shop/till/order" (by decide)).1

end Key

end EventTopology
