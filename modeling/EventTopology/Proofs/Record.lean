import EventTopology.Cluster.Coordinates
import Mathlib.Data.List.Forall2

/-
  This file takes checked records apart: where a record is
  valid, its fields are what was read from the draft.

  Key definitions include:
    * `Record.Checked.Meets`

  The main results are:
    * `Record.Checked.meets_seq`
    * `Record.Checked.meets_each`
    * `Record.read_of_required`
    * `EventType.meets_check`
    * `Subscription.meets_check`
-/

------------------------------------------------------------
-- Valid Results
------------------------------------------------------------

namespace EventTopology

namespace Record

namespace Checked

variable {α β : Type}

/- What is valid, if anything is, meets a condition. -/
def Meets (v : Checked α) (P : α → Prop) : Prop :=
  ∀ a, v = .valid a → P a

/- The last field of a record is read after the others. -/
theorem meets_seq
    {f : Checked (α → β)}
    {a : Checked α}
    {P : β → Prop}
    (hFirst : f.Meets fun g => ∀ x, a = .valid x → P (g x)) :
    (f <*> a).Meets P := by
  intro z hValid
  change apply f a = .valid z at hValid
  cases f with
  | faulty es => cases a <;> cases hValid
  | valid g =>
      cases a with
      | faulty es => cases hValid
      | valid x =>
          cases hValid
          exact hFirst g rfl x rfl

/- The first field of a record is read before all others. -/
theorem meets_map
    {f : α → β}
    {a : Checked α}
    {P : β → Prop}
    (hFirst : ∀ x, a = .valid x → P (f x)) :
    (f <$> a).Meets P :=
  meets_seq (f := .valid f) fun g hG x hX => by
    cases hG
    exact hFirst x hX

/- Elements that are valid together are so one by one. -/
theorem meets_each
    (f : α → Checked β)
    (as : List α) :
    (each f as).Meets fun bs =>
      List.Forall₂ (fun a b => f a = .valid b) as bs := by
  induction as with
  | nil =>
      intro bs hValid
      cases hValid
      exact List.Forall₂.nil
  | cons a as ih =>
      apply meets_seq
      apply meets_map
      intro b hFirst bs hRest
      exact List.Forall₂.cons hFirst (ih bs hRest)

end Checked

theorem readText_eq_valid_iff
    {path : List Step}
    {found : Input}
    {s : String} :
    readText path found = .valid s ↔
      found = .value (.str s) := by
  unfold readText
  split
  · simp
  · rename_i hNot
    constructor
    · intro hValid
      cases hValid
    · rintro rfl
      exact (hNot s rfl).elim

/- A field that is found is read from what is found. -/
theorem read_of_required
    {α : Type}
    {path : List Step}
    {d : Draft}
    {f : Field}
    {read : Reading α}
    {name : String}
    {found : Input}
    {a : α}
    (hValid : required path d f read = .valid a)
    (hFind : d.find f = some (name, found)) :
    read (path ++ [.name name]) found = .valid a := by
  unfold required at hValid
  rw [hFind] at hValid
  exact hValid

theorem read_of_withDefault
    {α : Type}
    {path : List Step}
    {d : Draft}
    {f : Field}
    {read : Reading α}
    {default : α}
    {name : String}
    {found : Input}
    {a : α}
    (hValid : withDefault path d f read default = .valid a)
    (hFind : d.find f = some (name, found)) :
    read (path ++ [.name name]) found = .valid a := by
  unfold withDefault at hValid
  rw [hFind] at hValid
  exact hValid

/- What is not nothing has been read as told. -/
theorem read_of_orNull
    {α : Type}
    {read : Reading α}
    {path : List Step}
    {found : Input}
    {a : α}
    (hValid : orNull read path found = .valid (some a)) :
    read path found = .valid a := by
  unfold orNull at hValid
  split at hValid
  · cases hValid
  · exact Checked.meets_map
      (P := fun x => x = some a → read path found = .valid a)
      (fun x hRead hSome => by
        cases hSome
        exact hRead)
      _ hValid rfl

end Record

------------------------------------------------------------
-- Records of a Mesh
------------------------------------------------------------

open Record

/- Texts are required in the field of a namespace. -/
abbrev Mesh.readNs
    (path : List Step)
    (d : Draft) : Checked String :=
  required path d Mesh.Field.ns readText

/- Annotations may be left out. -/
abbrev Mesh.readAnnotations
    (path : List Step)
    (d : Draft) : Checked (Option Labels) :=
  withDefault path d Mesh.Field.annotations readLabels none

section

variable (path : List Step) (d : Draft)

theorem Reference.meets_check :
    (Reference.check path d).Meets fun r =>
      Mesh.readNs path d = .valid r.ns := by
  unfold check
  iterate 3 apply Checked.meets_seq
  apply Checked.meets_map
  intro _ _ _ _ _ hNs _ _
  exact hNs

theorem Broker.meets_check :
    (Broker.check path d).Meets fun b =>
      Mesh.readNs path d = .valid b.ns ∧
      Mesh.readAnnotations path d =
        .valid b.annotations := by
  unfold check
  iterate 5 apply Checked.meets_seq
  apply Checked.meets_map
  intro _ _ _ hNs _ _ _ _ _ hAnnotations _ _
  exact ⟨hNs, hAnnotations⟩

theorem Subscribable.meets_check :
    (Subscribable.check path d).Meets fun s =>
      Mesh.readNs path d = .valid s.ns ∧
      Mesh.readAnnotations path d =
        .valid s.annotations := by
  unfold check
  iterate 7 apply Checked.meets_seq
  apply Checked.meets_map
  intro _ _ _ hNs _ _ _ _ _ _ _ _ _ hAnnotations _ _
  exact ⟨hNs, hAnnotations⟩

theorem Source.meets_check :
    (Source.check path d).Meets fun s =>
      Mesh.readNs path d = .valid s.ns ∧
      Mesh.readAnnotations path d =
        .valid s.annotations := by
  unfold check
  iterate 9 apply Checked.meets_seq
  apply Checked.meets_map
  intro _ _ _ hNs _ _ _ _ _ _ _ _ _ hAnnotations _ _ _ _ _
    _
  exact ⟨hNs, hAnnotations⟩

theorem EventType.meets_check :
    (EventType.check path d).Meets fun e =>
      Mesh.readNs path d = .valid e.ns ∧
      withDefault path d Mesh.Field.reference
        (orNull
          (readRecord Reference.recordName Reference.check))
        none = .valid e.reference ∧
      Mesh.readAnnotations path d =
        .valid e.annotations := by
  unfold check
  iterate 10 apply Checked.meets_seq
  apply Checked.meets_map
  intro _ _ _ hNs _ _ _ _ _ _ _ _ _ _ _ _ _ hAnnotations
    _ hReference _ _
  exact ⟨hNs, hReference, hAnnotations⟩

theorem Subscription.meets_check :
    (Subscription.check path d).Meets fun s =>
      Mesh.readNs path d = .valid s.ns ∧
      withDefault path d (.plain "target")
        (orNull readText) none = .valid s.target := by
  unfold check
  iterate 5 apply Checked.meets_seq
  apply Checked.meets_map
  intro _ _ _ hNs _ _ _ hTarget _ _ _ _
  exact ⟨hNs, hTarget⟩

end

end EventTopology
