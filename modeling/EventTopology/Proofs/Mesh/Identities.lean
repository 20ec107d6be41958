import EventTopology.Proofs.Mesh.Errors

/-
  This file shows what becomes of identity labels that are
  not texts.  Identities are shown as they are found, so a
  consumer may be a number or a truth value; what cannot be
  a key ends the build.

  The main results are:
    * `Plan.identities_of_run`
-/

------------------------------------------------------------
-- Free Identities
------------------------------------------------------------

namespace EventTopology

namespace Plan

variable {p : Plan} {s : Store}

/-
  Over a store that serves the plan and is well typed but
  for identity labels, a build ends with a misfit label or
  gives a mesh whose consumers are true keys, found under
  the label of some instance.
-/
theorem identities_of_run
    (hTyped : s.WellTyped [p.identityLabel])
    (hServes : s.Serves p) :
    (∀ f run, p.run Store.cluster s = (.error f, run) →
      s.Misfit p f) ∧
    ∀ m run, p.run Store.cluster s = (.ok m, run) →
      ∀ e ∈ m.eventTypes, ∀ v ∈ e.consumedBy,
        s.IsIdentity p v := by
  have hEnd := ends_run hTyped (p := p)
  constructor
  · intro f run hRun
    rw [hRun] at hEnd
    rcases hEnd with ⟨_, hNot⟩ | hMisfit
    · exact (hNot hServes).elim
    · exact hMisfit
  · intro m run hRun
    rw [hRun] at hEnd
    exact hEnd.2

end Plan

------------------------------------------------------------
-- Shops with Other Identities
------------------------------------------------------------

namespace Shop

/- The identity of billing may be anything. -/
theorem wellTyped_store (identity : Json) :
    (store identity).WellTyped
      [({} : Plan).identityLabel] := by
  have hTyped : (store .null).WellTyped
      [({} : Plan).identityLabel] := by
    intro b
    cases b <;> decide +kernel
  intro b
  have hBucket := hTyped b
  cases b with
  | objects =>
      intro raw hMem
      rcases List.mem_pair.mp hMem with rfl | rfl
      · exact hBucket _ List.mem_cons_self
      · cases identity <;> rfl
  | _ => exact hBucket

/- Whatever the identity of billing, the shop serves. -/
theorem serves_store (identity : Json) :
    (store identity).Serves {} := by
  have hTyped : (store .null).WellTyped [] := by
    intro b
    cases b <;> decide +kernel
  have hSome :
      (Plan.run {} Store.cluster
        (store .null)).1.toOption.isSome = true := by
    decide +kernel
  have hEnd := Plan.ends_run hTyped (p := {})
  rcases hRun :
      Plan.run {} Store.cluster (store .null)
    with ⟨f | m, run⟩
  · rw [hRun] at hSome
    cases hSome
  · rw [hRun] at hEnd
    rcases hEnd.1 with ⟨hListed, hDefined, hKinds, hSources⟩
    exact ⟨hListed, hDefined, hKinds, hSources⟩

/- The sorts of the consumers that are shown. -/
def sorts (m : Mesh) : List (List Json.Kind) :=
  m.eventTypes.map (·.consumedBy.map (·.kind))

/- A number under billing is a consumer of orders. -/
theorem exists_numbered_run :
    ∃ m run,
      Plan.run {} Store.cluster (store (.int 7)) =
        (.ok m, run) ∧
      sorts m = [[.int]] := by
  apply Plan.exists_run_of_view
  decide +kernel

end Shop

namespace Plan

/- A number is a consumer, found on billing. -/
theorem shop_identities :
    let s := Shop.store (.int 7)
    s.WellTyped [({} : Plan).identityLabel] ∧
    s.Serves {} ∧
    ∃ m run,
      Plan.run {} Store.cluster s = (.ok m, run) ∧
      Shop.sorts m = [[.int]] ∧
      ∀ e ∈ m.eventTypes, ∀ v ∈ e.consumedBy,
        s.IsIdentity {} v := by
  intro s
  have hTyped := Shop.wellTyped_store (.int 7)
  have hServes := Shop.serves_store (.int 7)
  rcases Shop.exists_numbered_run with
    ⟨m, run, hRun, hShown⟩
  exact ⟨hTyped, hServes, m, run, hRun, hShown,
    (identities_of_run hTyped hServes).2 m run hRun⟩

/-
  Labels of subscribers do break the mesh: an array ends the
  build, and a number is a consumer that is no text.
-/
theorem shop_broken :
    (¬ ∀ s : Store,
      s.WellTyped [({} : Plan).identityLabel] →
      s.Serves {} →
      ∃ m run, Plan.run {} Store.cluster s = (.ok m, run)) ∧
    ¬ ∀ (s : Store) (m : Mesh) (run : Run Store),
      s.WellTyped [({} : Plan).identityLabel] →
      s.Serves {} →
      Plan.run {} Store.cluster s = (.ok m, run) →
      ∀ e ∈ m.eventTypes, ∀ v ∈ e.consumedBy,
        ∃ i, v = .str i ∧ i ≠ "" := by
  constructor
  · intro hGives
    have hNone :
        (Plan.run {} Store.cluster (Shop.store
          (.arr [.str "billing"]))).1.toOption.isNone =
          true := by
      decide +kernel
    rcases hGives _ (Shop.wellTyped_store _)
        (Shop.serves_store _) with ⟨m, run, hRun⟩
    rw [hRun] at hNone
    cases hNone
  · intro hTexts
    rcases Shop.exists_numbered_run with
      ⟨m, run, hRun, hShown⟩
    have hAll := hTexts _ m run (Shop.wellTyped_store _)
      (Shop.serves_store _) hRun
    have hOrder : [Json.Kind.int] ∈ Shop.sorts m := by
      rw [hShown]
      exact List.mem_singleton_self _
    rcases List.mem_map.mp hOrder with ⟨e, hMem, hSorts⟩
    have hNumber : Json.Kind.int ∈
        e.consumedBy.map (·.kind) := by
      rw [hSorts]
      exact List.mem_singleton_self _
    rcases List.mem_map.mp hNumber with ⟨v, hConsumer, hSort⟩
    rcases hAll e hMem v hConsumer with ⟨i, rfl, _⟩
    cases hSort

end Plan

end EventTopology
