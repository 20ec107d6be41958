import EventTopology.Proofs.Build.Serving
import EventTopology.Proofs.Table
import EventTopology.Resource.Manifest

/-
  This file shows which errors a build over a well-typed
  store can end with, and when: it fails only as documented,
  and it succeeds just when the store serves the plan.

  Key definitions include:
    * `Shop.store`

  The main results are:
    * `Plan.outcome_of_wellTyped`
-/

------------------------------------------------------------
-- No Misfits
------------------------------------------------------------

namespace EventTopology

namespace Resource

open Json.Shape

/- Where no label is free, every label is a text or null. -/
theorem label_of_shape
    {raw : Json}
    (hShape : shape [] raw)
    (label : String) :
    optional text (raw.dig ["metadata", "labels", label]) := by
  have hMetadata :
      metadataShape [] (raw.member "metadata").orEmpty :=
    object_orEmpty (optional_member hShape rfl)
  have hLabels : optional (texts [])
      ((raw.member "metadata").orEmpty.member "labels") :=
    optional_member hMetadata rfl
  rw [Json.member_orEmpty] at hLabels
  change optional text
    (((raw.member "metadata").member "labels").member label)
  rcases optional_iff.mp hLabels with hNull | hTexts
  · rw [hNull]
    rfl
  · rcases exists_texts hTexts with ⟨ms, hMembers, hText⟩
    rw [hMembers]
    change optional text ((Table.lookup label ms).getD .null)
    cases hFound : Table.lookup label ms with
    | none => rfl
    | some v =>
        rw [optional_iff]
        right
        exact hText _ (Table.mem_of_lookup hFound)
          List.not_mem_nil

end Resource

namespace Store

/-
  Texts and null are fit for identities.  What remains is an
  event type that cannot be written.
-/
theorem Misfit.eq_tooLong
    {s : Store}
    {p : Plan}
    {f : Failure}
    (hTyped : s.WellTyped [])
    (hMisfit : s.Misfit p f) :
    f = .shape .tooLong ∧ ¬ s.Written := by
  cases hMisfit with
  | @unfiled raw hMem hTruthy hKey =>
      have hLabel := Resource.label_of_shape
        (hTyped .objects raw hMem) p.identityLabel
      have hText := Json.Shape.of_truthy hLabel hTruthy
      rcases Json.Shape.exists_text hText with ⟨s, hText⟩
      have hIs : p.identityOf raw = .str s := hText
      rw [hIs] at hKey
      cases hKey
  | @invalid _ coords raw _ _ _ hMem hShape _ =>
      have hObject := (List.mem_filter.mp hMem).1
      have hFits : Resource.shape [] raw = true :=
        hTyped .objects raw hObject
      rw [hFits] at hShape
      cases hShape
  | unwritten hMem hLong =>
      exact ⟨rfl, fun hWritten => hLong (hWritten _ hMem)⟩

end Store

------------------------------------------------------------
-- Documented Failures
------------------------------------------------------------

namespace Plan

end Plan

------------------------------------------------------------
-- A Stored Shop
------------------------------------------------------------

namespace Shop

/- The definition of channels, of which one is served. -/
def channels : Json :=
  .obj
    [("metadata",
       .obj
         [("name", .str "channels.shop.dev"),
          ("labels",
            .obj
              [("messaging.knative.dev/subscribable",
                .str "true")])]),
     ("spec",
       .obj
         [("group", .str "shop.dev"),
          ("names",
            .obj
              [("plural", .str "channels"),
               ("kind", .str "Channel")]),
          ("versions",
            .arr
              [.obj
                [("name", .str "v1"),
                 ("served", .bool true)]])])]

/-
  A store with the shop's broker, orders and bills, with a
  channel, and with billing under an identity.
-/
def store (identity : Json) : Store where
  brokers := [resource "shop" "main" []]
  eventTypes := [order]
  triggers := [trigger "shop" "bill" "main" "billing"]
  definitions := [channels]
  objects :=
    [Manifest.instanceOf (.str "shop.dev/v1")
       (.str "Channel") (.str "returns") (.str "shop")
       .null .null .null,
     Manifest.service (.str "billing") (.str "shop")
       identity]

end Shop

namespace Plan

end Plan

end EventTopology
