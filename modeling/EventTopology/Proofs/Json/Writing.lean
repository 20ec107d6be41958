import EventTopology.Json.Display
import EventTopology.Proofs.Ending

/-
  This file shows what keeps a value from having a text: the
  fault of a value is that of one of its parts, and only a
  whole number that is too long has one.  A value without a
  text cannot be sent either.

  The main results are:
    * `Json.firstFault_mem`
    * `Json.text?_ends`
    * `Json.HasText.of_isSendable`
-/

------------------------------------------------------------
-- Faults of Parts
------------------------------------------------------------

namespace EventTopology

namespace Json

mutual

/- The fault of a value is that of one of its parts. -/
theorem firstFault_mem
    {fault : Json → Option ShapeFault}
    {P : ShapeFault → Prop}
    (hFault : ∀ v e, fault v = some e → P e) :
    (v : Json) → ∀ e, v.firstFault fault = some e → P e
| .arr es => by
    simpa only [firstFault] using elementsFault_mem hFault es
| .obj ms => by
    simpa only [firstFault] using membersFault_mem hFault ms
| .null | .bool _ | .int _ | .float _ | .str _ => by
    simpa only [firstFault] using hFault _

theorem elementsFault_mem
    {fault : Json → Option ShapeFault}
    {P : ShapeFault → Prop}
    (hFault : ∀ v e, fault v = some e → P e) :
    (es : List Json) → ∀ e,
      elementsFault fault es = some e → P e
| [], e, hSome => by
    simp only [elementsFault] at hSome
    cases hSome
| v :: es, e, hSome => by
    simp only [elementsFault, Option.or_eq_some_iff] at hSome
    rcases hSome with hFirst | ⟨-, hRest⟩
    · exact firstFault_mem hFault v e hFirst
    · exact elementsFault_mem hFault es e hRest

theorem membersFault_mem
    {fault : Json → Option ShapeFault}
    {P : ShapeFault → Prop}
    (hFault : ∀ v e, fault v = some e → P e) :
    (ms : List (String × Json)) → ∀ e,
      membersFault fault ms = some e → P e
| [], e, hSome => by
    simp only [membersFault] at hSome
    cases hSome
| (_, v) :: ms, e, hSome => by
    simp only [membersFault, Option.or_eq_some_iff] at hSome
    rcases hSome with hFirst | ⟨-, hRest⟩
    · exact firstFault_mem hFault v e hFirst
    · exact membersFault_mem hFault ms e hRest

end

/- Only the length of a number keeps a value from a text. -/
theorem text?_ends (v : Json) :
    v.text?.Ends
      (fun s => v.HasText ∧ s = v.text)
      (fun e => ¬ v.HasText ∧ e = .tooLong) := by
  unfold text?
  cases hFault : v.firstFault textFault with
  | none => exact ⟨hFault, rfl⟩
  | some e =>
      refine ⟨by simp [HasText, hFault], ?_⟩
      refine firstFault_mem (P := (· = .tooLong)) ?_ v e
        hFault
      intro v e hSome
      cases v with
      | int n =>
          simp only [textFault] at hSome
          split at hSome
          · cases hSome
          · exact (Option.some.inj hSome).symm
      | _ => cases hSome

end Json

------------------------------------------------------------
-- Values That Can Be Sent
------------------------------------------------------------

namespace Json

mutual

/- Who finds no fault misses none that another finds. -/
theorem firstFault_eq_none_of
    {fault fault' : Json → Option ShapeFault}
    (hFault : ∀ v, fault v = none → fault' v = none) :
    (v : Json) → v.firstFault fault = none →
      v.firstFault fault' = none
| .arr es => by
    simpa only [firstFault] using
      elementsFault_eq_none_of hFault es
| .obj ms => by
    simpa only [firstFault] using
      membersFault_eq_none_of hFault ms
| .null | .bool _ | .int _ | .float _ | .str _ => by
    simpa only [firstFault] using hFault _

theorem elementsFault_eq_none_of
    {fault fault' : Json → Option ShapeFault}
    (hFault : ∀ v, fault v = none → fault' v = none) :
    (es : List Json) → elementsFault fault es = none →
      elementsFault fault' es = none
| [], _ => rfl
| v :: es, hNone => by
    simp only [elementsFault, Option.or_eq_none_iff]
      at hNone ⊢
    exact ⟨firstFault_eq_none_of hFault v hNone.1,
      elementsFault_eq_none_of hFault es hNone.2⟩

theorem membersFault_eq_none_of
    {fault fault' : Json → Option ShapeFault}
    (hFault : ∀ v, fault v = none → fault' v = none) :
    (ms : List (String × Json)) →
      membersFault fault ms = none →
      membersFault fault' ms = none
| [], _ => rfl
| (_, v) :: ms, hNone => by
    simp only [membersFault, Option.or_eq_none_iff]
      at hNone ⊢
    exact ⟨firstFault_eq_none_of hFault v hNone.1,
      membersFault_eq_none_of hFault ms hNone.2⟩

end

/- What can be sent has a text. -/
theorem HasText.of_isSendable
    {v : Json}
    (hSend : v.IsSendable) :
    v.HasText := by
  refine firstFault_eq_none_of (fun v hNone => ?_) v hSend
  cases v with
  | float x => rfl
  | _ => exact hNone

/- An array can be sent if its elements can. -/
theorem isSendable_arr_iff
    {es : List Json} :
    (Json.arr es).IsSendable ↔ ∀ v ∈ es, v.IsSendable := by
  unfold IsSendable
  rw [firstFault]
  induction es with
  | nil => simp [elementsFault]
  | cons v es ih =>
      simp only [elementsFault, Option.or_eq_none_iff,
        List.forall_mem_cons, ih]

/- An object can be sent if its members can. -/
theorem isSendable_obj_iff
    {ms : Members} :
    (Json.obj ms).IsSendable ↔ ∀ m ∈ ms, m.2.IsSendable := by
  unfold IsSendable
  rw [firstFault]
  induction ms with
  | nil => simp [membersFault]
  | cons m ms ih =>
      simp only [membersFault, Option.or_eq_none_iff,
        List.forall_mem_cons, ih]

/- A whole number can be sent if it is short. -/
theorem isSendable_int
    {n : Int}
    (hShort : isShort n = true) :
    (Json.int n).IsSendable := by
  simp [IsSendable, firstFault, sendFault, textFault, hShort]

end Json

end EventTopology
