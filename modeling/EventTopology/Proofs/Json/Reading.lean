import EventTopology.Json.Reader
import EventTopology.Proofs.Json.Writing
import EventTopology.Proofs.Table
import Mathlib.Data.Nat.Digits.Defs

/-
  This file shows that whatever the strict dialect reads can
  be written again: whole numbers are words of 64 bits, other
  numbers are finite, and the reader puts values together of
  nothing but what its tokens hold.

  Key definitions include:
    * `Json.Token.IsSendable`
    * `Json.Progress.IsSendable`

  The main results are:
    * `Json.isSendable_of_scan`
    * `Json.Progress.IsSendable.step`
    * `Json.isSendable_of_read?`
-/

------------------------------------------------------------
-- Scanned Numbers
------------------------------------------------------------

namespace EventTopology

namespace Json

variable {cs rest : List Char}
variable {v : Json}

/- Words have few enough digits. -/
theorem isShort_of_keepsWhole
    {n : Int}
    (hKeeps : Dialect.strict.keepsWhole n = true) :
    isShort n = true := by
  have hWord : -Int.pow 2 63 ≤ n ∧ n < Int.pow 2 64 := by
    simpa only [Dialect.strict, Bool.and_eq_true,
      decide_eq_true_eq] using hKeeps
  have hLow : Int.pow 2 63 = 9223372036854775808 := rfl
  have hHigh : Int.pow 2 64 = 18446744073709551616 := rfl
  have hSmall : n.natAbs < 10 ^ 20 := by omega
  have hLength :=
    Nat.toDigits_length 10 n.natAbs 20 (by decide) hSmall
  exact decide_eq_true (hLength.trans (by decide))

theorem isSendable_of_floatValue?
    {x : Float}
    (hValue : floatValue? .strict x = some v) :
    v.IsSendable := by
  unfold floatValue? at hValue
  cases hDecode : Decimal.decode x <;>
    rw [hDecode] at hValue <;> cases hValue
  simp [IsSendable, firstFault, sendFault, isFinite, hDecode]

/- A double is read as the dialect admits it. -/
theorem exists_floatValue?
    {d : Dialect}
    {x : Float}
    {left : List Char}
    (hValue : ((floatValue? d x).bind fun w =>
      pure (w, left)) = some (v, rest)) :
    ∃ x, floatValue? d x = some v := by
  rcases Option.bind_eq_some_iff.mp hValue with
    ⟨w, hFloat, hPure⟩
  cases hPure
  exact ⟨x, hFloat⟩

/- A scanned number is a kept whole number, or a double. -/
theorem scanNumber_cases
    {d : Dialect}
    (hScan : scanNumber d cs = some (v, rest)) :
    (∃ n, d.keepsWhole n = true ∧ v = .int n) ∨
      ∃ x, floatValue? d x = some v := by
  unfold scanNumber at hScan
  simp only [Option.bind_eq_bind, Option.bind_eq_some_iff]
    at hScan
  rcases hScan with ⟨⟨whole, _⟩, -, hScan⟩
  split at hScan
  · cases hScan
  simp only [Option.bind_eq_some_iff] at hScan
  rcases hScan with
    ⟨⟨places, _⟩, -, ⟨exponent, _⟩, -, hScan⟩
  dsimp only at hScan
  split at hScan
  · rcases ite_eq_iff.mp hScan with
      ⟨hKeeps, hPure⟩ | ⟨-, hValue⟩
    · cases hPure
      exact Or.inl ⟨_, hKeeps, rfl⟩
    · exact Or.inr (exists_floatValue? hValue)
  · exact Or.inr (exists_floatValue? hScan)

theorem isSendable_of_scanNumber
    (hScan : scanNumber .strict cs = some (v, rest)) :
    v.IsSendable := by
  rcases scanNumber_cases hScan with
    ⟨n, hKeeps, rfl⟩ | ⟨x, hValue⟩
  · exact isSendable_int (isShort_of_keepsWhole hKeeps)
  · exact isSendable_of_floatValue? hValue

end Json

------------------------------------------------------------
-- Scanned Tokens
------------------------------------------------------------

namespace Json

variable {cs rest : List Char}

/- A token holds nothing that cannot be sent. -/
def Token.IsSendable : Token → Prop
| .plain v => v.IsSendable
| _ => True

theorem isSendable_of_mark?
    {c : Char}
    {t : Token}
    (hMark : mark? c = some t) :
    t.IsSendable := by
  unfold mark? at hMark
  repeat' split at hMark
  all_goals cases hMark <;> exact trivial

theorem isSendable_of_scanName
    {v : Json}
    (hScan : scanName .strict cs = some (v, rest)) :
    v.IsSendable := by
  unfold scanName at hScan
  rcases List.exists_of_findSome?_eq_some hScan with
    ⟨⟨name, w⟩, hMem, hSome⟩
  dsimp only at hSome
  split at hSome <;> cases hSome
  have hAll : ∀ e ∈ names .strict, e.2.IsSendable := by
    decide
  exact hAll _ hMem

theorem isSendable_of_scanToken
    {t : Token}
    (hScan : scanToken .strict cs = some (t, rest)) :
    t.IsSendable := by
  cases cs with
  | nil => cases hScan
  | cons c cs =>
      cases hMark : mark? c with
      | some t' =>
          rw [scanToken, hMark] at hScan
          cases hScan
          exact isSendable_of_mark? hMark
      | none =>
          rw [scanToken, hMark] at hScan
          dsimp only at hScan
          split at hScan
          · rcases Option.map_eq_some_iff.mp hScan with
              ⟨_, -, hText⟩
            cases hText
            exact trivial
          cases hName : scanName .strict (c :: cs) with
          | some found =>
              rw [hName] at hScan
              cases hScan
              exact isSendable_of_scanName hName
          | none =>
              rw [hName] at hScan
              rcases Option.map_eq_some_iff.mp hScan with
                ⟨_, hNumber, hPlain⟩
              cases hPlain
              exact isSendable_of_scanNumber hNumber

/- By induction on the characters still to be taken. -/
theorem isSendable_of_scanFrom
    {n : Nat}
    {done ts : List Token}
    (hScan : scanFrom .strict n done cs = some ts)
    (hDone : ∀ t ∈ done, t.IsSendable) :
    ∀ t ∈ ts, t.IsSendable := by
  induction n generalizing cs done with
  | zero =>
      cases cs with
      | nil =>
          cases hScan
          exact fun t hMem =>
            hDone t (List.mem_reverse.mp hMem)
      | cons c cs => cases hScan
  | succ n ih =>
      cases cs with
      | nil =>
          cases hScan
          exact fun t hMem =>
            hDone t (List.mem_reverse.mp hMem)
      | cons c cs =>
          unfold scanFrom at hScan
          split at hScan
          · exact ih hScan hDone
          cases hToken : scanToken .strict (c :: cs) with
          | none =>
              rw [hToken] at hScan
              cases hScan
          | some found =>
              rw [hToken] at hScan
              refine ih hScan fun t hMem => ?_
              rcases List.mem_cons.mp hMem with rfl | hOld
              · exact isSendable_of_scanToken hToken
              · exact hDone t hOld

theorem isSendable_of_scan
    {ts : List Token}
    (hScan : scan .strict cs = some ts) :
    ∀ t ∈ ts, t.IsSendable :=
  isSendable_of_scanFrom hScan nofun

end Json

------------------------------------------------------------
-- Values in the Making
------------------------------------------------------------

namespace Json

/- The values that an open array or object has so far. -/
def Frame.values : Frame → List Json
| .array done => done
| .object done _ => done.map (·.2)

namespace Progress

/- Nothing that cannot be sent has been read so far. -/
structure IsSendable (p : Progress) : Prop where
  frames : ∀ f ∈ p.stack, ∀ v ∈ f.values, v.IsSendable
  complete : ∀ v, p.awaiting = .nothing v → v.IsSendable

variable {p p' : Progress}
variable {f : Frame}
variable {stack : List Frame}
variable {t : Token}

theorem isSendable_start : start.IsSendable :=
  ⟨nofun, nofun⟩

theorem isSendable_place
    {v : Json}
    (hFrames : ∀ f ∈ stack, ∀ w ∈ f.values, w.IsSendable)
    (hValue : v.IsSendable) :
    (place v stack).IsSendable := by
  cases stack with
  | nil =>
      refine ⟨nofun, fun w hComplete => ?_⟩
      cases hComplete
      exact hValue
  | cons f stack =>
      have hTop := hFrames f List.mem_cons_self
      have hRest := fun g hMem =>
        hFrames g (List.mem_cons_of_mem f hMem)
      cases f <;>
        refine ⟨fun g hMem => ?_, nofun⟩ <;>
        rcases List.mem_cons.mp hMem with rfl | hOld
      case array.inr | object.inr => exact hRest g hOld
      all_goals
        exact List.forall_mem_cons.mpr ⟨hValue, hTop⟩

/- A step at a place where a value may stand. -/
theorem isSendable_stepValue
    (hFrames : ∀ f ∈ stack, ∀ v ∈ f.values, v.IsSendable)
    (hToken : t.IsSendable)
    (hStep : stepValue .strict stack t = some p') :
    p'.IsSendable := by
  cases t with
  | plain v =>
      cases hStep
      exact isSendable_place hFrames hToken
  | text s =>
      cases hStep
      exact isSendable_place hFrames (isSendable_str s)
  | openArray | openObject =>
      rw [stepValue] at hStep
      split at hStep <;> cases hStep
      exact ⟨List.forall_mem_cons.mpr ⟨nofun, hFrames⟩,
        nofun⟩
  | closeArray | closeObject | comma | colon => cases hStep

/- Arrays and objects are made of the values in them. -/
theorem isSendable_stepMore
    (hFrames : ∀ f ∈ stack, ∀ v ∈ f.values, v.IsSendable)
    (hStep : stepMore stack t = some p') :
    p'.IsSendable := by
  cases stack with
  | nil => cases hStep
  | cons f stack =>
      have hTop := hFrames f List.mem_cons_self
      have hRest := fun g hMem =>
        hFrames g (List.mem_cons_of_mem f hMem)
      cases f <;> cases t <;> cases hStep
      case array.comma.refl | object.comma.refl =>
        exact ⟨hFrames, nofun⟩
      case array.closeArray.refl done =>
        refine isSendable_place hRest ?_
        refine isSendable_arr_iff.mpr fun v hMem => ?_
        exact hTop v (List.mem_reverse.mp hMem)
      case object.closeObject.refl done name =>
        refine isSendable_place hRest ?_
        refine isSendable_obj_iff.mpr fun m hMem => ?_
        refine hTop m.2 (List.mem_map_of_mem ?_)
        exact List.mem_reverse.mp
          (Table.mem_of_mem_ofList hMem)

theorem isSendable_stepName
    (hFrames : ∀ f ∈ stack, ∀ v ∈ f.values, v.IsSendable)
    (hStep : stepName stack t = some p') :
    p'.IsSendable := by
  unfold stepName at hStep
  split at hStep <;> cases hStep
  rcases List.forall_mem_cons.mp hFrames with
    ⟨hTop, hRest⟩
  exact ⟨List.forall_mem_cons.mpr ⟨hTop, hRest⟩, nofun⟩

/- A token of what can be sent adds nothing else. -/
theorem IsSendable.step
    (hSendable : p.IsSendable)
    (hToken : t.IsSendable)
    (hStep : p.step .strict t = some p') :
    p'.IsSendable := by
  have hFrames := hSendable.frames
  unfold Progress.step at hStep
  split at hStep
  case h_1 | h_3 =>
    exact isSendable_stepValue hFrames hToken hStep
  case h_2 | h_5 | h_8 =>
    exact isSendable_stepMore hFrames hStep
  case h_4 | h_6 => exact isSendable_stepName hFrames hStep
  case h_7 =>
    cases hStep
    exact ⟨hFrames, nofun⟩
  case h_9 => cases hStep

/- So do all tokens, one after the other. -/
theorem IsSendable.foldlM
    {ts : List Token}
    (hSendable : p.IsSendable)
    (hTokens : ∀ t ∈ ts, t.IsSendable)
    (hSteps : ts.foldlM (Progress.step .strict) p = some p') :
    p'.IsSendable := by
  induction ts generalizing p with
  | nil =>
      cases hSteps
      exact hSendable
  | cons t ts ih =>
      rw [List.foldlM_cons] at hSteps
      rcases Option.bind_eq_some_iff.mp hSteps with
        ⟨p₁, hStep, hRest⟩
      rcases List.forall_mem_cons.mp hTokens with
        ⟨hToken, hTokens'⟩
      exact ih (hSendable.step hToken hStep) hTokens' hRest

end Progress

end Json

------------------------------------------------------------
-- Values Read
------------------------------------------------------------

namespace Json

/- Whatever is read in the strict dialect can be sent. -/
theorem isSendable_of_read?
    {s : String}
    {v : Json}
    (hRead : read? .strict s = some v) :
    v.IsSendable := by
  rcases Option.bind_eq_some_iff.mp hRead with
    ⟨ts, hScan, hTokens⟩
  rcases Option.bind_eq_some_iff.mp hTokens with
    ⟨p, hSteps, hResult⟩
  have hSendable : p.IsSendable :=
    Progress.isSendable_start.foldlM
      (isSendable_of_scan hScan) hSteps
  unfold Progress.result? at hResult
  split at hResult <;> cases hResult
  next hComplete => exact hSendable.complete v hComplete

end Json

end EventTopology
