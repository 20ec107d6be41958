import EventTopology.Text.Blank
import EventTopology.Text.Split
import Mathlib.Data.List.DropRight
import Mathlib.Data.List.TakeWhile

/-
  This file characterizes how texts are taken apart: where a
  text is split, and what is left of it between blanks.

  Key definitions include:
    * `Text.IsBare`

  The main results are:
    * `Text.fields_eq_splitOn`
    * `Text.length_splitOn`
    * `Text.splitOn_eq_iff`
    * `Text.splitOnce_eq_none_iff`
    * `Text.splitOnce_eq_some_iff`
    * `Text.trimBoth_eq_iff`
    * `Text.trimBoth_padded`
    * `Text.trimBoth_append_cons`
-/

------------------------------------------------------------
-- Splitting into Fields
------------------------------------------------------------

namespace EventTopology

namespace Text

/- Fields are parts between separators. -/
theorem fields_eq_splitOn
    (sep : Char)
    (cs : List Char) :
    fields sep cs = cs.splitOn sep := by
  induction cs with
  | nil => rfl
  | cons c cs ih =>
      rw [fields, ih, List.splitOn_cons_eq_if_modifyHead]
      by_cases h : c = sep
      · simp [h]
      · rw [if_neg h, if_neg (by simpa using h)]
        cases hFields : cs.splitOn sep with
        | nil => exact (List.splitOn_ne_nil sep cs hFields).elim
        | cons f fs => rfl

/- There is one field more than there are separators. -/
theorem length_fields
    (sep : Char)
    (cs : List Char) :
    (fields sep cs).length = cs.count sep + 1 := by
  induction cs with
  | nil => rfl
  | cons c cs ih =>
      rw [fields]
      by_cases h : c = sep
      · rw [if_pos h, List.length_cons, ih, h,
          List.count_cons_self]
      · rw [if_neg h, List.count_cons_of_ne h]
        cases hFields : fields sep cs with
        | nil =>
            rw [hFields] at ih
            cases ih
        | cons f fs =>
            rw [hFields] at ih
            exact ih

/- No field has a separator in it. -/
theorem not_mem_of_mem_fields
    {sep : Char}
    {cs f : List Char}
    (hMem : f ∈ fields sep cs) :
    sep ∉ f := by
  induction cs generalizing f with
  | nil =>
      rw [fields, List.mem_singleton] at hMem
      rw [hMem]
      exact List.not_mem_nil
  | cons c cs ih =>
      rw [fields] at hMem
      by_cases h : c = sep
      · rw [if_pos h, List.mem_cons] at hMem
        rcases hMem with hEmpty | hRest
        · rw [hEmpty]
          exact List.not_mem_nil
        · exact ih hRest
      · rw [if_neg h] at hMem
        cases hFields : fields sep cs with
        | nil =>
            have hLength := length_fields sep cs
            rw [hFields] at hLength
            cases hLength
        | cons g gs =>
            rw [hFields] at hMem ih
            rw [List.mem_cons] at hMem
            rcases hMem with hFirst | hRest
            · have hNot := ih List.mem_cons_self
              rw [hFirst, List.mem_cons, not_or]
              exact ⟨Ne.symm h, hNot⟩
            · exact ih (List.mem_cons_of_mem g hRest)

theorem length_splitOn (sep : Char) (s : String) :
    (splitOn sep s).length = s.toList.count sep + 1 := by
  rw [splitOn, List.length_map, length_fields]

/-
  The fields of a text are the only parts without separators
  that it is made of.
-/
theorem splitOn_eq_iff
    {sep : Char}
    {s : String}
    {parts : List String}
    (hNe : parts ≠ []) :
    splitOn sep s = parts ↔
      s = (String.singleton sep).intercalate parts ∧
        ∀ part ∈ parts, sep ∉ part.toList := by
  constructor
  · intro hSplit
    rw [← hSplit]
    constructor
    · apply String.toList_injective
      have hTexts :
          (splitOn sep s).map String.toList =
            fields sep s.toList := by
        rw [splitOn, List.map_map]
        exact (List.map_congr_left
          fun cs _ => String.toList_ofList).trans
            (List.map_id _)
      rw [String.toList_intercalate, hTexts,
        String.toList_singleton, fields_eq_splitOn,
        List.intercalate_splitOn]
    · intro part hMem
      rw [splitOn, List.mem_map] at hMem
      rcases hMem with ⟨f, hField, hSame⟩
      rw [← hSame, String.toList_ofList]
      exact not_mem_of_mem_fields hField
  · intro hParts
    rcases hParts with ⟨hWhole, hPlain⟩
    rw [hWhole, splitOn, String.toList_intercalate,
      String.toList_singleton, fields_eq_splitOn,
      List.splitOn_intercalate, List.map_map]
    · exact (List.map_congr_left
        fun part _ => String.ofList_toList).trans
          (List.map_id _)
    · intro cs hMem
      rcases List.mem_map.mp hMem with ⟨part, hPart, hSame⟩
      rw [← hSame]
      exact hPlain part hPart
    · rw [ne_eq, List.map_eq_nil_iff]
      exact hNe

end Text

end EventTopology

------------------------------------------------------------
-- Splitting Once
------------------------------------------------------------

namespace EventTopology

namespace Text

/- A text is cut at its first separator. -/
theorem cut_eq_some_iff
    {sep : Char}
    {cs head rest : List Char} :
    cut sep cs = (head, some rest) ↔
      cs = head ++ sep :: rest ∧ sep ∉ head := by
  induction cs generalizing head with
  | nil => simp [cut]
  | cons c cs ih =>
      by_cases h : c = sep
      · subst h
        cases head with
        | nil => simp [cut]
        | cons d head =>
            simp only [cut, if_true]
            constructor
            · nofun
            · rintro ⟨hSame, hNot⟩
              cases hSame
              exact absurd List.mem_cons_self hNot
      · rw [cut, if_neg h]
        cases head with
        | nil => simp [h]
        | cons d head =>
            have hSep : ¬ sep = c := Ne.symm h
            rcases hCut : cut sep cs with ⟨front, back⟩
            have hRest :
                cut sep cs = (head, some rest) ↔
                  cs = head ++ sep :: rest ∧ sep ∉ head := ih
            rw [hCut, Prod.mk.injEq] at hRest
            simp only [Prod.mk.injEq, List.cons.injEq,
              List.cons_append, List.mem_cons, not_or]
            constructor
            · rintro ⟨⟨rfl, hFront⟩, hBack⟩
              have hBoth := hRest.mp ⟨hFront, hBack⟩
              exact ⟨⟨rfl, hBoth.1⟩, hSep, hBoth.2⟩
            · rintro ⟨⟨rfl, hRest'⟩, _, hNot⟩
              have hBoth := hRest.mpr ⟨hRest', hNot⟩
              exact ⟨⟨rfl, hBoth.1⟩, hBoth.2⟩

/- Without a separator there is nothing to cut. -/
theorem cut_eq_none_iff
    {sep : Char}
    {cs : List Char} :
    (cut sep cs).2 = none ↔ sep ∉ cs := by
  induction cs with
  | nil => simp [cut]
  | cons c cs ih =>
      by_cases h : c = sep
      · simp [cut, h]
      · rw [cut, if_neg h]
        simpa [Ne.symm h] using ih

theorem splitOnce_eq_none_iff
    {sep : Char}
    {s : String} :
    splitOnce sep s = none ↔ sep ∉ s.toList := by
  rw [← cut_eq_none_iff, splitOnce]
  rcases cut sep s.toList with ⟨front, _ | back⟩ <;> simp

theorem splitOnce_eq_some_iff
    {sep : Char}
    {s head rest : String} :
    splitOnce sep s = some (head, rest) ↔
      s.toList = head.toList ++ sep :: rest.toList ∧
        sep ∉ head.toList := by
  rw [← cut_eq_some_iff, splitOnce]
  rcases cut sep s.toList with ⟨front, _ | back⟩
  · simp
  · simp [← String.toList_inj]

end Text

------------------------------------------------------------
-- Trimming
------------------------------------------------------------

namespace Text

/- Characters of which neither end is in a class. -/
structure IsBare
    (p : Char → Bool)
    (cs : List Char) : Prop where
  first : ∀ c, cs.head? = some c → p c = false
  last : ∀ c, cs.getLast? = some c → p c = false

instance (p : Char → Bool) (cs : List Char) :
    Decidable (IsBare p cs) :=
  decidable_of_iff
    (cs.head?.all (!p ·) = true ∧
      cs.getLast?.all (!p ·) = true) <| by
    rw [Option.all_eq_true, Option.all_eq_true]
    simp only [Bool.not_eq_true']
    exact ⟨fun h => ⟨h.1, h.2⟩, fun h => ⟨h.1, h.2⟩⟩

variable {p : Char → Bool} {cs t : List Char}

/- What is dropped from the front is all of the class. -/
theorem dropWhile_eq_iff (hNe : t ≠ []) :
    cs.dropWhile p = t ↔
      ∃ front, cs = front ++ t ∧ (∀ c ∈ front, p c) ∧
        ∀ c, t.head? = some c → p c = false := by
  constructor
  · rintro rfl
    refine ⟨cs.takeWhile p,
      List.takeWhile_append_dropWhile.symm,
      fun c hMem => List.mem_takeWhile_imp hMem, ?_⟩
    intro c hFirst
    have hNot := List.head?_dropWhile_not p cs
    rw [hFirst] at hNot
    exact hNot
  · rintro ⟨front, rfl, hFront, hFirst⟩
    rw [List.dropWhile_append_of_pos hFront]
    cases t with
    | nil => exact (hNe rfl).elim
    | cons c t =>
        have hNot := hFirst c rfl
        exact List.dropWhile_cons_of_neg (by simp [hNot])

/- What is dropped from the end is all of the class. -/
theorem trimEnd_eq_iff (hNe : t ≠ []) :
    trimEnd p cs = t ↔
      ∃ back, cs = t ++ back ∧ (∀ c ∈ back, p c) ∧
        ∀ c, t.getLast? = some c → p c = false := by
  have hNe' : t.reverse ≠ [] := by simpa using hNe
  rw [trimEnd, List.reverse_eq_iff, dropWhile_eq_iff hNe',
    List.head?_reverse]
  constructor
  · rintro ⟨back, hSame, hBack, hLast⟩
    refine ⟨back.reverse, ?_, by simpa using hBack, hLast⟩
    rw [List.reverse_eq_iff] at hSame
    simpa using hSame
  · rintro ⟨back, rfl, hBack, hLast⟩
    exact ⟨back.reverse, by simp, by simpa using hBack,
      hLast⟩

/- What is left of a text stands between the class. -/
theorem trimBoth_eq_iff (hNe : t ≠ []) :
    trimBoth p cs = t ↔
      ∃ front back, cs = front ++ t ++ back ∧
        (∀ c ∈ front, p c) ∧ (∀ c ∈ back, p c) ∧
        IsBare p t := by
  have hHead (back : List Char) :
      (t ++ back).head? = t.head? := by
    cases t with
    | nil => exact (hNe rfl).elim
    | cons c t => rfl
  have hNe' (back : List Char) : t ++ back ≠ [] := by
    simp [hNe]
  rw [trimBoth, trimEnd_eq_iff hNe]
  constructor
  · rintro ⟨back, hDrop, hBack, hLast⟩
    rw [dropWhile_eq_iff (hNe' back), hHead] at hDrop
    rcases hDrop with ⟨front, rfl, hFront, hFirst⟩
    exact ⟨front, back, (List.append_assoc _ _ _).symm,
      hFront, hBack, hFirst, hLast⟩
  · rintro ⟨front, back, rfl, hFront, hBack, hFirst, hLast⟩
    refine ⟨back, ?_, hBack, hLast⟩
    rw [dropWhile_eq_iff (hNe' back), hHead]
    exact ⟨front, List.append_assoc _ _ _, hFront, hFirst⟩

/- Nothing is left of what is all of the class. -/
theorem trimBoth_eq_nil (hAll : ∀ c ∈ cs, p c) :
    trimBoth p cs = [] := by
  have hFront : cs.dropWhile p = [] :=
    List.dropWhile_eq_nil_iff.mpr hAll
  rw [trimBoth, hFront]
  rfl

/- What is put between the class is got back. -/
theorem trimBoth_padded
    {front back : List Char}
    (hFront : ∀ c ∈ front, p c)
    (hBack : ∀ c ∈ back, p c)
    (hBare : IsBare p t) :
    trimBoth p (front ++ t ++ back) = t := by
  by_cases hNe : t = []
  · subst hNe
    apply trimBoth_eq_nil
    simpa [or_imp, forall_and] using ⟨hFront, hBack⟩
  · exact (trimBoth_eq_iff hNe).mpr
      ⟨front, back, rfl, hFront, hBack, hBare⟩

/- What is dropped from the end does not matter. -/
theorem trimBoth_trimEnd :
    trimBoth p (trimEnd p cs) = trimBoth p cs := by
  induction cs using List.reverseRecOn with
  | nil => rfl
  | append_singleton cs c ih =>
      by_cases hClass : p c = true
      · have hDropped :
            trimEnd p (cs ++ [c]) = trimEnd p cs :=
          List.rdropWhile_concat_pos p cs c hClass
        rw [hDropped, ih, trimBoth, trimBoth,
          List.dropWhile_append]
        split
        · rename_i hEmpty
          rw [List.isEmpty_iff.mp hEmpty,
            List.dropWhile_cons_of_pos hClass]
          rfl
        · exact (List.rdropWhile_concat_pos p _ c hClass).symm
      · have hKept :
            trimEnd p (cs ++ [c]) = cs ++ [c] :=
          List.rdropWhile_concat_neg p cs c hClass
        rw [hKept]

theorem trimBoth_dropWhile :
    trimBoth p (cs.dropWhile p) = trimBoth p cs := by
  rw [trimBoth, trimBoth, List.dropWhile_idempotent]

/- Trimming stops at a character outside of the class. -/
theorem trimBoth_append_cons
    {front back : List Char}
    {c : Char}
    (hOut : p c = false) :
    trimBoth p (front ++ c :: back) =
      front.dropWhile p ++ c :: trimEnd p back := by
  have hFront : (front ++ c :: back).dropWhile p =
      front.dropWhile p ++ c :: back := by
    rw [List.dropWhile_append]
    split
    · rename_i hEmpty
      rw [List.isEmpty_iff.mp hEmpty,
        List.dropWhile_cons_of_neg (by simp [hOut])]
      rfl
    · rfl
  rw [trimBoth, hFront, trimEnd, trimEnd,
    List.reverse_append, List.reverse_cons,
    List.append_assoc, List.dropWhile_append]
  split
  · rename_i hEmpty
    simp [List.isEmpty_iff.mp hEmpty, hOut]
  · simp

end Text

end EventTopology
