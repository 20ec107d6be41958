/-
  This file defines the order of texts, by the code points
  of their characters.

  Key definitions include:
    * `Text.before`

  That it is an order is stated by:
    * `Text.before_trans`
    * `Text.not_before_trans`
    * `Text.before_asymm`
    * `Text.eq_of_not_before`
-/

------------------------------------------------------------
-- The Order of Texts
------------------------------------------------------------

namespace EventTopology

namespace Text

/- Does a text come before another? -/
def before (s t : String) : Bool :=
  (String.decidableLT s t).decide

theorem before_trans
    {s t u : String}
    (hFirst : before s t)
    (hSecond : before t u) :
    before s u := by
  have hLt := of_decide_eq_true hFirst
  have hLt' := of_decide_eq_true hSecond
  exact decide_eq_true (String.lt_trans hLt hLt')

/- What does not come before is passed on likewise. -/
theorem not_before_trans
    {s t u : String}
    (hFirst : before t s = false)
    (hSecond : before u t = false) :
    before u s = false := by
  have hLe := String.not_lt.mp (of_decide_eq_false hFirst)
  have hLe' :=
    String.not_lt.mp (of_decide_eq_false hSecond)
  exact decide_eq_false
    (String.not_lt.mpr (String.le_trans hLe hLe'))

theorem before_asymm
    {s t : String}
    (hBefore : before s t) :
    before t s = false := by
  have hLt := of_decide_eq_true hBefore
  exact decide_eq_false (String.lt_asymm hLt)

/- Of two different texts one comes before the other. -/
theorem eq_of_not_before
    {s t : String}
    (hNot : before s t = false)
    (hNot' : before t s = false) :
    s = t := by
  have hLe := String.not_lt.mp (of_decide_eq_false hNot)
  have hLe' := String.not_lt.mp (of_decide_eq_false hNot')
  exact String.le_antisymm hLe' hLe

end Text

end EventTopology
