import EventTopology.Json.Shape
import EventTopology.Text.Quoted

/-
  This file defines the text of a JSON value as it stands in
  messages and keys: texts as they are at the top, quoted
  inside arrays and objects.  A value with a whole number of
  too many digits has no text.  Such a value cannot be sent
  as JSON either, nor can one with an infinite number.

  Key definitions include:
    * `Json.shown`
    * `Json.text`
    * `Json.HasText`
    * `Json.text?`
    * `Json.described`
    * `Json.IsSendable`
-/

------------------------------------------------------------
-- Values in Messages
------------------------------------------------------------

namespace EventTopology

namespace Json

/- The text of a truth value. -/
private def boolText (b : Bool) : String :=
  if b then "True" else "False"

mutual

/- The text of a value with texts quoted. -/
def shown : Json → String
| .null => "None"
| .bool b => boolText b
| .int n => toString n
| .float x => Decimal.text x
| .str s => Text.quoted s
| .arr es => "[" ++ ", ".intercalate (shownElements es) ++ "]"
| .obj ms =>
    "\x7b" ++ ", ".intercalate (shownMembers ms) ++ "\x7d"

/- The texts of an array's elements. -/
def shownElements : List Json → List String
| [] => []
| e :: es => e.shown :: shownElements es

/- The texts of an object's members. -/
def shownMembers : List (String × Json) → List String
| [] => []
| (k, v) :: ms =>
    (Text.quoted k ++ ": " ++ v.shown) :: shownMembers ms

end

/- The text of a value; a text is its own text. -/
def text : Json → String
| .str s => s
| v => v.shown

end Json

------------------------------------------------------------
-- Values without a Text
------------------------------------------------------------

namespace Json

/- Has a whole number few enough digits for a text? -/
def isShort (n : Int) : Bool :=
  (Nat.toDigits 10 n.natAbs).length ≤ digitLimit

/- The fault that keeps a number from having a text. -/
def textFault : Json → Option ShapeFault
| .int n => if isShort n then none else some .tooLong
| _ => none

/- Has a value a text? -/
def HasText (v : Json) : Prop :=
  v.firstFault textFault = none

instance (v : Json) : Decidable v.HasText :=
  inferInstanceAs (Decidable (_ = none))

/- The text of a value that has one. -/
def text? (v : Json) : Except ShapeFault String :=
  match v.firstFault textFault with
  | none => .ok v.text
  | some e => .error e

/- What reports show in place of a value without a text. -/
def unprintable (k : Kind) : String :=
  "<unprintable " ++ k.typeName ++ " object>"

/- A value as reports show it, with texts quoted. -/
def described (v : Json) : String :=
  if v.HasText then v.shown else unprintable v.kind

/- Texts have a text. -/
@[simp]
theorem hasText_str (s : String) : (Json.str s).HasText := by
  simp [HasText, firstFault, textFault]

/- So has null. -/
@[simp]
theorem hasText_null : Json.null.HasText := by
  simp [HasText, firstFault, textFault]

/- A value that has a text gives it. -/
theorem text?_of_hasText
    {v : Json}
    (hText : v.HasText) :
    v.text? = .ok v.text := by
  have hNone : v.firstFault textFault = none := hText
  rw [text?, hNone]

/- A text is its own text. -/
@[simp]
theorem text?_str (s : String) :
    (Json.str s).text? = .ok s :=
  text?_of_hasText (hasText_str s)

end Json

------------------------------------------------------------
-- Values That Cannot Be Sent
------------------------------------------------------------

namespace Json

/- Is a number finite? -/
def isFinite (x : Float) : Bool :=
  match Decimal.decode x with
  | .finite _ _ => true
  | _ => false

/- The fault that keeps a part of a value from being sent. -/
def sendFault : Json → Option ShapeFault
| .float x => if isFinite x then none else some .notFinite
| v => v.textFault

/- Can a value be sent as JSON? -/
def IsSendable (v : Json) : Prop :=
  v.firstFault sendFault = none

instance (v : Json) : Decidable v.IsSendable :=
  inferInstanceAs (Decidable (_ = none))

/- Texts can be sent. -/
@[simp]
theorem isSendable_str (s : String) :
    (Json.str s).IsSendable := by
  simp [IsSendable, firstFault, sendFault, textFault]

end Json

end EventTopology
