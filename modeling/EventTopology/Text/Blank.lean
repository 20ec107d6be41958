/-
  This file defines the blanks of a text and how they are
  taken off its ends.

  Key definitions include:
    * `Text.isWhite`
    * `Text.isBlank`
    * `Text.trimBoth`
    * `Text.strip`
-/

------------------------------------------------------------
-- Classes of Blanks
------------------------------------------------------------

namespace EventTopology

namespace Text

/- The code points that Unicode calls white space. -/
def isWhite (c : Char) : Bool :=
  let n := c.toNat
  (9 ≤ n && n ≤ 13) || n == 0x20 || n == 0x85 ||
    n == 0xA0 || n == 0x1680 ||
    (0x2000 ≤ n && n ≤ 0x200A) ||
    n == 0x2028 || n == 0x2029 || n == 0x202F ||
    n == 0x205F || n == 0x3000

/-
  A blank is white space or one of the four information
  separators.
-/
def isBlank (c : Char) : Bool :=
  isWhite c || (0x1C ≤ c.toNat && c.toNat ≤ 0x1F)

end Text

------------------------------------------------------------
-- Taking Blanks Off
------------------------------------------------------------

namespace Text

/- Drop the characters of a class from the end. -/
def trimEnd
    (p : Char → Bool)
    (cs : List Char) : List Char :=
  (cs.reverse.dropWhile p).reverse

/- Drop the characters of a class from both ends. -/
def trimBoth
    (p : Char → Bool)
    (cs : List Char) : List Char :=
  trimEnd p (cs.dropWhile p)

/- A text without the blanks at its ends. -/
def strip (s : String) : String :=
  String.ofList (trimBoth isBlank s.toList)

end Text

end EventTopology
