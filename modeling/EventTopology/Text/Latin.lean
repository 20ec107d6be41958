import EventTopology.Text.Quoted

/-
  This file defines which texts can be written in Latin-1,
  the alphabet of the headers of responses, and how it is
  told of a text that it cannot be.

  Key definitions include:
    * `Text.isLatin`
    * `Text.latinFault?`
-/

------------------------------------------------------------
-- Texts in Latin-1
------------------------------------------------------------

namespace EventTopology

namespace Text

/- Is a character one of Latin-1? -/
def isLatin (c : Char) : Bool :=
  c.toNat < 0x100

/- A character that is no other than by its number. -/
def numbered (c : Char) : String :=
  String.ofList
    (if c.toNat < 0x10000 then
      '\\' :: 'u' :: hexDigits 4 c.toNat
    else '\\' :: 'U' :: hexDigits 8 c.toNat)

/-
  Why a text cannot be written in Latin-1, in words.  They
  tell where the first characters stand that are not of it.
-/
def latinFault? (s : String) : Option String :=
  let (front, rest) := s.toList.span isLatin
  let start := front.length
  let told (which : String) : String :=
    "'latin-1' codec can't encode " ++ which ++
      ": ordinal not in range(256)"
  match rest.takeWhile (!isLatin ·) with
  | [] => none
  | [c] =>
      some (told
        ("character '" ++ numbered c ++ "' in position " ++
          toString start))
  | cs =>
      some (told
        ("characters in position " ++ toString start ++ "-" ++
          toString (start + cs.length - 1)))

end Text

end EventTopology
