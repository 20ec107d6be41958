/-
  This file defines how a text is taken apart at a
  separator: into all its fields, or once into a head and a
  rest.

  Key definitions include:
    * `Text.fields`
    * `Text.cut`
    * `Text.splitOn`
    * `Text.splitOnce`
-/

------------------------------------------------------------
-- Splitting Lists of Characters
------------------------------------------------------------

namespace EventTopology

namespace Text

/-
  The fields between separators.  There is one field more
  than there are separators, so the list is never empty.
-/
def fields (sep : Char) : List Char → List (List Char)
| [] => [[]]
| c :: cs =>
    if c = sep then [] :: fields sep cs
    else
      match fields sep cs with
      | [] => [[c]]
      | f :: fs => (c :: f) :: fs

/-
  The characters before the first separator, and those after
  it when there is one.
-/
def cut (sep : Char) :
    List Char → List Char × Option (List Char)
| [] => ([], none)
| c :: cs =>
    if c = sep then ([], some cs)
    else
      let (head, rest) := cut sep cs
      (c :: head, rest)

end Text

------------------------------------------------------------
-- Splitting Texts
------------------------------------------------------------

namespace Text

/- The fields of a text between separators. -/
def splitOn (sep : Char) (s : String) : List String :=
  (fields sep s.toList).map String.ofList

/-
  A text split at its first separator; `none` when it holds
  no separator.
-/
def splitOnce
    (sep : Char)
    (s : String) : Option (String × String) :=
  match cut sep s.toList with
  | (_, none) => none
  | (head, some rest) =>
      some (String.ofList head, String.ofList rest)

/- Lower-case the ASCII letters of a text. -/
def lowerAscii (s : String) : String :=
  String.ofList (s.toList.map Char.toLower)

end Text

end EventTopology
