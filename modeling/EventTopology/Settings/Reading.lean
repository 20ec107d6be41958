import EventTopology.Decimal.Reading
import EventTopology.Record.Check

/-
  This file defines how settings are read that are no plain
  texts: truth values, whole numbers, choices and sets.  A
  text is read where it can be.

  Key definitions include:
    * `Settings.truthOf?`
    * `Settings.wholeOf?`
    * `Settings.readTruth`
    * `Settings.readWhole`
    * `Settings.readChoice`
    * `Settings.readSet`
-/

------------------------------------------------------------
-- Truth Values
------------------------------------------------------------

namespace EventTopology

namespace Settings

open Record

/- The truth value that a text names, in any case. -/
def truthOf? (s : String) : Option Bool :=
  let name := Text.lowerAscii s
  if name ∈ ["true", "t", "yes", "y", "on", "1"] then
    some true
  else if name ∈ ["false", "f", "no", "n", "off", "0"] then
    some false
  else none

/- The truth value that a whole number stands for. -/
def truthOfInt? (n : Int) : Option Bool :=
  if n = 0 then some false
  else if n = 1 then some true
  else none

/- A truth value, or the fault that there is none. -/
private def orUnreadable
    (path : List Step)
    (found : Input) : Option Bool → Checked Bool
| some b => .valid b
| none => Checked.fault path .unreadableTruth found

/- Read a truth value. -/
def readTruth : Reading Bool
| _, .value (.bool b) => .valid b
| path, .value (.str s) =>
    orUnreadable path (.value (.str s)) (truthOf? s)
| path, .value (.int n) =>
    orUnreadable path (.value (.int n)) (truthOfInt? n)
| path, .value (.float x) =>
    match (Json.float x).whole? with
    | some n =>
        orUnreadable path (.value (.float x)) (truthOfInt? n)
    | none => Checked.fault path .notTruth (.value (.float x))
| path, found => Checked.fault path .notTruth found

end Settings

------------------------------------------------------------
-- Whole Numbers
------------------------------------------------------------

namespace Settings

open Record

/- Is the text empty or a point followed by zeros? -/
def isNoFraction : List Char → Bool
| [] => true
| '.' :: zeros => zeros.all (· = '0')
| _ => false

/-
  The whole number that a text spells in ASCII digits, with
  a sign or without, between blanks.  Single underscores may
  stand between its digits.
-/
def wholeOf? (s : String) : Option Int := do
  let cs := Text.trimBoth Text.isWhite s.toList
  let (negative, rest) := Decimal.sign cs
  let (whole, fraction) := rest.span (· ≠ '.')
  let ds ← Decimal.joined false whole
  if ds.isEmpty || !ds.all (·.isDigit) ||
      !isNoFraction fraction then none
  else
    let n : Int := Decimal.naturalOf ds
    some (if negative then -n else n)

/- Read a whole number. -/
def readWhole : Reading Int
| _, .value (.bool b) => .valid (if b then 1 else 0)
| _, .value (.int n) => .valid n
| path, .value (.str s) =>
    match wholeOf? s with
    | some n => .valid n
    | none =>
        Checked.fault path .unreadableWhole (.value (.str s))
| path, .value (.float x) =>
    let found := .value (.float x)
    match Decimal.decode x, (Json.float x).whole? with
    | .finite _ _, some n => .valid n
    | .finite _ _, none => Checked.fault path .fraction found
    | _, _ => Checked.fault path .notFinite found
| path, found => Checked.fault path .notWhole found

end Settings

------------------------------------------------------------
-- Choices and Sets
------------------------------------------------------------

namespace Settings

open Record

/- Read one of some named values. -/
def readChoice
    {α : Type}
    (choices : List (String × α)) : Reading α
| path, found =>
    let bad :=
      Checked.fault path (.notChoice (choices.map (·.1))) found
    match found with
    | .value (.str s) =>
        match Table.lookup s choices with
        | some a => .valid a
        | none => bad
    | _ => bad

/- Read an array of texts as a set. -/
def readSet : Reading (List String)
| path, .value (.arr es) =>
    readList readText path (.value (.arr es))
| path, found => Checked.fault path .notSet found

end Settings

end EventTopology
