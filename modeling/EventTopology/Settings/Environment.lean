import EventTopology.Json.Reader
import EventTopology.Settings.Basic
import EventTopology.Settings.Dotenv

/-
  This file defines how settings are found: in environment
  variables, then in a file of the working directory.  Names
  are not told apart by case, and unknown ones are ignored.

  Key definitions include:
    * `Settings.lowerName`
    * `Settings.given`
    * `Settings.load`
-/

------------------------------------------------------------
-- Names
------------------------------------------------------------

namespace EventTopology

namespace Settings

/-
  The lower case of a character, as far as ASCII letters are
  concerned.  The Kelvin sign is the one other character
  whose lower case is an ASCII letter.
-/
def lowerChar (c : Char) : Char :=
  if c = '\u212a' then 'k' else c.toLower

/- A name of a variable in lower case. -/
def lowerName (s : String) : String :=
  String.ofList (s.toList.map lowerChar)

/- Variables by their names in lower case. -/
def lowered (vars : Dotenv.Known) : Dotenv.Known :=
  Table.ofList (vars.map fun v => (lowerName v.1, v.2))

end Settings

------------------------------------------------------------
-- Loading
------------------------------------------------------------

namespace Settings

open Record

/-
  What variables say about a setting, if anything.  The set
  is written as JSON, where null says nothing.
-/
def given
    (vars : Dotenv.Known)
    (name : String) : Except Failure (Option Json) :=
  match Table.lookup (lowerName name) vars with
  | some (some s) =>
      if name = setName then
        match Json.read? .lax s with
        | none => .error (.setting name)
        | some .null => .ok none
        | some v => .ok (some v)
      else .ok (some (.str s))
  | _ => .ok none

/- All settings that variables say something about. -/
def allGiven
    (vars : Dotenv.Known) : Except Failure Draft := do
  let found ← names.mapM fun name => do
    return (← given vars name).map fun v =>
      (name, Input.value v)
  return found.filterMap id

/-
  The settings that the environment and a file give.  The
  environment wins.
-/
def load
    (environment : Table String)
    (file : String) : Except Failure Settings := do
  let vars := environment.map fun v => (v.1, some v.2)
  let fromEnvironment ← allGiven (lowered vars)
  let fromFile ← allGiven (lowered (Dotenv.read vars file))
  Failure.ofChecked recordName
    (check (fromEnvironment ++ fromFile))

end Settings

end EventTopology
