import EventTopology.Json.Display

/-
  This file defines how records are read from untyped
  fields.  Reading collects every fault instead of stopping
  at the first, in the order in which a record names its
  fields, and converts nothing.

  Key definitions include:
    * `Record.Fault`
    * `Record.Checked`
    * `Record.Input`
    * `Record.Draft`
    * `Record.Field`
    * `Record.required`
    * `Record.withDefault`
    * `Record.assign`
-/

------------------------------------------------------------
-- Faults
------------------------------------------------------------

namespace EventTopology

namespace Record

/- One step of the path to a faulty value. -/
inductive Step where
| name (s : String)
| position (n : Int)
deriving DecidableEq, Repr

/- The value that a field is read from. -/
inductive Input where
| value (v : Json)
/- A map whose keys need not be texts. -/
| entries (es : Json.Entries)

/- What is wrong with a value. -/
inductive FaultKind where
| missing
| notText
| notMap
| notList
| notRecord (record : String)
/- The field of a finished record cannot be set. -/
| fixed
| unreadableTruth
| notTruth
| unreadableWhole
| notWhole
| fraction
| notFinite
| notChoice (choices : List String)
| notSet
deriving DecidableEq, Repr

/- A fault, where it is, and the value at fault. -/
structure Fault where
  path : List Step
  kind : FaultKind
  found : Option Input

end Record

------------------------------------------------------------
-- Collecting Faults
------------------------------------------------------------

namespace Record

/- A value, or all the faults that keep it from being one. -/
inductive Checked (α : Type) where
| valid (a : α)
| faulty (faults : List Fault)

namespace Checked

variable {α β : Type}

/- Apply a function to a value, collecting both's faults. -/
def apply
    (f : Checked (α → β))
    (a : Checked α) : Checked β :=
  match f, a with
  | .valid f, .valid a => .valid (f a)
  | .valid _, .faulty es => .faulty es
  | .faulty es, .valid _ => .faulty es
  | .faulty es, .faulty es' => .faulty (es ++ es')

instance : Applicative Checked where
  pure := .valid
  seq f a := apply f (a ())

/- A single fault. -/
def fault
    (path : List Step)
    (kind : FaultKind)
    (found : Input) : Checked α :=
  .faulty [⟨path, kind, some found⟩]

/- Check each element, collecting the faults of all. -/
def each (f : α → Checked β) : List α → Checked (List β)
| [] => .valid []
| a :: as => List.cons <$> f a <*> each f as

end Checked

end Record

------------------------------------------------------------
-- Reading Values
------------------------------------------------------------

namespace Record

/- How a value at the end of a path is read. -/
abbrev Reading (α : Type) :=
  List Step → Input → Checked α

/- Read a text. -/
def readText : Reading String
| _, .value (.str s) => .valid s
| path, found => Checked.fault path .notText found

/- Read null as nothing, and all else as told. -/
def orNull
    {α : Type}
    (read : Reading α) : Reading (Option α)
| _, .value .null => .valid none
| path, found => some <$> read path found

/- Read an array, every element as told. -/
def readList
    {α : Type}
    (read : Reading α) : Reading (List α)
| path, .value (.arr es) =>
    Checked.each
      (fun (e, i) =>
        read (path ++ [.position (i : Nat)]) (.value e))
      es.zipIdx
| path, found => Checked.fault path .notList found

/-
  The step of a path into the value of a key.  A whole number
  is a position as long as it fits a signed word of 64 bits;
  a key that is neither text nor position is named as it is
  described.
-/
def keyStep : Json → Step
| .str s => .name s
| .int n =>
    if -Int.pow 2 63 ≤ n ∧ n < Int.pow 2 63 then .position n
    else .name (Json.int n).described
| .bool b => .position (if b then 1 else 0)
| v => .name v.described

/- Read one entry of a map of texts. -/
def readEntry
    (path : List Step)
    (e : Json × Json) : Checked (String × String) :=
  let here := path ++ [keyStep e.1]
  Prod.mk
    <$> readText (here ++ [.name "[key]"]) (.value e.1)
    <*> readText here (.value e.2)

/- Read a map of texts. -/
def readMap : Reading (Table String)
| path, .value (.obj ms) =>
    Checked.each (readEntry path)
      (ms.map fun m => (.str m.1, m.2))
| path, .entries es => Checked.each (readEntry path) es
| path, found => Checked.fault path .notMap found

end Record

------------------------------------------------------------
-- Reading Fields
------------------------------------------------------------

namespace Record

/- The fields that a record is read from. -/
abbrev Draft := Table Input

/- The members of an object as fields. -/
def Draft.ofMembers (ms : Json.Members) : Draft :=
  ms.map fun m => (m.1, .value m.2)

/- A field and the other name it goes by outside. -/
structure Field where
  name : String
  outer : String

/- A field with one name. -/
def Field.plain (name : String) : Field :=
  ⟨name, name⟩

/-
  What is found for a field, and under which of its names.
  The outside name wins.
-/
def Draft.find
    (d : Draft)
    (f : Field) : Option (String × Input) :=
  match Table.lookup f.outer d with
  | some found => some (f.outer, found)
  | none =>
      (Table.lookup f.name d).map fun found =>
        (f.name, found)

/- Read a field that must be there. -/
def required
    {α : Type}
    (path : List Step)
    (d : Draft)
    (f : Field)
    (read : Reading α) : Checked α :=
  match d.find f with
  | some (name, found) =>
      read (path ++ [.name name]) found
  | none =>
      .faulty [⟨path ++ [.name f.outer], .missing, none⟩]

/- Read a field that has a default. -/
def withDefault
    {α : Type}
    (path : List Step)
    (d : Draft)
    (f : Field)
    (read : Reading α)
    (default : α) : Checked α :=
  match d.find f with
  | some (name, found) =>
      read (path ++ [.name name]) found
  | none => .valid default

/- Read a record inside another from its members. -/
def readRecord
    {α : Type}
    (record : String)
    (check : List Step → Draft → Checked α) : Reading α
| path, .value (.obj ms) => check path (Draft.ofMembers ms)
| path, found =>
    Checked.fault path (.notRecord record) found

end Record

------------------------------------------------------------
-- Finished Records
------------------------------------------------------------

namespace Record

/-
  Change fields of a finished record.  The first change is
  a fault already.
-/
def assign : Json.Members → Checked Unit
| [] => .valid ()
| (name, v) :: _ =>
    Checked.fault [.name name] .fixed (.value v)

end Record

end EventTopology
