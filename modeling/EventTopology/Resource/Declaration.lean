import EventTopology.Json.Reader
import EventTopology.Resource.Conversion

/-
  This file defines the declarations in which source kinds
  list the event types they emit: a JSON array of objects in
  an annotation of the schema definition.

  Key definitions include:
    * `Declaration.Entry`
    * `Declaration.typeOf`
    * `Declaration.types`
    * `Conversion.declaredTypes`
-/

------------------------------------------------------------
-- Declared Event Types
------------------------------------------------------------

namespace EventTopology

namespace Declaration

/- One declared event type. -/
structure Entry where
  type : String
  schema : Option String := none
  description : Option String := none
deriving DecidableEq, Repr

end Declaration

------------------------------------------------------------
-- Reading Declarations
------------------------------------------------------------

namespace Declaration

/-
  The type that one object declares.  All that is read in the
  strict dialect has a text.
-/
def typeOf (ms : Json.Members) : String :=
  ((Json.find "type" ms).orElse (.str "")).text

/- The types that an array declares. -/
def typesOf : List Json → Option (List String)
| [] => some []
| .obj ms :: es => (typesOf es).map (typeOf ms :: ·)
| _ :: _ => none

/- The types that the text of an annotation declares. -/
def types
    (written : String) :
    Except DeclarationFault (List String) :=
  match Json.read? .strict written with
  | none => .error .notJson
  | some (.arr es) =>
      match typesOf es with
      | none => .error .notObjects
      | some ts => .ok ts
  | some _ => .error .notObjects

end Declaration

namespace Conversion

/-
  The event types that a kind declares; none without the
  annotation.
-/
def declaredTypes
    (c : Conversion)
    (coords : KindCoordinates) :
    Except Failure (List String) :=
  match Table.lookup c.declaredUnder
      coords.annotations with
  | none => .ok []
  | some written =>
      match Declaration.types written with
      | .ok ts => .ok ts
      | .error fault =>
          .error (.declaration coords.definition fault)

end Conversion

end EventTopology
