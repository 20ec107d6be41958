import EventTopology.Mesh.Document

/-
  This file defines what a cluster is asked about: the
  coordinates of a discovered kind, references to any
  resource, and subscriptions, which bind a provider to a
  subscriber.

  Key definitions include:
    * `KindCoordinates`
    * `ObjectReference`
    * `Subscription`
    * `Subscription.receives`
-/

------------------------------------------------------------
-- Kind Coordinates
------------------------------------------------------------

namespace EventTopology

/- Where the instances of a discovered kind are listed. -/
structure KindCoordinates where
  /- The name of the schema definition. -/
  definition : String
  group : String
  version : String
  /- The plural name of the resource. -/
  resource : String
  kind : String := ""
  annotations : Labels := []
deriving DecidableEq, Repr

namespace KindCoordinates

open Record

/- The name that faults give to coordinates. -/
def recordName : String := "KindCoordinates"

/- The name of the kind in the log. -/
def resourceName (c : KindCoordinates) : String :=
  c.resource ++ "." ++ c.group

/- The name of the listing of the kind's instances. -/
def listing (c : KindCoordinates) : String :=
  c.resourceName ++ "/" ++ c.version

/- The JSON object of coordinates. -/
def toJson (c : KindCoordinates) : Json :=
  .obj
    [("definition", .str c.definition),
     ("group", .str c.group),
     ("version", .str c.version),
     ("resource", .str c.resource),
     ("kind", .str c.kind),
     ("annotations",
       Mesh.labelsJson (some c.annotations))]

/- Read coordinates from fields. -/
def check
    (path : List Step)
    (d : Draft) : Checked KindCoordinates :=
  KindCoordinates.mk
    <$> required path d (.plain "definition") readText
    <*> required path d (.plain "group") readText
    <*> required path d (.plain "version") readText
    <*> required path d (.plain "resource") readText
    <*> withDefault path d (.plain "kind") readText ""
    <*> withDefault path d (.plain "annotations") readMap []

end KindCoordinates

------------------------------------------------------------
-- References to Any Resource
------------------------------------------------------------

/- A versioned reference, by which subscribers are found. -/
structure ObjectReference where
  apiVersion : String
  kind : String
  ns : String
  name : String
deriving DecidableEq, Repr

namespace ObjectReference

open Record

/- The name that faults give to these references. -/
def recordName : String := "ObjectReference"

/- The group; core resources live in the empty one. -/
def group (r : ObjectReference) : String :=
  Key.resourceGroupOf r.apiVersion

/- The key of the resource that is referred to. -/
def key (r : ObjectReference) : String :=
  Key.qualified r.group r.kind r.ns r.name

/- The JSON object of a reference. -/
def toJson (r : ObjectReference) : Json :=
  .obj
    [("api_version", .str r.apiVersion),
     ("kind", .str r.kind),
     ("namespace", .str r.ns),
     ("name", .str r.name)]

/- Read a reference from fields. -/
def check
    (path : List Step)
    (d : Draft) : Checked ObjectReference :=
  ObjectReference.mk
    <$> required path d (.plain "api_version") readText
    <*> required path d (.plain "kind") readText
    <*> required path d (.plain "namespace") readText
    <*> required path d (.plain "name") readText

end ObjectReference

------------------------------------------------------------
-- Subscriptions
------------------------------------------------------------

/-
  A subscriber of a provider.  Triggers subscribe to brokers
  and may filter by type; channel subscriptions receive all
  that their channel carries.
-/
structure Subscription where
  name : String
  ns : String
  origin : String := "Trigger"
  /- The key of the provider. -/
  target : Option String := none
  subscriber : Option ObjectReference := none
  typeFilter : Option String := none
deriving DecidableEq, Repr

namespace Subscription

open Record

/- The name that faults give to subscriptions. -/
def recordName : String := "Subscription"

/- Does a subscription receive every type? -/
def matchesAnyType (s : Subscription) : Bool :=
  match s.typeFilter with
  | none => true
  | some t => t = ""

/- Does a subscription receive events of a type? -/
def receives (s : Subscription) (type : String) : Bool :=
  s.matchesAnyType || s.typeFilter = some type

/- The JSON object of a subscription. -/
def toJson (s : Subscription) : Json :=
  .obj
    [("name", .str s.name),
     ("namespace", .str s.ns),
     ("origin", .str s.origin),
     ("target", .ofText? s.target),
     ("subscriber",
       (s.subscriber.map (·.toJson)).getD .null),
     ("type_filter", .ofText? s.typeFilter)]

/- Read a subscription from fields. -/
def check
    (path : List Step)
    (d : Draft) : Checked Subscription :=
  Subscription.mk
    <$> required path d (.plain "name") readText
    <*> required path d (.plain "namespace") readText
    <*> withDefault path d (.plain "origin") readText
          "Trigger"
    <*> withDefault path d (.plain "target")
          (orNull readText) none
    <*> withDefault path d (.plain "subscriber")
          (orNull
            (readRecord ObjectReference.recordName
              ObjectReference.check))
          none
    <*> withDefault path d (.plain "type_filter")
          (orNull readText) none

end Subscription

end EventTopology
