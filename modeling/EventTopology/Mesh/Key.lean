import EventTopology.Text.Split
import EventTopology.Text.Quoted
import EventTopology.Json.Shape

/-
  This file defines the keys under which records are
  indexed: `namespace/name` for what a namespace holds, and
  `group/kind/namespace/name` for what may be of any kind.

  Key definitions include:
    * `Key.namespaced`
    * `Key.qualified`
    * `Key.parseNamespaced`
    * `Key.parseQualified`
    * `Key.groupOf`
-/

------------------------------------------------------------
-- Rendering Keys
------------------------------------------------------------

namespace EventTopology

namespace Key

/- The key of a name in a namespace. -/
def namespaced (ns name : String) : String :=
  ns ++ "/" ++ name

/- The key of a resource of any group and kind. -/
def qualified (group kind ns name : String) : String :=
  group ++ "/" ++ kind ++ "/" ++ ns ++ "/" ++ name

end Key

------------------------------------------------------------
-- Reading Keys
------------------------------------------------------------

namespace Key

/- A text that is not a key of the form asked for. -/
inductive Fault where
| notNamespaced (key : String)
| notQualified (key : String)
deriving DecidableEq, Repr

/- What is wrong with a key, in words. -/
def Fault.message : Fault → String
| .notNamespaced key =>
    "invalid namespaced name: " ++ Text.quoted key
| .notQualified key =>
    "invalid group/kind/namespace/name: " ++ Text.quoted key

/- The two parts of a namespaced key. -/
def parseNamespaced
    (key : String) : Except Fault (String × String) :=
  match Text.splitOn '/' key with
  | [ns, name] => .ok (ns, name)
  | _ => .error (.notNamespaced key)

/- The four parts of a qualified key. -/
def parseQualified
    (key : String) :
    Except Fault (String × String × String × String) :=
  match Text.splitOn '/' key with
  | [group, kind, ns, name] => .ok (group, kind, ns, name)
  | _ => .error (.notQualified key)

end Key

------------------------------------------------------------
-- API Versions
------------------------------------------------------------

namespace Key

/-
  The group of an API version: the text before the first
  slash, or all of it when there is none.
-/
def groupOf (apiVersion : String) : String :=
  match Text.splitOnce '/' apiVersion with
  | none => apiVersion
  | some (group, _) => group

/-
  The group of a served resource.  Core resources have a
  version without a slash and live in the empty group.
-/
def resourceGroupOf (apiVersion : String) : String :=
  match Text.splitOnce '/' apiVersion with
  | none => ""
  | some (group, _) => group

/-
  The group of an untyped API version.  A value in which no
  slash is found is its own group.
-/
def groupOfValue
    (v : Json) : Except Json.ShapeFault Json := do
  if ← v.contains "/" then
    match v with
    | .str s => return .str (groupOf s)
    | v => throw (.noOperation v.kind "split")
  else return v

/- The group of a resource under an untyped API version. -/
def resourceGroupOfValue
    (v : Json) : Except Json.ShapeFault String := do
  if ← v.contains "/" then
    match v with
    | .str s => return groupOf s
    | v => throw (.noOperation v.kind "split")
  else return ""

end Key

end EventTopology
