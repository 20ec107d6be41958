import EventTopology.Proofs.Build.Phases
import EventTopology.Proofs.Resource.Coordinates

/-
  This file shows what a build discovers: the kinds of the
  listed definitions in their order, or why the first of
  them that cannot be resolved is not.

  Key definitions include:
    * `Discovery.FollowsListing`

  The main results are:
    * `Discovery.exec_discover`
    * `Discovery.follows_of_listed`
-/

------------------------------------------------------------
-- Definitions in Order
------------------------------------------------------------

namespace EventTopology

namespace Discovery

open Build

variable {σ : Type}

/-
  An outcome follows a listing of definitions: it has the
  coordinates of each in order, or it is the failure of one
  that only resolvable ones stand before.
-/
def FollowsListing
    (raws : List Json)
    (o : Except Failure (List KindCoordinates)) : Prop :=
  o.Ends
    (List.Forall₂ (fun raw coords =>
      Definition.coordinates raw = .ok coords) raws)
    fun f => ∃ before raw after,
      raws = before ++ raw :: after ∧
      (∀ raw' ∈ before, ∃ coords,
        Definition.coordinates raw' = .ok coords) ∧
      Definition.coordinates raw = .error f

/- All that counts for discovery is what is listed. -/
theorem exec_discover
    (c : Cluster σ)
    (tag : String)
    (run : Run σ)
    {raws : List Json}
    (hListed :
      listed? (c.answer (.definitions tag)
        run.state).outcome = some raws) :
    (exec (discover c tag) run).1 =
      raws.mapM Definition.coordinates := by
  rw [discover_eq, exec_bind, exec_attempt]
  rcases exec_hear tag hListed
    { run with
      state := (c.answer (.definitions tag) run.state).state
      requests := run.requests ++ [.definitions tag]
      events := run.events ++
        (c.answer (.definitions tag) run.state).events } with
    ⟨events, hExec⟩
  exact congrArg Prod.fst hExec

/-
  Whatever else happens in a build, discovery follows the
  listing of the definitions, and each of them is resolved
  by its outline alone.
-/
theorem follows_of_listed
    (c : Cluster σ)
    (tag : String)
    (run : Run σ)
    {raws : List Json}
    (hListed :
      listed? (c.answer (.definitions tag)
        run.state).outcome = some raws)
    (hShapes : ∀ raw ∈ raws, Definition.outlineShape raw) :
    FollowsListing raws (exec (discover c tag) run).1 ∧
      ∀ raw ∈ raws, Definition.Resolves raw := by
  refine ⟨?_, fun raw hMem =>
    Definition.resolves_of_shape (hShapes raw hMem)⟩
  rw [exec_discover c tag run hListed]
  exact Except.mapM_ends_first _ _

end Discovery

------------------------------------------------------------
-- Definitions with Versions of Any Kind
------------------------------------------------------------

namespace Shop

/- A definition of channels with a list of versions. -/
def versioned (group : String) (versions : List Json) : Json :=
  .obj
    [("metadata",
       .obj [("name", .str ("channels." ++ group))]),
     ("spec",
       .obj
         [("group", .str group), ("version", .str "v0"),
          ("names", .obj [("plural", .str "channels")]),
          ("versions", .arr versions)])]

/- Versions that only look as if they were served. -/
def unserved : List Json :=
  [.null, .int 7, .str "v1", .arr [.bool true],
   .obj [("name", .str "v1"), ("served", .int 1)],
   .obj [("name", .str "v1"), ("served", .str "true")],
   .obj [("served", .bool true)],
   .obj [("name", .str ""), ("served", .bool true)]]

/- A version that is served. -/
def version (name : String) : Json :=
  .obj [("name", .str name), ("served", .bool true)]

/-
  The first definition has served versions, the second has
  no list of them, and the third has none that is served.
-/
def definitions : List Json :=
  [versioned "shop.dev"
     (unserved ++ [version "v2", version "v1"]),
   versioned "lab.dev" [],
   versioned "old.dev" unserved,
   versioned "" []]

end Shop

namespace Discovery

open Build

/- The first two are resolved, and the third one is not. -/
theorem follows_versions :
    let raws := Shop.definitions
    let c := Cluster.ofTable fun _ => .ok (.arr raws)
    let run : Run Unit := { state := () }
    let o := (exec (discover c "events") run).1
    listed? (c.answer (.definitions "events")
      run.state).outcome = some raws ∧
    (∀ raw ∈ raws, Definition.outlineShape raw) ∧
    (raws.filterMap fun raw =>
      (Definition.coordinates raw).toOption.map
        (·.version)) = ["v2", "v0"] ∧
    o = .error (.notServed (.str "channels.old.dev")) ∧
    FollowsListing raws o ∧
    ∀ raw ∈ raws, Definition.Resolves raw := by
  intro raws c run o
  have hShapes : ∀ raw ∈ raws, Definition.outlineShape raw := by
    decide +kernel
  exact ⟨rfl, hShapes, by decide +kernel, by rfl,
    follows_of_listed c "events" run rfl hShapes⟩

end Discovery

end EventTopology
