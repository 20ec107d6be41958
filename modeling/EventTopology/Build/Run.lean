import EventTopology.Cluster.Cluster

/-
  This file defines the steps of a build.  A step may fail;
  whether it does or not, it leaves a run behind, which
  records what was asked, told and skipped.

  Key definitions include:
    * `SkipReason`
    * `Run`
    * `Build`
    * `Build.attempt`
    * `Build.list`
-/

------------------------------------------------------------
-- Runs
------------------------------------------------------------

namespace EventTopology

/- Why a build goes on without an item. -/
inductive SkipReason where
/- The types that a source kind declares cannot be read. -/
| declaration
/- The identity of a subscriber cannot be looked up. -/
| lookup
deriving DecidableEq, Repr

/- The name that a reason is counted under. -/
def SkipReason.name : SkipReason → String
| .declaration => "declaration_parse_error"
| .lookup => "identity_lookup_error"

/- What a build leaves behind, all in order. -/
structure Run (σ : Type) where
  state : σ
  requests : List Request := []
  events : List Log.Event := []
  skips : List SkipReason := []

/- A step of a build over a cluster with states `σ`. -/
abbrev Build (σ : Type) := ExceptT Failure (StateM (Run σ))

------------------------------------------------------------
-- Steps
------------------------------------------------------------

namespace Build

variable {σ α : Type}

/- An outcome as a step. -/
def ofExcept (e : Except Failure α) : Build σ α :=
  ExceptT.mk (pure e)

/- Tell an event. -/
def tell (e : Log.Event) : Build σ Unit :=
  modify fun run =>
    { run with events := run.events ++ [e] }

/- Tell events in order. -/
def tellAll (es : List Log.Event) : Build σ Unit :=
  modify fun run => { run with events := run.events ++ es }

/- Note that an item is skipped. -/
def skip (r : SkipReason) : Build σ Unit :=
  modify fun run => { run with skips := run.skips ++ [r] }

/- Ask a cluster.  Its failure does not end the build. -/
def attempt
    (c : Cluster σ)
    (r : Request) : Build σ (Except Failure Json) :=
  modifyGet fun run =>
    let a := c.answer r run.state
    (a.outcome,
      { run with
        state := a.state
        requests := run.requests ++ [r]
        events := run.events ++ a.events })

/-
  A listing that the build cannot do without.  One that does
  not exist is empty.
-/
def list
    (c : Cluster σ)
    (name : String)
    (r : Request) : Build σ (List Json) := do
  match ← attempt c r with
  | .ok v => ofExcept (Failure.ofShape v.iterate)
  | .error (.cluster (.notFound _)) =>
      tell (.listingNotFound name)
      return []
  | .error (.cluster e) =>
      tell (.listingFailed name e.message)
      throw (.listing name e)
  | .error f => throw f

end Build

end EventTopology
