import EventTopology.Metrics.Registry
import EventTopology.Service.Backend

/-
  This file defines a service that builds meshes on behalf
  of callers, and the ledger that it keeps: which tokens it
  asked clusters for, how many clusters it opened and closed
  again, and what it measured.

  Key definitions include:
    * `Ledger`
    * `Service`
    * `Service.build`
    * `Service.health`
-/

------------------------------------------------------------
-- Ledgers
------------------------------------------------------------

namespace EventTopology

/- What a service remembers between calls. -/
structure Ledger (ω : Type) where
  world : ω
  /- What was measured, if anything is. -/
  registry : Option Registry := some {}
  /- The tokens that clusters were asked for with. -/
  tokens : List (Option String) := []
  opened : Nat := 0
  closed : Nat := 0

namespace Ledger

variable {ω : Type}

/- Measure something. -/
def measure
    (l : Ledger ω)
    (f : Registry → Registry) : Ledger ω :=
  { l with registry := l.registry.map f }

end Ledger

------------------------------------------------------------
-- Services
------------------------------------------------------------

/- A service over a backend. -/
structure Service (ω σ : Type) where
  backend : Backend ω σ
  plan : Plan := {}

/- An outcome, the next ledger, and the events on the way. -/
structure Service.Answer (ω α : Type) where
  outcome : Except Failure α
  ledger : Ledger ω
  events : List Log.Event := []

namespace Service

variable {ω σ α : Type}

/- Ask for a cluster with a token. -/
def openFor
    (s : Service ω σ)
    (token : Option String)
    (l : Ledger ω) : Except Failure σ × Ledger ω :=
  let asked := { l with tokens := l.tokens ++ [token] }
  match s.backend.lend token l.world with
  | (.ok c, w) =>
      (.ok c, { asked with world := w, opened := l.opened + 1 })
  | (.error f, w) => (.error f, { asked with world := w })

/-
  Close a cluster and give it back.  It counts as closed
  even if closing it fails.
-/
def close
    (s : Service ω σ)
    (c : σ)
    (l : Ledger ω) : Except Failure Unit × Ledger ω :=
  let (outcome, c) := s.backend.cluster.close c
  (outcome,
    { l with
      world := s.backend.giveBack c l.world
      closed := l.closed + 1 })

/-
  The outcome of a call whose cluster is closed after it.  A
  failure to close it takes the place of any other outcome.
-/
def settle
    (outcome : Except Failure α) :
    Except Failure Unit → Except Failure α
| .ok () => outcome
| .error f => .error f

/-
  Record a build that was started and what it skipped.  A
  mesh does not count if its cluster cannot be closed.
-/
def record
    (outcome : Except Failure Mesh)
    (closing : Except Failure Unit)
    (skips : List SkipReason)
    (duration : Amount)
    (l : Ledger ω) : Ledger ω :=
  l.measure fun r =>
    let r := r.recordSkips skips
    match outcome, closing with
    | .ok mesh, .ok () =>
        (r.recordBuild "success" duration).setEntities
          mesh.counts
    | .ok _, .error _ => r
    | .error _, _ => r.recordBuild "error" duration

/-
  Build a mesh as the owner of a token.  The cluster is
  closed whether the build succeeds or not.  A cluster that
  cannot be had is no failed build.
-/
def build
    (s : Service ω σ)
    (token : Option String)
    (duration : Amount)
    (l : Ledger ω) : Answer ω Mesh :=
  match s.openFor token l with
  | (.error f, l) => ⟨.error f, l, []⟩
  | (.ok c, l) =>
      let (outcome, run) := s.plan.run s.backend.cluster c
      let (closing, l) := s.close run.state l
      ⟨settle outcome closing,
        record outcome closing run.skips duration l,
        run.events⟩

/- Probe the cluster with the service's own credentials. -/
def health
    (s : Service ω σ)
    (l : Ledger ω) : Answer ω Json :=
  match s.openFor none l with
  | (.error f, l) => ⟨.error f, l, []⟩
  | (.ok c, l) =>
      let a := s.backend.cluster.health c
      let (closing, l) := s.close a.state l
      ⟨settle a.outcome closing, l, a.events⟩

end Service

end EventTopology
