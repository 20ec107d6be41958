import EventTopology.Client.Session
import EventTopology.Cluster.Snapshot
import EventTopology.Settings.Basic

/-
  This file defines where a service gets its clusters: from
  one store for everybody, or from a session for each caller
  over a configuration that is loaded once.

  Key definitions include:
    * `Backend`
    * `Backend.ofStore`
    * `Backend.failing`
    * `Backend.ofLibrary`
    * `Provision`
    * `Provision.ofSettings`
-/

------------------------------------------------------------
-- Backends
------------------------------------------------------------

namespace EventTopology

/-
  Where clusters with states `σ` come from.  A cluster is
  lent to the owner of a token and given back when it is
  closed; the world `ω` is what remains in between.
-/
structure Backend (ω σ : Type) where
  cluster : Cluster σ
  lend : Option String → ω → Except Failure σ × ω
  giveBack : σ → ω → ω

namespace Backend

/- The same store for everybody. -/
def ofStore : Backend Store Store where
  cluster := Store.cluster
  lend _ w := (.ok w, w)
  giveBack s _ := s

/- A store that cannot be lent, for a reason in words. -/
def failing (words : String) : Backend Store Store :=
  { ofStore with
    lend := fun _ w => (.error (.collaborator words), w) }

end Backend

------------------------------------------------------------
-- Loading Configurations
------------------------------------------------------------

/- From where a configuration is loaded. -/
inductive Loading where
/- From the account that a pod runs under. -/
| inCluster
/- From a file, or the usual one if none is named. -/
| kubeconfig (path : Option String)
deriving DecidableEq, Repr

namespace Loading

/- The loading that settings ask for. -/
def ofSettings (s : Settings) : Loading :=
  if s.inCluster then .inCluster else .kubeconfig s.kubeconfig

end Loading

/- What remains between uses of a client library. -/
structure Pool where
  /- The shared configuration, once it is loaded. -/
  shared : Option Configuration := none
  /- What was loaded, in order. -/
  loads : List Loading := []
  /- The sessions that were given back. -/
  past : List Session := []

namespace Pool

/- The shared configuration, loaded on first use. -/
def configuration
    (load : Loading → Except Failure Configuration)
    (loading : Loading)
    (p : Pool) : Except Failure Configuration × Pool :=
  match p.shared with
  | some c => (.ok c, p)
  | none =>
      let p := { p with loads := p.loads ++ [loading] }
      match load loading with
      | .ok c => (.ok c, { p with shared := some c })
      | .error f => (.error f, p)

/- A session for the owner of a token. -/
def lend
    (load : Loading → Except Failure Configuration)
    (loading : Loading)
    (eventTypesVersion : String)
    (token : Option String)
    (p : Pool) : Except Failure Session × Pool :=
  match p.configuration load loading with
  | (.ok c, p) =>
      (.ok (Session.start c token eventTypesVersion), p)
  | (.error f, p) => (.error f, p)

end Pool

namespace Backend

/- A session over a library for each caller. -/
def ofLibrary
    (lib : Client.Library)
    (load : Loading → Except Failure Configuration)
    (s : Settings) : Backend Pool Session where
  cluster := Session.cluster lib
  lend := Pool.lend load (.ofSettings s) s.eventTypesVersion
  giveBack session p :=
    { p with past := p.past ++ [session] }

end Backend

------------------------------------------------------------
-- Provisions
------------------------------------------------------------

/- What settings provide a service with. -/
inductive Provision where
| store (s : Store)
| sessions

namespace Provision

open Log (Event)

/- The contents of a file. -/
def contents
    (files : String → Option ByteArray)
    (path : String) : Except Failure ByteArray :=
  match files path with
  | some bytes => .ok bytes
  | none => .error (.noFile path)

/-
  What settings provide, given the contents of files.  The
  memory source without a snapshot serves nothing.
-/
def ofSettings
    (files : String → Option ByteArray)
    (s : Settings) :
    Except Failure (Provision × List Event) := do
  match s.clusterSource with
  | .kubernetes =>
      return (.sessions, [.clientSelected s.inCluster])
  | .memory =>
      match s.snapshot with
      | none | some "" =>
          return (.store {}, [.snapshotMissing, .memorySelected])
      | some path =>
          let (found, events) ←
            Snapshot.read path (← contents files path)
          return (.store found, events ++ [.memorySelected])

end Provision

end EventTopology
