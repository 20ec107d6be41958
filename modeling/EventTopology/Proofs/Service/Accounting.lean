import EventTopology.Proofs.Metrics.Samples
import EventTopology.Proofs.Service.Calling

/-
  This file shows that a service keeps account of its calls,
  however they end.  Every cluster that it has is closed
  once, and what it shows of its builds is the number of
  those that gave a mesh, of those that failed, and the
  sizes of the last mesh.

  Key definitions include:
    * `Service.Call`
    * `Service.Result`
    * `Service.Step`
    * `Service.steps`
    * `Service.Step.Settled`
    * `Ledger.Accounts`

  The main results are:
    * `Service.settled_step`
    * `Service.balances_step`
    * `Service.accounts_of_calls`
-/

------------------------------------------------------------
-- Clusters in Use
------------------------------------------------------------

namespace EventTopology

/-
  A cluster gets from one state to another by being asked
  and probed, and in no other way.
-/
inductive Cluster.Reaches
    {σ : Type}
    (c : Cluster σ)
    (s : σ) : σ → Prop where
| start : c.Reaches s s
| asked (r : Request) {t : σ} :
    c.Reaches s t → c.Reaches s (c.answer r t).state
| probed {t : σ} :
    c.Reaches s t → c.Reaches s (c.health t).state

/- Closing a cluster never fails. -/
def Cluster.Closes
    {σ : Type}
    (c : Cluster σ) : Prop :=
  ∀ s, (c.close s).1 = .ok ()

/- What is asked in order leads on. -/
theorem Cluster.reaches_after
    {σ : Type}
    (c : Cluster σ)
    (s : σ)
    (rs : List Request) :
    c.Reaches s (c.after s rs) :=
  after_induction (fun r _ hReaches => hReaches.asked r)
    .start rs

------------------------------------------------------------
-- Calls and Results
------------------------------------------------------------

namespace Service

variable {ω σ : Type}

/- What a service is called for. -/
inductive Call where
| build (token : Option String) (duration : Amount)
| health

/- The token that a cluster is asked for with. -/
def Call.token : Call → Option String
| .build token _ => token
| .health => none

/- What comes of a call. -/
inductive Result where
/- There is no cluster to be had. -/
| refused (f : Failure)
/- A build with a cluster gives no mesh. -/
| failed (f : Failure)
| returned (m : Mesh)
| probed (outcome : Except Failure Json)

namespace Result

/- Is there a cluster? -/
def isServed : Result → Bool
| .refused _ => false
| _ => true

/- Is there a cluster, but no mesh? -/
def isFailed : Result → Bool
| .failed _ => true
| _ => false

/- The mesh that is returned, if there is one. -/
def mesh? : Result → Option Mesh
| .returned m => some m
| _ => none

end Result

/- What comes of a call, by whether there is a cluster. -/
def result
    (s : Service ω σ)
    (l : Ledger ω)
    (call : Call) : Result :=
  match (s.backend.lend call.token l.world).1, call with
  | .error f, _ => .refused f
  | .ok _, .build token duration =>
      match (s.build token duration l).outcome with
      | .ok m => .returned m
      | .error f => .failed f
  | .ok _, .health => .probed (s.health l).outcome

/- The ledger that a call leaves. -/
def ledgerOf
    (s : Service ω σ)
    (l : Ledger ω) : Call → Ledger ω
| .build token duration => (s.build token duration l).ledger
| .health => (s.health l).ledger

/- A call, what comes of it, and the ledgers around it. -/
structure Step (ω : Type) where
  call : Call
  result : Result
  before : Ledger ω
  after : Ledger ω

/- Make one call. -/
def step
    (s : Service ω σ)
    (l : Ledger ω)
    (call : Call) : Step ω where
  call := call
  result := s.result l call
  before := l
  after := s.ledgerOf l call

/- Make calls in order, each with the ledger left. -/
def steps
    (s : Service ω σ)
    (l : Ledger ω) : List Call → List (Step ω)
| [] => []
| call :: calls =>
    s.step l call :: s.steps (s.ledgerOf l call) calls

/- The ledger that calls leave. -/
def ledgerAfter
    (s : Service ω σ)
    (l : Ledger ω) : List Call → Ledger ω
| [] => l
| call :: calls => s.ledgerAfter (s.ledgerOf l call) calls

end Service

------------------------------------------------------------
-- Single Calls
------------------------------------------------------------

namespace Service

variable {ω σ : Type}

/-
  A cluster that is had is only asked and probed until it is
  closed, once, and given back.  Without one, nothing but
  the world changes, and that only by asking for a cluster.
-/
def Step.Settled
    (s : Service ω σ)
    (e : Step ω) : Prop :=
  match e.result with
  | .refused f => s.Refuses e.call.token e.before f e.after
  | _ => ∃ c c', s.backend.cluster.Reaches c c' ∧
      s.Serves e.call.token e.before c c' e.after

/- What is recorded of a call. -/
def Step.Recorded (e : Step ω) : Prop :=
  match e.result with
  | .refused _ => e.after.registry = e.before.registry
  | .probed _ => e.after.registry = e.before.registry
  | .failed _ => ∃ skips duration,
      e.after.registry = e.before.registry.map fun r =>
        (r.recordSkips skips).recordBuild "error" duration
  | .returned m => ∃ skips duration,
      e.after.registry = e.before.registry.map fun r =>
        ((r.recordSkips skips).recordBuild "success"
          duration).setEntities m.counts

variable (s : Service ω σ) (l : Ledger ω)

/- A call without a cluster is refused. -/
theorem result_of_refuses
    (call : Call)
    {f : Failure}
    {l' : Ledger ω}
    (hRefuses : s.Refuses call.token l f l') :
    s.result l call = .refused f := by
  simp only [result, hRefuses.lend]

/- With a cluster, the outcome of a build decides. -/
theorem result_build_of_serves
    {token : Option String}
    {c c' : σ}
    {l' : Ledger ω}
    (hServes : s.Serves token l c c' l')
    (duration : Amount) :
    s.result l (.build token duration) =
      match (s.build token duration l).outcome with
      | .ok m => .returned m
      | .error f => .failed f := by
  rcases hServes.world with ⟨w, hLend, _⟩
  simp only [result, Call.token, hLend]

theorem result_health_of_serves
    {c c' : σ}
    {l' : Ledger ω}
    (hServes : s.Serves none l c c' l') :
    s.result l .health = .probed (s.health l).outcome := by
  rcases hServes.world with ⟨w, hLend, _⟩
  simp only [result, Call.token, hLend]

/- Every build is settled, however it ends. -/
theorem settled_build
    (token : Option String)
    (duration : Amount) :
    (s.step l (.build token duration)).Settled s := by
  unfold Step.Settled step
  rcases s.build_cases token duration l with
    ⟨f, _, hRefuses⟩ |
      ⟨c, outcome, run, _, hState, hServes, _, _⟩
  · rw [s.result_of_refuses l (.build token duration)
      hRefuses]
    exact hRefuses
  · have hReaches :
        s.backend.cluster.Reaches c run.state := by
      rw [hState]
      exact s.backend.cluster.reaches_after c run.requests
    rw [s.result_build_of_serves l hServes]
    cases (s.build token duration l).outcome <;>
      exact ⟨c, run.state, hReaches, hServes⟩

/- It is recorded as it ends if its cluster is closed. -/
theorem recorded_build
    (hCloses : s.backend.cluster.Closes)
    (token : Option String)
    (duration : Amount) :
    (s.step l (.build token duration)).Recorded := by
  unfold Step.Recorded step
  rcases s.build_cases token duration l with
    ⟨f, _, hRefuses⟩ |
      ⟨c, outcome, run, _, _, hServes, hOutcome, hRegistry⟩
  · rw [s.result_of_refuses l (.build token duration)
      hRefuses]
    exact hRefuses.registry
  · rw [hCloses run.state] at hOutcome hRegistry
    rw [s.result_build_of_serves l hServes, hOutcome]
    cases outcome with
    | ok m => exact ⟨run.skips, duration, hRegistry⟩
    | error f => exact ⟨run.skips, duration, hRegistry⟩

/- A probe is settled too, and nothing is recorded of it. -/
theorem settled_health :
    (s.step l .health).Settled s ∧
      (s.step l .health).Recorded := by
  unfold Step.Settled Step.Recorded step
  rcases s.health_cases l with
    ⟨f, _, hRefuses⟩ | ⟨c, _, hServes, hRegistry⟩
  · rw [s.result_of_refuses l .health hRefuses]
    exact ⟨hRefuses, hRefuses.registry⟩
  · rw [s.result_health_of_serves l hServes]
    exact ⟨⟨c, _, .probed .start, hServes⟩, hRegistry⟩

theorem settled_step (call : Call) :
    (s.step l call).Settled s := by
  cases call with
  | build token duration =>
      exact s.settled_build l token duration
  | health => exact (s.settled_health l).1

theorem recorded_step
    (hCloses : s.backend.cluster.Closes)
    (call : Call) :
    (s.step l call).Recorded := by
  cases call with
  | build token duration =>
      exact s.recorded_build l hCloses token duration
  | health => exact (s.settled_health l).2

variable {s : Service ω σ} {e : Step ω}

/- What is had of clusters is closed, and that is all. -/
theorem Step.Settled.counts (hSettled : e.Settled s) :
    let had := if e.result.isServed then 1 else 0
    e.after.opened = e.before.opened + had ∧
      e.after.closed = e.before.closed + had := by
  unfold Step.Settled at hSettled
  cases hResult : e.result with
  | refused f =>
      rw [hResult] at hSettled
      exact ⟨hSettled.opened, hSettled.closed⟩
  | _ =>
      rw [hResult] at hSettled
      rcases hSettled with ⟨c, c', _, hServes⟩
      exact ⟨hServes.opened, hServes.closed⟩

/- What is recorded of a call keeps the tallies right. -/
theorem Step.Recorded.tallies
    {r : Registry}
    {meshes : List Mesh}
    {failures : Nat}
    (hRecorded : e.Recorded)
    (hSome : e.before.registry = some r)
    (hTallies : r.Tallies meshes failures) :
    ∃ r', e.after.registry = some r' ∧
      r'.Tallies (meshes ++ e.result.mesh?.toList)
        (failures + if e.result.isFailed then 1 else 0) := by
  unfold Step.Recorded at hRecorded
  cases hResult : e.result with
  | refused f =>
      rw [hResult] at hRecorded
      refine ⟨r, hRecorded.trans hSome, ?_⟩
      simpa [Result.mesh?, Result.isFailed] using hTallies
  | probed outcome =>
      rw [hResult] at hRecorded
      refine ⟨r, hRecorded.trans hSome, ?_⟩
      simpa [Result.mesh?, Result.isFailed] using hTallies
  | failed f =>
      rw [hResult] at hRecorded
      rcases hRecorded with ⟨skips, duration, hRegistry⟩
      rw [hSome] at hRegistry
      refine ⟨_, hRegistry, ?_⟩
      simpa [Result.mesh?, Result.isFailed] using
        hTallies.fail skips duration
  | returned m =>
      rw [hResult] at hRecorded
      rcases hRecorded with ⟨skips, duration, hRegistry⟩
      rw [hSome] at hRegistry
      refine ⟨_, hRegistry, ?_⟩
      simpa [Result.mesh?, Result.isFailed] using
        hTallies.succeed skips duration m

end Service

------------------------------------------------------------
-- Accounts
------------------------------------------------------------

/- Nothing has been had or recorded yet. -/
structure Ledger.Fresh
    {ω : Type}
    (l : Ledger ω) : Prop where
  opened : l.opened = 0
  closed : l.closed = 0
  registry : ∃ r, l.registry = some r ∧ r.builds = [] ∧
    r.buildDurations.count = 0 ∧ r.entities = []

/-
  A ledger accounts for the results of calls: every cluster
  that was had is closed, and what is shown of the builds is
  how many meshes were returned and how many builds failed,
  and the sizes of the last mesh.
-/
structure Ledger.Accounts
    {ω : Type}
    (l : Ledger ω)
    (results : List Service.Result) : Prop where
  opened : l.opened = results.countP (·.isServed)
  closed : l.closed = l.opened
  registry : ∃ r, l.registry = some r ∧
    r.Shows (results.filterMap (·.mesh?))
      (results.countP (·.isFailed))

/- A ledger can go on with its account. -/
structure Ledger.Balances
    {ω : Type}
    (l : Ledger ω)
    (results : List Service.Result) : Prop where
  opened : l.opened = results.countP (·.isServed)
  closed : l.closed = l.opened
  registry : ∃ r, l.registry = some r ∧
    r.Tallies (results.filterMap (·.mesh?))
      (results.countP (·.isFailed))

namespace Ledger

variable {ω : Type} {l : Ledger ω}
variable {results : List Service.Result}

theorem Fresh.balances (hFresh : l.Fresh) :
    l.Balances [] where
  opened := hFresh.opened
  closed := by rw [hFresh.closed, hFresh.opened]
  registry := by
    rcases hFresh.registry with
      ⟨r, hSome, hBuilds, hDurations, hEntities⟩
    exact ⟨r, hSome,
      Registry.tallies_start hBuilds hDurations hEntities⟩

theorem Balances.accounts (hBalances : l.Balances results) :
    l.Accounts results where
  opened := hBalances.opened
  closed := hBalances.closed
  registry := by
    rcases hBalances.registry with ⟨r, hSome, hTallies⟩
    exact ⟨r, hSome, hTallies.shows⟩

end Ledger

------------------------------------------------------------
-- Sequences of Calls
------------------------------------------------------------

namespace Service

variable {ω σ : Type}
variable (s : Service ω σ) {l : Ledger ω}
variable {results : List Result}

/- A ledger that balances does so after one more call. -/
theorem balances_step
    (hCloses : s.backend.cluster.Closes)
    (hBalances : l.Balances results)
    (call : Call) :
    (s.ledgerOf l call).Balances
      (results ++ [s.result l call]) := by
  have hRecorded := s.recorded_step l hCloses call
  rcases (s.settled_step l call).counts with
    ⟨hOpened, hClosed⟩
  rcases hBalances.registry with ⟨r, hSome, hTallies⟩
  rcases hRecorded.tallies hSome hTallies with
    ⟨r', hSome', hTallies'⟩
  change (s.ledgerOf l call).opened = l.opened + _
    at hOpened
  change (s.ledgerOf l call).closed = l.closed + _
    at hClosed
  exact {
    opened := by
      rw [hOpened, hBalances.opened, List.countP_append,
        List.countP_singleton]
      rfl
    closed := by rw [hClosed, hOpened, hBalances.closed]
    registry := by
      have hMesh :
          [s.result l call].filterMap (·.mesh?) =
            (s.result l call).mesh?.toList := by
        cases h : (s.result l call).mesh? <;> simp [h]
      refine ⟨r', hSome', ?_⟩
      rw [List.filterMap_append, hMesh,
        List.countP_append, List.countP_singleton]
      exact hTallies' }

/- Calls in order leave a ledger that balances. -/
theorem balances_steps
    (hCloses : s.backend.cluster.Closes)
    (hBalances : l.Balances results)
    (calls : List Call) :
    (s.ledgerAfter l calls).Balances
      (results ++ (s.steps l calls).map (·.result)) := by
  induction calls generalizing l results with
  | nil =>
      rw [steps, List.map_nil, List.append_nil]
      exact hBalances
  | cons call calls ih =>
      have hRest :=
        ih (s.balances_step hCloses hBalances call)
      rw [List.append_assoc] at hRest
      exact hRest

/- All calls are settled. -/
theorem settled_steps (l : Ledger ω) (calls : List Call) :
    ∀ e ∈ s.steps l calls, e.Settled s := by
  induction calls generalizing l with
  | nil =>
      intro e hMem
      cases hMem
  | cons call calls ih =>
      rw [steps, List.forall_mem_cons]
      exact ⟨s.settled_step l call, ih _⟩

/-
  A fresh service keeps account of all its calls.  Each is
  settled, whether a cluster can be had and however it
  fails, and after any calls the ledger accounts for what
  came of them, as long as clusters can be closed.
-/
theorem accounts_of_calls
    (hFresh : l.Fresh)
    (calls : List Call) :
    (∀ e ∈ s.steps l calls, e.Settled s) ∧
      (s.backend.cluster.Closes →
        (s.ledgerAfter l calls).Accounts
          ((s.steps l calls).map (·.result))) :=
  ⟨s.settled_steps l calls, fun hCloses =>
    (s.balances_steps hCloses hFresh.balances
      calls).accounts⟩

end Service

------------------------------------------------------------
-- A Shop with Tired Clusters
------------------------------------------------------------

namespace Shop

/- A cluster with nothing in it that tires of answering. -/
def tiring : Cluster Nat where
  answer _
  | 0 => .still 0 (.error (.collaborator "tired"))
  | n + 1 => .still n (.ok (.arr []))
  health n := .still n (.error (.collaborator "tired"))
  close n := (.ok (), n)

/-
  Clusters that answer more or less often, and none for
  strangers.  The world is what the closed ones had left.
-/
def tiringBackend : Backend (List Nat) Nat where
  cluster := tiring
  lend
  | some "alice", w => (.ok 9, w)
  | some "bob", w => (.ok 2, w)
  | some _, w => (.error (.collaborator "stranger"), w)
  | none, w => (.ok 0, w)
  giveBack n w := w ++ [n]

/- One build gives a mesh; the other calls fail somewhere. -/
def tiringCalls : List Service.Call :=
  [.build (some "bob") (.whole 1),
   .build (some "alice") (.whole 1),
   .build (some "eve") (.whole 1),
   .health,
   .build (some "bob") (.whole 1)]

/- However its calls end, the service accounts for them. -/
theorem accounts_of_tiringCalls :
    let s : Service (List Nat) Nat :=
      { backend := tiringBackend }
    let l : Ledger (List Nat) := { world := [] }
    l.Fresh ∧ s.backend.cluster.Closes ∧
    (s.steps l tiringCalls).map (fun e =>
        (e.result.isServed, e.result.isFailed,
          e.result.mesh?.isSome, e.after.world)) =
      [(true, true, false, [0]),
       (true, false, true, [0, 3]),
       (false, false, false, [0, 3]),
       (true, false, false, [0, 3, 0]),
       (true, true, false, [0, 3, 0, 0])] ∧
    (∀ e ∈ s.steps l tiringCalls, e.Settled s) ∧
    (s.ledgerAfter l tiringCalls).Accounts
      ((s.steps l tiringCalls).map (·.result)) := by
  intro s l
  have hFresh : l.Fresh := ⟨rfl, rfl, {}, rfl, rfl, rfl, rfl⟩
  have hResults : (s.steps l tiringCalls).map (fun e =>
        (e.result.isServed, e.result.isFailed,
          e.result.mesh?.isSome, e.after.world)) =
      [(true, true, false, [0]),
       (true, false, true, [0, 3]),
       (false, false, false, [0, 3]),
       (true, false, false, [0, 3, 0]),
       (true, true, false, [0, 3, 0, 0])] := by
    decide +kernel
  have hCloses : s.backend.cluster.Closes := fun _ => rfl
  have hAccounts := s.accounts_of_calls hFresh tiringCalls
  exact ⟨hFresh, hCloses, hResults, hAccounts.1,
    hAccounts.2 hCloses⟩

end Shop

end EventTopology
