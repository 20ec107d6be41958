import EventTopology.Proofs.Build.Steps
import EventTopology.Service.Ledger

/-
  This file says what a call to a service does, one
  statement for each kind of call: a cluster cannot be had,
  or it is had, asked, closed and given back.

  Key definitions include:
    * `Service.Refuses`
    * `Service.Serves`

  The main results are:
    * `Service.build_cases`
    * `Service.health_cases`
    * `Service.tokens_build`
    * `Service.build_measure`
-/

------------------------------------------------------------
-- Refusing and Serving
------------------------------------------------------------

namespace EventTopology

namespace Service

variable {ω σ : Type}

/- There is no cluster to be had for a token. -/
structure Refuses
    (s : Service ω σ)
    (token : Option String)
    (l : Ledger ω)
    (f : Failure)
    (l' : Ledger ω) : Prop where
  lend : s.backend.lend token l.world = (.error f, l'.world)
  registry : l'.registry = l.registry
  opened : l'.opened = l.opened
  closed : l'.closed = l.closed

/-
  A cluster is had for a token in one state, and given back
  as it is when it is closed in another.
-/
structure Serves
    (s : Service ω σ)
    (token : Option String)
    (l : Ledger ω)
    (c c' : σ)
    (l' : Ledger ω) : Prop where
  world : ∃ w,
    s.backend.lend token l.world = (.ok c, w) ∧
    l'.world =
      s.backend.giveBack (s.backend.cluster.close c').2 w
  opened : l'.opened = l.opened + 1
  closed : l'.closed = l.closed + 1

variable (s : Service ω σ)

/-
  What a build does, whether it has a cluster or not.  Its
  run does nothing to a cluster but ask it.
-/
theorem build_cases
    (token : Option String)
    (duration : Amount)
    (l : Ledger ω) :
    let a := s.build token duration l
    (∃ f, a.outcome = .error f ∧
      s.Refuses token l f a.ledger) ∨
    ∃ c outcome run,
      let closing := (s.backend.cluster.close run.state).1
      s.plan.run s.backend.cluster c = (outcome, run) ∧
      run.state =
        s.backend.cluster.after c run.requests ∧
      s.Serves token l c run.state a.ledger ∧
      a.outcome = settle outcome closing ∧
      a.ledger.registry =
        (record outcome closing run.skips duration
          l).registry := by
  intro a
  rcases hLend : s.backend.lend token l.world with ⟨f | c, w⟩
  · left
    have hBuild : a = ⟨.error f,
        { l with world := w, tokens := l.tokens ++ [token] },
        []⟩ := by
      simp only [a, build, openFor, hLend]
    rw [hBuild]
    exact ⟨f, rfl, hLend, rfl, rfl, rfl⟩
  · right
    rcases hRun : s.plan.run s.backend.cluster c with
      ⟨outcome, run⟩
    have hKeeps := s.plan.keeps_run s.backend.cluster c
    rw [hRun] at hKeeps
    let closed := s.close run.state
      { l with
        world := w
        tokens := l.tokens ++ [token]
        opened := l.opened + 1 }
    have hBuild : a =
        ⟨settle outcome closed.1,
          record outcome closed.1 run.skips duration closed.2,
          run.events⟩ := by
      simp only [a, build, openFor, hLend, hRun, closed]
    rw [hBuild]
    exact ⟨c, outcome, run, hRun, hKeeps,
      ⟨⟨w, hLend, rfl⟩, rfl, rfl⟩, rfl, rfl⟩

/- What a probe does, whether it has a cluster or not. -/
theorem health_cases (l : Ledger ω) :
    let a := s.health l
    (∃ f, a.outcome = .error f ∧
      s.Refuses none l f a.ledger) ∨
    ∃ c,
      let probed := s.backend.cluster.health c
      a.outcome = settle probed.outcome
        (s.backend.cluster.close probed.state).1 ∧
      s.Serves none l c probed.state a.ledger ∧
      a.ledger.registry = l.registry := by
  intro a
  rcases hLend : s.backend.lend none l.world with ⟨f | c, w⟩
  · left
    have hHealth : a = ⟨.error f,
        { l with world := w, tokens := l.tokens ++ [none] },
        []⟩ := by
      simp only [a, health, openFor, hLend]
    rw [hHealth]
    exact ⟨f, rfl, hLend, rfl, rfl, rfl⟩
  · right
    let probed := s.backend.cluster.health c
    let closed := s.close probed.state
      { l with
        world := w
        tokens := l.tokens ++ [none]
        opened := l.opened + 1 }
    have hHealth : a =
        ⟨settle probed.outcome closed.1, closed.2,
          probed.events⟩ := by
      simp only [a, health, openFor, hLend, closed, probed]
    rw [hHealth]
    exact ⟨c, rfl, ⟨⟨w, hLend, rfl⟩, rfl, rfl⟩, rfl⟩

/- A build asks for a cluster once, with its token. -/
theorem tokens_build
    (token : Option String)
    (duration : Amount)
    (l : Ledger ω) :
    (s.build token duration l).ledger.tokens =
      l.tokens ++ [token] := by
  unfold build openFor
  rcases s.backend.lend token l.world with ⟨f | c, w⟩ <;> rfl

/- What was measured before makes no difference to it. -/
theorem build_measure
    (token : Option String)
    (duration : Amount)
    (l : Ledger ω)
    (f : Registry → Registry) :
    let a := s.build token duration l
    let a' := s.build token duration (l.measure f)
    a'.outcome = a.outcome ∧
      a'.ledger.world = a.ledger.world ∧
      a'.ledger.opened = a.ledger.opened ∧
      a'.ledger.closed = a.ledger.closed := by
  intro a a'
  dsimp only [a, a']
  unfold build openFor Ledger.measure
  dsimp only
  rcases s.backend.lend token l.world with ⟨f | c, w⟩ <;>
    exact ⟨rfl, rfl, rfl, rfl⟩

end Service

end EventTopology
