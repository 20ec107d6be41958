import EventTopology.Build.Index
import EventTopology.Build.Run

/-
  This file defines who consumes what: identities that are
  found on subscribers, filed under the ids of the event
  types that their subscriptions receive.

  Key definitions include:
    * `Consumption`
    * `Consumption.file`
    * `Consumption.fileAll`
    * `Consumption.settle`
    * `Consumption.process`
-/

------------------------------------------------------------
-- Filing Identities
------------------------------------------------------------

namespace EventTopology

/- Identities by the id of the event type they consume. -/
abbrev Consumption := Table (List Json)

namespace Consumption

/- Add an identity, unless it is there already. -/
def addOnce
    (identity : Json)
    (known : List Json) : List Json :=
  if known.any (Json.sameKey · identity) then known
  else known ++ [identity]

/- File an identity under an event type. -/
def file
    (identity : Json)
    (c : Consumption)
    (id : String) : Consumption :=
  Table.insert id (addOnce identity (Table.pushed id c)) c

/-
  File an identity under event types.  Arrays and objects
  are no identities and cannot be filed anywhere.
-/
def fileAll
    (c : Consumption)
    (identity : Json)
    (ids : List String) : Except Json.ShapeFault Consumption :=
  if identity.isKey || ids.isEmpty then
    .ok (ids.foldl (file identity) c)
  else .error (.notKey identity.kind)

end Consumption

------------------------------------------------------------
-- Outcomes of Subscriptions
------------------------------------------------------------

namespace Consumption

open Log (SubscriptionOutcome)

/-
  What becomes of a subscription before its subscriber is
  looked up: an outcome, or what to look up and for which
  provider.
-/
def settle
    (x : Index)
    (s : Subscription) :
    SubscriptionOutcome ⊕ (String × ObjectReference) :=
  match s.target with
  | none => .inl .noTarget
  | some target =>
      if x.hasProvider target then
        match s.subscriber with
        | none => .inl .noSubscriber
        | some ref => .inr (target, ref)
      else .inl (.providerNotFound target)

/- What becomes of a subscription with a found identity. -/
def resolve
    (x : Index)
    (s : Subscription)
    (target : String)
    (ref : ObjectReference)
    (identity : Json) : SubscriptionOutcome :=
  if identity.truthy then
    .resolved identity (x.received target s)
  else .noIdentity ref.key

end Consumption

------------------------------------------------------------
-- Processing Subscriptions
------------------------------------------------------------

namespace Consumption

open Log (SubscriptionOutcome)

variable {σ : Type}

/-
  The outcome of a subscription, with a lookup where one is
  needed.  A lookup that fails is an outcome too; what does
  not exist has no identity.
-/
def outcome
    (c : Cluster σ)
    (label : String)
    (x : Index)
    (s : Subscription) : Build σ SubscriptionOutcome := do
  match settle x s with
  | .inl o => return o
  | .inr (target, ref) =>
      match ← Build.attempt c (.identity ref label) with
      | .ok identity =>
          return resolve x s target ref identity
      | .error (.cluster (.notFound _)) =>
          return .noIdentity ref.key
      | .error (.cluster e) =>
          return .lookupFailed (Failure.lookupWords ref.key e)
      | .error f => throw f

/- Add what an outcome says to what is known. -/
def apply
    (known : Consumption) :
    SubscriptionOutcome → Build σ Consumption
| .resolved identity ids =>
    Build.ofExcept
      (Failure.ofShape (known.fileAll identity ids))
| .lookupFailed _ => do
    Build.skip .lookup
    return known
| _ => return known

/- Tell and apply the outcome of a subscription. -/
def process
    (c : Cluster σ)
    (label : String)
    (x : Index)
    (known : Consumption)
    (s : Subscription) : Build σ Consumption := do
  let o ← outcome c label x s
  Build.tell (.subscription o s.origin s.ns s.name)
  known.apply o

end Consumption

end EventTopology
