import EventTopology.Proofs.Build.Stopping
import EventTopology.Proofs.Client.Sending
import EventTopology.Proofs.Ending
import EventTopology.Proofs.Mesh.Absence

/-
  This file shows that a session refines a table of answers.
  Each object and each fault that a client library is known
  to answer with stands for an entry of the table, and a
  build over the session ends like one over the table.

  Key definitions include:
    * `Client.ListedAs`
    * `Client.FoundAs`
    * `Session.Tabled`
    * `Client.Library.Answers`
    * `Client.Library.ofScript`

  The main results are:
    * `Session.Tabled.concurs`
    * `Session.members_of_endsLookup`
    * `Plan.run_of_tabled`
-/

------------------------------------------------------------
-- Entries of a Table
------------------------------------------------------------

namespace EventTopology

namespace Client

/- The status and the reason that the cluster answered. -/
def Fault.answered? :
    Fault → Option (Option Int × Option String)
| .api status reason | .lookup _ status reason =>
    some (status, reason)
| _ => none

/-
  Does a fault say that what was sought does not exist?  The
  library says so itself of resources of any kind, and with
  a status elsewhere.
-/
def Fault.isMissing : Fault → Bool
| .noSuchKind => true
| .lookup missing _ _ => missing
| .api status _ => status == some 404
| .http _ | .other _ => false

/-
  The entry of a listing for what the library answers: the
  items, nothing where there are none or what is listed does
  not exist, and else an error with the status if there is
  one.
-/
inductive ListedAs
    (what : String) :
    Except Fault Json → Except Failure Json → Prop
| items
    {members : Json.Members}
    {items : List Json}
    (hItems : Table.lookup "items" members =
      some (.arr items)) :
    ListedAs what (.ok (.obj members)) (.ok (.arr items))
| noItems
    {members : Json.Members}
    (hItems : Table.lookup "items" members = none) :
    ListedAs what (.ok (.obj members)) (.ok (.arr []))
| absent
    {fault : Fault}
    {reason : Option String}
    (hStatus : fault.answered? = some (some 404, reason)) :
    ListedAs what (.error fault) (.ok (.arr []))
| refused
    {fault : Fault}
    {status : Option Int}
    {reason : Option String}
    (hStatus : fault.answered? = some (status, reason))
    (hOther : status ≠ some 404) :
    ListedAs what (.error fault)
      (.error (.cluster (.failed
        (what ++ ": " ++ statusWords status reason)
        status)))
| unreachable (words : String) :
    ListedAs what (.error (.http words))
      (.error (.cluster
        (.failed (what ++ ": " ++ words) none)))

/-
  The entry of a lookup for what the library answers: the
  label of the object, nothing where it or its kind does not
  exist, and else an error.
-/
inductive FoundAs
    (what label : String) :
    Except Fault Json → Except Failure Json → Prop
| found (members : Json.Members) :
    FoundAs what label (.ok (.obj members))
      (Failure.ofShape
        (Session.labelOf label (.obj members)))
| absent
    {fault : Fault}
    (hMissing : fault.isMissing = true) :
    FoundAs what label (.error fault) (.ok .null)
| refused
    {fault : Fault}
    {status : Option Int}
    {reason : Option String}
    (hStatus : fault.answered? = some (status, reason))
    (hOther : fault.isMissing = false) :
    FoundAs what label (.error fault)
      (.error (.cluster (.failed
        (what ++ ": " ++ statusWords status reason)
        status)))
| unreachable (words : String) :
    FoundAs what label (.error (.http words))
      (.error (.cluster
        (.failed (what ++ ": " ++ words) none)))

end Client

namespace Session

open Client

/- A kind to be listed, and the tag that selects from it. -/
structure Listing where
  group : String
  version : String
  plural : String
  /- The empty tag selects everything. -/
  tag : String

namespace Listing

/- What is listed, in words. -/
def what (l : Listing) : String :=
  l.plural ++ "." ++ l.group ++ "/" ++ l.version

/- The call for a listing. -/
def call (l : Listing) : Call :=
  .list l.group l.version l.plural
    (if l.tag = "" then none else some l.tag)

end Listing

/- What a session lists for a request. -/
def listing
    (s : Session) :
    Request → Option Listing
| .brokers =>
    some ⟨"eventing.knative.dev", "v1", "brokers", ""⟩
| .eventTypes =>
    some ⟨"eventing.knative.dev", s.eventTypesVersion,
      "eventtypes", ""⟩
| .triggers =>
    some ⟨"eventing.knative.dev", "v1", "triggers", ""⟩
| .subscriptions =>
    some ⟨"messaging.knative.dev", "v1", "subscriptions",
      ""⟩
| .definitions tag =>
    some ⟨"apiextensions.k8s.io", "v1",
      "customresourcedefinitions", tag⟩
| .instances coords =>
    some ⟨coords.group, coords.version, coords.resource,
      ""⟩
| .identity _ _ => none

/-
  The entry of a table for a request, by what the library
  answers the session when it makes the calls for it.
-/
inductive Tabled
    (lib : Library)
    (s : Session) :
    Request → Except Failure Json → Prop
| listing
    {r : Request}
    {l : Listing}
    {o : Except Failure Json}
    (hListing : s.listing r = some l)
    (hListed : ListedAs l.what (send lib l.call s).1 o) :
    Tabled lib s r o
| lookup
    {ref : ObjectReference}
    {label : String}
    {o : Except Failure Json}
    (hFound : FoundAs ref.key label (find lib ref s).1 o) :
    Tabled lib s (.identity ref label) o

end Session

------------------------------------------------------------
-- Answers of a Session
------------------------------------------------------------

namespace Client

/- What is made of the answer to the call for a listing. -/
def listOutcome
    (what : String) :
    Except Fault Json → Except Failure Json
| .ok body => Failure.ofShape (Session.items body)
| .error fault => .error (listFailure what fault).1

/- What is made of the answer to the calls of a lookup. -/
def lookupOutcome
    (what label : String) :
    Except Fault Json → Except Failure Json
| .ok body => Failure.ofShape (Session.labelOf label body)
| .error fault => (lookupFailure what fault).1

variable {what label : String}
variable {reply : Except Fault Json}
variable {o : Except Failure Json}

/- A status other than that of absence is told as it is. -/
theorem statusError_of_ne
    {status : Option Int}
    (hOther : status ≠ some 404)
    (reason : Option String) :
    statusError what status reason =
      .failed (what ++ ": " ++ statusWords status reason)
        status :=
  if_neg hOther

/- A listing fails with the status that was answered. -/
theorem listFailure_of_answered
    {fault : Fault}
    {status : Option Int}
    {reason : Option String}
    (hStatus : fault.answered? = some (status, reason)) :
    (listFailure what fault).1 =
      .cluster (statusError what status reason) := by
  cases fault <;> cases hStatus <;> rfl

/- So does a lookup, if nothing is said to be missing. -/
theorem lookupFailure_of_answered
    {fault : Fault}
    {status : Option Int}
    {reason : Option String}
    (hStatus : fault.answered? = some (status, reason))
    (hOther : fault.isMissing = false) :
    (lookupFailure what fault).1 =
      .error (.cluster (.failed
        (what ++ ": " ++ statusWords status reason)
        status)) := by
  cases fault <;> cases hStatus
  case api.refl =>
    unfold lookupFailure
    dsimp only
    rw [statusError_of_ne (ne_of_beq_false hOther)]
  case lookup.refl missing =>
    cases hOther
    rfl

/-
  A listing is made what its entry says, or both come to
  nothing.
-/
theorem ListedAs.concurs
    {r : Request}
    (hListing : r.isListing = true)
    (hListed : ListedAs what reply o) :
    o = listOutcome what reply ∨
      r.ComesToNothing (listOutcome what reply) ∧
      r.ComesToNothing o := by
  rw [Request.comesToNothing_iff hListing,
    Request.comesToNothing_iff hListing]
  cases hListed with
  | items hItems | noItems hItems =>
      left
      unfold listOutcome Session.items Json.get? Json.members
      dsimp only [Except.map]
      rw [hItems]
      rfl
  | absent hStatus =>
      right
      refine ⟨?_, rfl⟩
      unfold listOutcome
      dsimp only
      rw [listFailure_of_answered hStatus]
      rfl
  | refused hStatus hOther =>
      left
      unfold listOutcome
      dsimp only
      rw [listFailure_of_answered hStatus,
        statusError_of_ne hOther]
  | unreachable words => exact Or.inl rfl

/- So is a lookup. -/
theorem FoundAs.concurs
    (ref : ObjectReference)
    (hFound : FoundAs what label reply o) :
    o = lookupOutcome what label reply ∨
      (Request.identity ref label).ComesToNothing
        (lookupOutcome what label reply) ∧
      (Request.identity ref label).ComesToNothing o := by
  cases hFound with
  | @absent fault hMissing =>
      cases fault with
      | noSuchKind => exact Or.inl rfl
      | lookup missing =>
          cases hMissing
          exact Or.inl rfl
      | api =>
          cases eq_of_beq hMissing
          exact Or.inr
            ⟨Or.inl ⟨_, rfl⟩, Or.inr ⟨.null, rfl, rfl⟩⟩
      | http | other => cases hMissing
  | refused hStatus hOther =>
      left
      unfold lookupOutcome
      dsimp only
      rw [lookupFailure_of_answered hStatus hOther]
  | _ => exact Or.inl rfl

end Client

namespace Plan

/- A failure of the cluster ends no build at a lookup. -/
theorem not_endsLookup_cluster
    (cause : ClusterError)
    (f : Failure) :
    ¬ EndsLookup (.error (.cluster cause)) f := by
  rintro (⟨hError, hOther⟩ | ⟨v, hOk, _⟩)
  · cases hError
    exact hOther cause rfl
  · cases hOk

/- Neither does what gives no identity. -/
theorem not_endsLookup_of_nothing
    {ref : ObjectReference}
    {label : String}
    {o : Except Failure Json}
    (hNothing :
      (Request.identity ref label).ComesToNothing o)
    (f : Failure) :
    ¬ EndsLookup o f := by
  rcases hNothing with ⟨m, rfl⟩ | ⟨v, rfl, hFalsy⟩
  · exact not_endsLookup_cluster _ f
  · rintro (⟨hError, _⟩ | ⟨w, hOk, hTruthy, _⟩)
    · cases hError
    · cases hOk
      rw [hFalsy] at hTruthy
      cases hTruthy

end Plan

namespace Client

variable {what label : String}
variable {reply : Except Fault Json}
variable {o : Except Failure Json}

/- Only an object that is found can end a build. -/
theorem FoundAs.members_of_endsLookup
    {f : Failure}
    (ref : ObjectReference)
    (hFound : FoundAs what label reply o)
    (hEnds : Plan.EndsLookup (lookupOutcome what label reply)
      f) :
    ∃ members, reply = .ok (.obj members) := by
  rcases hFound.concurs ref with hSame | ⟨hNothing, _⟩
  · rw [← hSame] at hEnds
    cases hFound with
    | found members => exact ⟨members, rfl⟩
    | absent hMissing =>
        have hNothing :
            (Request.identity ref label).ComesToNothing
              (.ok .null) :=
          Or.inr ⟨.null, rfl, rfl⟩
        exact (Plan.not_endsLookup_of_nothing hNothing f
          hEnds).elim
    | refused hStatus hOther | unreachable words =>
        exact (Plan.not_endsLookup_cluster _ f hEnds).elim
  · exact (Plan.not_endsLookup_of_nothing hNothing f
      hEnds).elim

end Client

namespace Session

open Client

variable {lib : Library} {s : Session}

/- A listing is answered by one call. -/
theorem outcome_of_listing
    {r : Request}
    {l : Listing}
    (hListing : s.listing r = some l) :
    (answer lib r s).outcome =
      listOutcome l.what (send lib l.call s).1 := by
  have hAnswer : answer lib r s =
      list lib l.group l.version l.plural l.tag s := by
    cases r <;> cases hListing <;> rfl
  rw [hAnswer]
  unfold list Listing.call Listing.what
  dsimp only
  rcases send lib _ s with ⟨fault | body, s'⟩ <;> rfl

/- A lookup is answered by what is found. -/
theorem outcome_identity
    (ref : ObjectReference)
    (label : String) :
    (answer lib (.identity ref label) s).outcome =
      lookupOutcome ref.key label (find lib ref s).1 := by
  unfold answer resolveIdentity
  dsimp only
  rcases find lib ref s with ⟨fault | body, s'⟩ <;> rfl

/- Only what is not an identity is listed. -/
theorem isListing_of_listing
    {r : Request}
    {l : Listing}
    (hListing : s.listing r = some l) :
    r.isListing = true := by
  cases r <;> first | rfl | cases hListing

/-
  A session answers what the entry says, or both come to
  nothing.
-/
theorem Tabled.concurs
    {r : Request}
    {o : Except Failure Json}
    (hTabled : Tabled lib s r o) :
    o = (answer lib r s).outcome ∨
      r.ComesToNothing (answer lib r s).outcome ∧
      r.ComesToNothing o := by
  cases hTabled with
  | listing hListing hListed =>
      rw [outcome_of_listing hListing]
      exact hListed.concurs (isListing_of_listing hListing)
  | @lookup ref label _ hFound =>
      rw [outcome_identity]
      exact hFound.concurs ref

/- A lookup that ends a build has found an object. -/
theorem members_of_endsLookup
    {ref : ObjectReference}
    {label : String}
    {o : Except Failure Json}
    {f : Failure}
    (hTabled : Tabled lib s (.identity ref label) o)
    (hEnds : Plan.EndsLookup
      (answer lib (.identity ref label) s).outcome f) :
    ∃ members, (find lib ref s).1 = .ok (.obj members) := by
  cases hTabled with
  | listing hListing => cases hListing
  | lookup hFound =>
      rw [outcome_identity] at hEnds
      exact hFound.members_of_endsLookup ref hEnds

end Session

------------------------------------------------------------
-- Steady Libraries
------------------------------------------------------------

namespace Client

/- What a library answers to a call at any time. -/
def Library.Answers
    (lib : Library)
    (call : Call)
    (P : Except Fault Json → Prop) : Prop :=
  ∀ before n c, P (lib before ⟨n, c, call⟩)

/- A library never fails a call. -/
abbrev Library.Permits (lib : Library) (call : Call) : Prop :=
  lib.Answers call fun o => o.Succeeds fun _ => True

/- The library that answers each call in one way. -/
def Library.ofScript
    (script : Call → Except Fault Json) : Library :=
  fun _ sent => script sent.call

end Client

namespace Session

open Client

variable {α β : Type}

/- A step ends well in every session. -/
def Succeeds (t : Talk α) : Prop :=
  ∀ s, ∃ a s', t s = (.ok a, s')

theorem Succeeds.bind
    {t : Talk α}
    {f : α → Talk β}
    (hFirst : Succeeds t)
    (hRest : ∀ a, Succeeds (f a)) :
    Succeeds (t >>= f) := by
  intro s
  rcases hFirst s with ⟨a, s', hTalk⟩
  rw [run_bind, hTalk]
  exact hRest a s'

/- After such a step the rest decides how it ends. -/
theorem Succeeds.outcome_bind
    {t : Talk α}
    {f : α → Talk β}
    {P : Except Fault β → Prop}
    (hFirst : Succeeds t)
    (hRest : ∀ a s, P (f a s).1)
    (s : Session) :
    P ((t >>= f) s).1 := by
  rcases hFirst s with ⟨a, s', hTalk⟩
  rw [run_bind, hTalk]
  exact hRest a s'

/- After a step that fails nothing else is done. -/
theorem outcome_bind_of_error
    {t : Talk α}
    {f : α → Talk β}
    {e : Fault}
    {s : Session}
    (hFails : (t s).1 = .error e) :
    ((t >>= f) s).1 = .error e := by
  rw [run_bind]
  rcases hTalk : t s with ⟨_ | _, _⟩ <;>
    rw [hTalk] at hFails <;> cases hFails
  rfl

variable {lib : Library}
variable {P : Except Fault Json → Prop}

/- A call over a connection is answered by the library. -/
theorem outcome_sendOver
    {call : Call}
    (hCall : lib.Answers call P)
    (n : Nat)
    (s : Session) :
    P (sendOver lib n call s).1 :=
  hCall s.sent n s.configuration

/- A call that the library permits ends well. -/
theorem succeeds_discard_sendOver
    {call : Call}
    (hPermits : lib.Permits call)
    (n : Nat) :
    Succeeds (discard (sendOver lib n call)) := by
  refine Succeeds.bind (fun s => ?_)
    fun _ _ => ⟨(), _, rfl⟩
  rcases (outcome_sendOver hPermits n s).exists_ok with
    ⟨v, hOutcome, -⟩
  exact ⟨v, _, Prod.ext hOutcome rfl⟩

theorem succeeds_connect
    (hConnect : lib.Permits .connect) :
    Succeeds (connect lib) := by
  refine Succeeds.bind (fun s => ⟨s, s, rfl⟩) fun s => ?_
  split
  · exact fun s => ⟨_, s, rfl⟩
  · refine (succeeds_discard_sendOver hConnect _).bind
      fun _ => ?_
    exact fun s => ⟨_, _, rfl⟩

theorem succeeds_prepareLookups
    (hConnect : lib.Permits .connect)
    (hPrepare : lib.Permits .prepareLookups) :
    Succeeds (prepareLookups lib) := by
  refine Succeeds.bind (fun s => ⟨s, s, rfl⟩) fun s => ?_
  split
  · exact fun s => ⟨_, s, rfl⟩
  · refine (succeeds_connect hConnect).bind fun n => ?_
    refine (succeeds_discard_sendOver hPrepare _).bind
      fun _ => ?_
    exact fun s => ⟨_, _, rfl⟩

/- Where a connection can be had, so is any call. -/
theorem outcome_send
    {call : Call}
    (hConnect : lib.Permits .connect)
    (hCall : lib.Answers call P)
    (s : Session) :
    P (send lib call s).1 := by
  unfold send
  exact (succeeds_connect hConnect).outcome_bind
    (outcome_sendOver hCall) s

/- So is the last one of a lookup, if the kind is known. -/
theorem outcome_find
    {ref : ObjectReference}
    (hConnect : lib.Permits .connect)
    (hPrepare : lib.Permits .prepareLookups)
    (hKind : lib.Permits (.kind ref.apiVersion ref.kind))
    (hGet : lib.Answers
      (.get ref.apiVersion ref.kind ref.name ref.ns) P)
    (s : Session) :
    P (find lib ref s).1 := by
  unfold find
  refine (succeeds_prepareLookups hConnect
    hPrepare).outcome_bind (fun n => ?_) s
  exact (succeeds_discard_sendOver hKind n).outcome_bind
    fun _ => outcome_sendOver hGet n

end Session

------------------------------------------------------------
-- A Scripted Shop
------------------------------------------------------------

namespace Shop

open Client

/- What is listed in the shop under a plural, if anything. -/
def itemsOf (plural : String) : Option (List Json) :=
  if plural = "brokers" then
    some [resource "shop" "main" []]
  else if plural = "eventtypes" then some [order]
  else if plural = "triggers" then
    some
      [trigger "shop" "bill" "main" "billing",
       trigger "shop" "log" "main" "audit"]
  else none

/- Billing, which carries a label. -/
def billing : Json.Members :=
  [("metadata",
    .obj [("labels",
      .obj [("backstage.io/kubernetes-id",
        .str "billing")])])]

/-
  A script in which channel subscriptions do not exist, the
  other listings may lack their items, and lookups of all
  but billing are refused.
-/
def script : Call → Except Fault Json
| .list _ _ plural _ =>
    if plural = "subscriptions" then
      .error (.api (some 404) (some "Not Found"))
    else
      match itemsOf plural with
      | some items => .ok (.obj [("items", .arr items)])
      | none => .ok (.obj [])
| .get _ _ name _ =>
    if name = "billing" then .ok (.obj billing)
    else .error (.lookup false (some 500) none)
| _ => .ok .null

/- The items that are listed under a plural. -/
def tableList (plural : String) : Except Failure Json :=
  .ok (.arr ((itemsOf plural).getD []))

/- The table that the script stands for. -/
def table : Replies
| .brokers => tableList "brokers"
| .eventTypes => tableList "eventtypes"
| .triggers => tableList "triggers"
| .subscriptions => tableList "subscriptions"
| .definitions _ => tableList "customresourcedefinitions"
| .instances coords => tableList coords.resource
| .identity ref label =>
    if ref.name = "billing" then
      Failure.ofShape (Session.labelOf label (.obj billing))
    else
      .error (.cluster (.failed
        (ref.key ++ ": " ++ statusWords (some 500) none)
        (some 500)))

/- Each plural is listed as the table has it. -/
theorem listedAs_script
    (l : Session.Listing) :
    ListedAs l.what (script l.call) (tableList l.plural) := by
  unfold script Session.Listing.call
  dsimp only
  split
  · rename_i hAbsent
    rw [hAbsent]
    exact .absent rfl
  · unfold tableList
    cases itemsOf l.plural with
    | some items => exact .items rfl
    | none => exact .noItems rfl

/- Each resource is found as the table has it. -/
theorem foundAs_script
    (ref : ObjectReference)
    (label : String) :
    FoundAs ref.key label
      (script (.get ref.apiVersion ref.kind ref.name ref.ns))
      (table (.identity ref label)) := by
  unfold script table
  dsimp only
  split
  · exact .found billing
  · exact .refused rfl rfl

/- The table stands for the script in every session. -/
theorem tabled_script
    (s : Session)
    (r : Request) :
    Session.Tabled (.ofScript script) s r (table r) := by
  have hPermits (call : Call)
      (hNull : script call = .ok .null) :
      (Library.ofScript script).Permits call := by
    intro before n c
    change (script call).Succeeds _
    rw [hNull]
    trivial
  have hConnect := hPermits .connect rfl
  have hListed (l : Session.Listing) :
      ListedAs l.what
        (Session.send (.ofScript script) l.call s).1
        (tableList l.plural) :=
    Session.outcome_send
      (P := fun o => ListedAs l.what o (tableList l.plural))
      hConnect (fun _ _ _ => listedAs_script l) s
  cases r with
  | identity ref label =>
      refine .lookup (Session.outcome_find
        (P := fun o => FoundAs ref.key label o _) hConnect
        (hPermits _ rfl) (hPermits _ rfl) ?_ s)
      exact fun _ _ _ => foundAs_script ref label
  | _ => exact .listing rfl (hListed _)

end Shop

------------------------------------------------------------
-- Built Meshes
------------------------------------------------------------

namespace Plan

open Client
open Session (Tabled)

variable {τ : Type}

/-
  A session refines a table.  A build over a session ends as
  over any cluster that answers what a table of what the
  library answers would have, and skips the same.  Only an
  object that was found can end it at a lookup, and none of
  the faults that a lookup is answered with.
-/
theorem run_of_tabled
    {p : Plan}
    {lib : Library}
    {s : Session}
    {d : Cluster τ}
    {t : τ}
    (hTabled : ∀ before r,
      Tabled lib ((Session.cluster lib).after s before) r
        (d.answer r (d.after t before)).outcome) :
    let c := Session.cluster lib
    (p.run d t).1 = (p.run c s).1 ∧
    (p.run d t).2.skips = (p.run c s).2.skips ∧
    ∀ f, (p.run c s).1 = .error f →
      (∀ ref label,
        .identity ref label ∉ (p.run c s).2.requests) ∨
      ∃ before ref members,
        (p.run c s).2.requests =
          before ++ [.identity ref p.identityLabel] ∧
        (Session.find lib ref (c.after s before)).1 =
          .ok (.obj members) := by
  intro c
  have hCorresponds : c.Corresponds s d t
      (fun r o o' => o' = o ∨
        r.ComesToNothing o ∧ r.ComesToNothing o') :=
    fun before r => (hTabled before r).concurs
  have hSame := run_of_concurring (p := p) hCorresponds
    fun _ _ _ hConcur => hConcur
  refine ⟨hSame.1, hSame.2.1, fun f hError => ?_⟩
  rcases endsLookup_of_run (Prod.ext hError rfl) with
    hNone | ⟨before, ref, hRequests, hEnds⟩
  · exact Or.inl hNone
  · rcases Session.members_of_endsLookup
        (hTabled before _) hEnds with
      ⟨members, hFound⟩
    exact Or.inr ⟨before, ref, members, hRequests, hFound⟩

/-
  The script of the shop is built as its table is: billing
  consumes orders, and audit is skipped.
-/
theorem scripted_shop_tabled :
    let lib := Library.ofScript Shop.script
    let c := Session.cluster lib
    let d := Cluster.ofTable Shop.table
    let s := Session.start { host := "https://shop" } none
      "v1beta2"
    (∀ before r,
      Tabled lib (c.after s before) r
        (d.answer r (d.after () before)).outcome) ∧
    (Plan.run {} c s).1.toOption.map Shop.view =
      some [["shop/order"], ["billing"]] ∧
    (Plan.run {} c s).2.skips = [.lookup] ∧
    (Plan.run {} d ()).1 = (Plan.run {} c s).1 ∧
    (Plan.run {} d ()).2.skips =
      (Plan.run {} c s).2.skips := by
  intro lib c d s
  have hTabled (before : List Request) (r : Request) :
      Tabled lib (c.after s before) r
        (d.answer r (d.after () before)).outcome :=
    Shop.tabled_script _ r
  have hSame := run_of_tabled (p := {}) hTabled
  refine ⟨hTabled, ?_, ?_, hSame.1, hSame.2.1⟩
  · decide +kernel
  · decide +kernel

end Plan

end EventTopology
