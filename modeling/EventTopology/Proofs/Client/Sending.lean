import EventTopology.Client.Session

/-
  This file shows that a session sends everything with one
  configuration, the one it was started with.

  Key definitions include:
    * `Session.SendsWith`
    * `Session.Keeps`

  The main results are:
    * `Session.sendsWith_start`
    * `Session.sendsWith_answer`
    * `Session.sendsWith_close`
-/

------------------------------------------------------------
-- Kept Conditions
------------------------------------------------------------

namespace EventTopology

namespace Session

open Client

/-
  A step keeps a condition on the session, whether it fails
  or not.
-/
def Keeps
    {α : Type}
    (t : Talk α)
    (P : Session → Prop) : Prop :=
  ∀ s, P s → P (t s).2

variable {α β : Type}
variable {P : Session → Prop}

theorem keeps_pure (a : α) : Keeps (pure a) P :=
  fun _ hKeeps => hKeeps

theorem keeps_get : Keeps get P :=
  fun _ hKeeps => hKeeps

theorem keeps_modify
    {f : Session → Session}
    (hChange : ∀ s, P s → P (f s)) :
    Keeps (modify f) P :=
  hChange

/- What follows a step begins where the step ended. -/
theorem run_bind
    (t : Talk α)
    (f : α → Talk β)
    (s : Session) :
    (t >>= f) s =
      match t s with
      | (.ok a, s') => f a s'
      | (.error e, s') => (.error e, s') := by
  change (ExceptT.bindCont f (t s).1) (t s).2 = _
  rcases t s with ⟨_ | _, _⟩ <;> rfl

theorem Keeps.bind
    {t : Talk α}
    {f : α → Talk β}
    (hFirst : Keeps t P)
    (hRest : ∀ a, Keeps (f a) P) :
    Keeps (t >>= f) P := by
  intro s hKeeps
  have hNext := hFirst s hKeeps
  rw [run_bind]
  rcases hTalk : t s with ⟨e | a, s'⟩ <;> rw [hTalk] at hNext
  · exact hNext
  · exact hRest a s' hNext

/- It does not matter whether the value is needed. -/
theorem Keeps.discard
    {t : Talk α}
    (hKeeps : Keeps t P) :
    Keeps (discard t) P :=
  hKeeps.bind fun _ => keeps_pure ()

end Session

------------------------------------------------------------
-- Sending with One Configuration
------------------------------------------------------------

namespace Session

open Client

/- All that is sent goes out with a configuration. -/
structure SendsWith
    (c : Configuration)
    (s : Session) : Prop where
  configuration : s.configuration = c
  sent : ∀ x ∈ s.sent, x.configuration = c

variable {c : Configuration}
variable (lib : Library)

/- One more call goes out with the same configuration. -/
theorem SendsWith.push
    {s : Session}
    (hSends : s.SendsWith c)
    (connection : Nat)
    (call : Call) :
    SendsWith c
      { s with
        sent := s.sent ++
          [⟨connection, s.configuration, call⟩] } where
  configuration := hSends.configuration
  sent := by
    intro x hMem
    rcases List.mem_append.mp hMem with hOld | hNew
    · exact hSends.sent x hOld
    · rw [List.mem_singleton.mp hNew]
      exact hSends.configuration

theorem keeps_sendOver
    (connection : Nat)
    (call : Call) :
    Keeps (sendOver lib connection call) (SendsWith c) :=
  fun _ hSends => hSends.push connection call

theorem keeps_connect : Keeps (connect lib) (SendsWith c) := by
  refine keeps_get.bind fun s => ?_
  split
  · exact keeps_pure _
  · refine (keeps_sendOver lib _ _).discard.bind fun _ => ?_
    refine (keeps_modify ?_).bind fun _ => keeps_pure _
    exact fun t hSends =>
      ⟨hSends.configuration, hSends.sent⟩

theorem keeps_send (call : Call) :
    Keeps (send lib call) (SendsWith c) :=
  (keeps_connect lib).bind fun n =>
    keeps_sendOver lib n call

theorem keeps_prepareLookups :
    Keeps (prepareLookups lib) (SendsWith c) := by
  refine keeps_get.bind fun s => ?_
  split
  · exact keeps_pure _
  · refine (keeps_connect lib).bind fun n => ?_
    refine (keeps_sendOver lib n _).discard.bind fun _ => ?_
    refine (keeps_modify ?_).bind fun _ => keeps_pure _
    exact fun t hSends =>
      ⟨hSends.configuration, hSends.sent⟩

theorem keeps_find (ref : ObjectReference) :
    Keeps (find lib ref) (SendsWith c) := by
  refine (keeps_prepareLookups lib).bind fun n => ?_
  refine (keeps_sendOver lib n _).discard.bind fun _ => ?_
  exact keeps_sendOver lib n _

end Session

------------------------------------------------------------
-- Sessions in Use
------------------------------------------------------------

namespace Session

open Client

variable {c : Configuration} {s : Session}

/- A session starts with nothing sent. -/
theorem sendsWith_start
    (shared : Configuration)
    (token : Option String)
    (version : String) :
    (start shared token version).SendsWith
      (shared.forCaller token) where
  configuration := rfl
  sent := by
    intro x hMem
    cases hMem

/- A listing changes a session as its call does. -/
theorem state_list
    (lib : Library)
    (group version plural tag : String)
    (s : Session) :
    (list lib group version plural tag s).state =
      (send lib
        (.list group version plural
          (if tag = "" then none else some tag)) s).2 := by
  unfold list
  dsimp only
  rcases send lib _ s with ⟨e | body, s'⟩ <;> rfl

/- So does a lookup, as its calls do. -/
theorem state_resolveIdentity
    (lib : Library)
    (ref : ObjectReference)
    (label : String)
    (s : Session) :
    (resolveIdentity lib ref label s).state =
      (find lib ref s).2 := by
  unfold resolveIdentity
  rcases find lib ref s with ⟨e | body, s'⟩ <;> rfl

theorem state_health
    (lib : Library)
    (s : Session) :
    (health lib s).state = (send lib .version s).2 := by
  unfold health
  rcases send lib .version s with ⟨e | body, s'⟩ <;> rfl

theorem sendsWith_list
    (lib : Library)
    (group version plural tag : String)
    (hSends : s.SendsWith c) :
    (list lib group version plural tag s).state.SendsWith
      c := by
  rw [state_list]
  exact keeps_send lib _ s hSends

theorem sendsWith_resolveIdentity
    (lib : Library)
    (ref : ObjectReference)
    (label : String)
    (hSends : s.SendsWith c) :
    (resolveIdentity lib ref label s).state.SendsWith
      c := by
  rw [state_resolveIdentity]
  exact keeps_find lib ref s hSends

/- Whatever is asked, the configuration is one. -/
theorem sendsWith_answer
    (lib : Library)
    (r : Request)
    (hSends : s.SendsWith c) :
    (answer lib r s).state.SendsWith c := by
  cases r with
  | identity ref label =>
      exact sendsWith_resolveIdentity lib ref label hSends
  | _ => exact sendsWith_list lib _ _ _ _ hSends

theorem sendsWith_close (hSends : s.SendsWith c) :
    s.close.SendsWith c := by
  unfold close
  split
  · exact hSends
  · rename_i n _
    have hPushed := hSends.push n .disconnect
    exact ⟨hPushed.configuration, hPushed.sent⟩

end Session

end EventTopology
